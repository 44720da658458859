import ModuleKeeper.Decimal.Reading
import ModuleKeeper.Text.Blank
import ModuleKeeper.Value

/-!
# Selections

The little language in which a user picks options by number: numbers and
ranges such as `2-5`, separated by commas and blanks. Numbers count from one;
the indexes that they stand for count from zero.

## Main results

* `mem_indexes_iff`: the indexes of a span are those of its numbers.
-/

namespace ModuleKeeper.Selection

open ModuleKeeper.Text

/-- Why a text is no selection. -/
inductive Fault where
  /-- A token with a dash is not a number, a dash and a number. -/
  | badRange (token : List CodePoint)
  /-- A range starts above its end. -/
  | descending (token : List CodePoint)
  /-- A token without a dash is no number. -/
  | badNumber (token : List CodePoint)
  /-- A number is not the number of an option. -/
  | outside (number : Nat) (count : Int)
  /-- Digits have no value, or there are too many of them. -/
  | unreadable (token : List CodePoint)
  deriving DecidableEq

/-- The words for a selection that is refused. -/
def Fault.message : Fault → Text
  | badRange token => "无效的范围: " ++ Text.ofList token
  | descending token => "范围起点大于终点: " ++ Text.ofList token
  | badNumber token => "无效的编号: " ++ Text.ofList token
  | outside number count =>
    "编号超出范围 1-" ++ Text.ofList (Value.intText count) ++ ": " ++
      Text.ofList (decimal number)
  | unreadable token => "无法读取的数字: " ++ Text.ofList token

/-- The numbers from `first` to `last`. -/
structure Span where
  first : Nat
  last : Nat
  deriving DecidableEq

namespace Span

/-- The indexes of the options that a span of numbers picks. -/
def indexes (s : Span) : List Nat := List.range' (s.first - 1) (s.last + 1 - s.first)

theorem mem_indexes_iff {s : Span} {i : Nat} (h : 1 ≤ s.first) :
    i ∈ s.indexes ↔ s.first ≤ i + 1 ∧ i + 1 ≤ s.last := by
  simp only [indexes, List.mem_range'_1]
  omega

/-- The first number of a span that is not the number of one of `count` options. -/
def outside? (s : Span) (count : Int) : Option Nat :=
  if s.first < 1 ∨ count < (s.first : Int) then some s.first
  else if count < (s.last : Int) then some (count + 1).toNat
  else none

end Span

/-- The value of a token of digits. -/
def numberOf (token digits : List CodePoint) : Except Fault Nat :=
  match Numeral.readInt? digits with
  | some n => .ok n.toNat
  | none => .error (.unreadable token)

/-- The span that a token stands for. -/
def spanOf (token : List CodePoint) : Except Fault Span :=
  if token.contains '-' then
    let front := token.takeWhile (· != .char '-')
    let back := (token.dropWhile (· != .char '-')).drop 1
    if isDigits front && isDigits back then do
      let first ← numberOf token front
      let last ← numberOf token back
      if last < first then .error (.descending token) else .ok ⟨first, last⟩
    else .error (.badRange token)
  else if isDigits token then do
    let n ← numberOf token token
    .ok ⟨n, n⟩
  else .error (.badNumber token)

/-- The span that a token stands for among `count` options. -/
def spanWithin (count : Int) (token : List CodePoint) : Except Fault Span := do
  let s ← spanOf token
  match s.outside? count with
  | some n => .error (.outside n count)
  | none => .ok s

/-- The tokens of a text. -/
def tokens (cs : List CodePoint) : List (List CodePoint) :=
  words (cs.map fun c => if c = CodePoint.char ',' then ' ' else c)

/-- The indexes that a text picks among `count` options, each at its first place. -/
def parse (cs : List CodePoint) (count : Int) : Except Fault (List Nat) := do
  let spans ← (tokens cs).mapM (spanWithin count)
  .ok (spans.flatMap Span.indexes).eraseDups

/-- The options whose index is among `indexes`, in the order of the options. -/
def choose {α : Type} (options : List α) (indexes : List Int) : List α :=
  (options.zipIdx.filter fun o => indexes.contains (o.2 : Int)).map (·.1)

end ModuleKeeper.Selection
