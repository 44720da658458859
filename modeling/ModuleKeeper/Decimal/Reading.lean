import ModuleKeeper.Decimal.Double
import ModuleKeeper.Text.Digit

/-!
# Reading numbers

Whole numbers and fractions from text, with blanks around them, a sign,
decimal digits of any script, and single underscores between digits. A whole
number in base ten may have 4300 digits.

## Main results

* `valueOf_append`: a digit string is read from the left.
-/

namespace ModuleKeeper

open ModuleKeeper.Text

namespace Numeral

/-- The greatest number of digits of a whole number in base ten. -/
def digitLimit : Nat := 4300

/--
The blanks that may stand around a number: the blank characters without the four
information separators.
-/
def isOuterBlank (c : CodePoint) : Bool := isBlank c && !(0x1c ≤ c.toNat && c.toNat ≤ 0x1f)

/-- Splits off a sign; `true` stands for the minus sign. -/
def splitSign : List CodePoint → Bool × List CodePoint
  | '-' :: cs => (true, cs)
  | '+' :: cs => (false, cs)
  | cs => (false, cs)

/-! ## Whole numbers -/

/-- The value of the digit string `ds` in a base, read after `start`. -/
def valueOf (base : Nat) (start : Nat) (ds : List Nat) : Nat :=
  ds.foldl (fun n d => n * base + d) start

theorem valueOf_append (base start : Nat) (ds es : List Nat) :
    valueOf base start (ds ++ es) = valueOf base (valueOf base start ds) es := by
  simp [valueOf]

/-- The value of a digit in bases above ten too, in either case. -/
def digitValue? (base : Nat) (c : CodePoint) : Option Nat :=
  let value :=
    match decimalValue? c with
    | some d => some d
    | none =>
      if 'a' ≤ c ∧ c ≤ 'z' then some (c.toNat - 'a'.toNat + 10)
      else if 'A' ≤ c ∧ c ≤ 'Z' then some (c.toNat - 'A'.toNat + 10)
      else none
  value.filter (· < base)

/--
The digit values of a text of digits, in which single underscores may stand
between digits. `afterDigit` says what was read last, `done` what was read so far.
-/
def digitRunFrom (value : CodePoint → Option Nat) (afterDigit : Bool) (done : List Nat) :
    List CodePoint → Option (List Nat)
  | [] => if afterDigit then some done.reverse else none
  | c :: cs =>
    if c = '_' then
      if afterDigit then digitRunFrom value false done cs else none
    else
      match value c with
      | some d => digitRunFrom value true (d :: done) cs
      | none => none

/-- The digit values of a whole text, if it is a run of digits. -/
def digitRun? (value : CodePoint → Option Nat) (cs : List CodePoint) : Option (List Nat) :=
  digitRunFrom value false [] cs

/-- A number with its sign. -/
def signed (negative : Bool) (n : Nat) : Int := if negative then -(n : Int) else n

/-- The whole number that a text spells in base ten. -/
def readInt? (cs : List CodePoint) : Option Int :=
  let (negative, body) := splitSign (trimBy isOuterBlank cs)
  match digitRun? decimalValue? body with
  | some ds => if ds.length ≤ digitLimit then some (signed negative (valueOf 10 0 ds)) else none
  | none => none

/-- The letter that marks a base after a zero. -/
def baseLetter? (base : Nat) : Option CodePoint :=
  if base = 2 then some 'b' else if base = 8 then some 'o' else if base = 16 then some 'x' else none

/--
The digits without the mark of their base, behind which one underscore may stand. The zero of
the mark may be that of any script.
-/
def withoutBaseMark (base : Nat) (cs : List CodePoint) : List CodePoint :=
  match cs with
  | zero :: c :: rest =>
    if decimalValue? zero = some 0 ∧ some c.toLower = baseLetter? base then
      match rest with
      | '_' :: more => more
      | _ => rest
    else cs
  | _ => cs

/-- The whole number that a text spells in base two, eight or sixteen. -/
def readIntIn? (base : Nat) (cs : List CodePoint) : Option Int :=
  let (negative, body) := splitSign (trimBy isOuterBlank cs)
  (digitRun? (digitValue? base) (withoutBaseMark base body)).map fun ds =>
    signed negative (valueOf base 0 ds)

/-! ## Fractions -/

/-- A decimal digit of any script as the ASCII digit of its value. -/
def plainDigit (c : CodePoint) : CodePoint :=
  match decimalValue? c with
  | some d => CodePoint.ofNat ('0'.toNat + d)
  | none => c

/-- Whether each underscore stands between two digits. `last` is the character before. -/
def underscoresFit (last : CodePoint) : List CodePoint → Bool
  | [] => last != '_'
  | c :: cs =>
    (if c = '_' then last.isDigit else last != '_' || c.isDigit) && underscoresFit c cs

/-- The numbers that are spelled as words. -/
def named? (negative : Bool) (cs : List CodePoint) : Option Double :=
  let word := Text.ofList (cs.map CodePoint.toLower)
  if word = "inf" || word = "infinity" then some (.infinite negative)
  else if word = "nan" then some .nan
  else none

/-- The exponent after its letter; the empty text is the exponent zero. -/
def exponent? : List CodePoint → Option Int
  | [] => some 0
  | c :: cs =>
    if c = 'e' ∨ c = 'E' then
      let (negative, ds) := splitSign cs
      if !ds.isEmpty && ds.all CodePoint.isDigit then
        some (signed negative (valueOf 10 0 (ds.map fun d => d.toNat - '0'.toNat)))
      else none
    else none

/-- The number of a text of ASCII digits with an optional point and an optional exponent. -/
def fraction? (negative : Bool) (cs : List CodePoint) : Option Double :=
  let whole := cs.takeWhile CodePoint.isDigit
  let (places, rest) :=
    match cs.dropWhile CodePoint.isDigit with
    | '.' :: more => (more.takeWhile CodePoint.isDigit, more.dropWhile CodePoint.isDigit)
    | more => ([], more)
  if whole.isEmpty && places.isEmpty then none
  else
    (exponent? rest).map fun e =>
      let digits := valueOf 10 0 ((whole ++ places).map fun d => d.toNat - '0'.toNat)
      Double.ofDecimal negative digits (e - (places.length : Int))

/-- The number that a text spells. -/
def readDouble? (cs : List CodePoint) : Option Double :=
  let (negative, body) := splitSign ((trimBy isOuterBlank cs).map plainDigit)
  match named? negative body with
  | some x => some x
  | none =>
    if underscoresFit ' ' body then fraction? negative (body.filter (· != .char '_')) else none

end Numeral

end ModuleKeeper
