import ModuleKeeper.Decimal.Reading
import ModuleKeeper.Value

/-!
# Reading JSON

A text as a value, or the place where it stops being one. The reader walks
the characters once. What it could not use is reported by the number of
characters that were left, from which line and column follow at the end.

Beyond the standard it takes `NaN`, `Infinity` and `-Infinity`. Of entries
with one name the last value counts, at the place of the first.

## Main results

* `read_nil`: the empty text holds no value.
-/

namespace ModuleKeeper.Json

open ModuleKeeper.Text

/-! ## Misreadings -/

/-- What was wrong with a text. -/
inductive Reason where
  | expectingValue
  | expectingName
  | expectingColon
  | expectingComma
  | unterminatedText
  | controlCharacter
  | badEscape
  | badCodePoint
  | extraData
  | byteOrderMark
  deriving DecidableEq, Inhabited

/-- The words for what was wrong. -/
def Reason.words : Reason → Text
  | expectingValue => "Expecting value"
  | expectingName => "Expecting property name enclosed in double quotes"
  | expectingColon => "Expecting ':' delimiter"
  | expectingComma => "Expecting ',' delimiter"
  | unterminatedText => "Unterminated string starting at"
  | controlCharacter => "Invalid control character at"
  | badEscape => "Invalid \\escape"
  | badCodePoint => "Invalid \\uXXXX escape"
  | extraData => "Extra data"
  | byteOrderMark => "Unexpected UTF-8 BOM (decode using utf-8-sig)"

/-- A misreading: what was wrong, and where. Lines and columns count from one. -/
structure Misread where
  reason : Reason
  line : Nat
  column : Nat
  offset : Nat
  deriving DecidableEq, Inhabited

/-- The words for a misreading. -/
def Misread.message (m : Misread) : Text :=
  m.reason.words ++ ": line " ++ toString m.line ++ " column " ++ toString m.column ++
    " (char " ++ toString m.offset ++ ")"

/-- Why a text is no value. -/
inductive Fault where
  /-- The text is malformed. -/
  | misread (m : Misread)
  /-- A whole number has more digits than are read. -/
  | tooManyDigits
  deriving DecidableEq, Inhabited

/-- A misreading of the text `cs` at the offset `n`. -/
def place (cs : List CodePoint) (reason : Reason) (n : Nat) : Misread :=
  let before := cs.take n
  ⟨reason, before.count (.char '\n') + 1,
    (before.reverse.takeWhile (· != .char '\n')).length + 1, n⟩

/-- What stops the reader: a reason with the number of characters left, or a long number. -/
inductive Obstacle where
  | at (reason : Reason) (left : Nat)
  | tooManyDigits

/-- A step of the reader: a result with the rest of the text, or an obstacle. -/
abbrev Step (α : Type) := Except Obstacle (α × List CodePoint)

/-! ## Texts -/

/-- The value of a hexadecimal digit. -/
def hexValue? (c : CodePoint) : Option Nat :=
  if '0' ≤ c ∧ c ≤ '9' then some (c.toNat - '0'.toNat)
  else if 'a' ≤ c ∧ c ≤ 'f' then some (c.toNat - 'a'.toNat + 10)
  else if 'A' ≤ c ∧ c ≤ 'F' then some (c.toNat - 'A'.toNat + 10)
  else none

/-- The value of four hexadecimal digits. -/
def hexWord? (a b c d : CodePoint) : Option Nat := do
  let a ← hexValue? a
  let b ← hexValue? b
  let c ← hexValue? c
  let d ← hexValue? d
  return ((a * 16 + b) * 16 + c) * 16 + d

/-- The character that a letter stands for after a backslash. -/
def escaped? (c : CodePoint) : Option CodePoint :=
  if c = '"' ∨ c = '\\' ∨ c = '/' then some c
  else if c = 'b' then some '\x08'
  else if c = 'f' then some '\x0c'
  else if c = 'n' then some '\n'
  else if c = 'r' then some '\r'
  else if c = 't' then some '\t'
  else none

/-- The character of a pair of surrogates. -/
def joined (high low : Nat) : CodePoint :=
  CodePoint.ofNat (0x10000 + (high - 0xd800) * 0x400 + (low - 0xdc00))

/--
A text after its opening quote. `opening` is the number of characters left at that
quote, `done` holds the characters read so far, last one first.
-/
def textFrom (opening : Nat) (done : List CodePoint) : List CodePoint → Step Text
  | [] => .error (.at .unterminatedText opening)
  | '"' :: rest => .ok (Text.ofList done.reverse, rest)
  | ['\\'] => .error (.at .unterminatedText opening)
  | '\\' :: 'u' :: a :: b :: c :: d :: e :: rest =>
    match hexWord? a b c d with
    | none => .error (.at .badCodePoint (rest.length + 6))
    | some n =>
      if 0xd800 ≤ n ∧ n < 0xdc00 then
        match e, rest with
        | '\\', 'u' :: f :: g :: h :: i :: j :: more =>
          match hexWord? f g h i with
          | none => .error (.at .badCodePoint (more.length + 6))
          | some m =>
            if 0xdc00 ≤ m ∧ m < 0xe000 then textFrom opening (joined n m :: done) (j :: more)
            else
              textFrom opening (CodePoint.ofNat n :: done)
                ('\\' :: 'u' :: f :: g :: h :: i :: j :: more)
        | e, rest => textFrom opening (CodePoint.ofNat n :: done) (e :: rest)
      else textFrom opening (CodePoint.ofNat n :: done) (e :: rest)
  | '\\' :: 'u' :: rest => .error (.at .badCodePoint (rest.length + 1))
  | '\\' :: c :: rest =>
    match escaped? c with
    | some c => textFrom opening (c :: done) rest
    | none => .error (.at .badEscape (rest.length + 2))
  | c :: rest =>
    if c.toNat ≤ 0x1f then .error (.at .controlCharacter (rest.length + 1))
    else textFrom opening (c :: done) rest

/-! ## Numbers -/

/-- The exponent at the start of a text: its sign, its digits and the rest. -/
def exponent? : List CodePoint → Option (Bool × List CodePoint × List CodePoint)
  | c :: cs =>
    if c = 'e' ∨ c = 'E' then
      let (negative, body) := Numeral.splitSign cs
      let digits := body.takeWhile CodePoint.isDigit
      if digits.isEmpty then none else some (negative, digits, body.dropWhile CodePoint.isDigit)
    else none
  | [] => none

/-- The digits after a point at the start of a text, if there are any, and the rest. -/
def places : List CodePoint → List CodePoint × List CodePoint
  | '.' :: cs =>
    let digits := cs.takeWhile CodePoint.isDigit
    if digits.isEmpty then ([], '.' :: cs) else (digits, cs.dropWhile CodePoint.isDigit)
  | cs => ([], cs)

/-- The value of a string of ASCII digits. -/
def digitsValue (ds : List CodePoint) : Nat :=
  Numeral.valueOf 10 0 (ds.map fun d => d.toNat - '0'.toNat)

/-- The digits before the point: a zero stands alone. -/
def wholeDigits (cs : List CodePoint) : List CodePoint :=
  match cs with
  | '0' :: _ => ['0']
  | _ => cs.takeWhile CodePoint.isDigit

/-- A number at the start of a text without sign. -/
def numberAfterSign (negative : Bool) (cs : List CodePoint) : Option (Step Value) :=
  let whole := wholeDigits cs
  if whole.isEmpty then none
  else
    let (fraction, rest) := places (cs.drop whole.length)
    match exponent? rest with
    | some (below, ds, rest) =>
      let e := Numeral.signed below (digitsValue ds) - (fraction.length : Int)
      some (.ok (.float (Double.ofDecimal negative (digitsValue (whole ++ fraction)) e), rest))
    | none =>
      if fraction.isEmpty then
        if Numeral.digitLimit < whole.length then some (.error .tooManyDigits)
        else some (.ok (.int (Numeral.signed negative (digitsValue whole)), rest))
      else
        some (.ok (.float (Double.ofDecimal negative (digitsValue (whole ++ fraction))
          (-(fraction.length : Int))), rest))

/-- A number at the start of a text. -/
def number (cs : List CodePoint) : Step Value :=
  let found :=
    match cs with
    | '-' :: rest => numberAfterSign true rest
    | _ => numberAfterSign false cs
  found.getD (.error (.at .expectingValue cs.length))

/-! ## Values -/

/-- Whether a character may stand between the parts of a value. -/
def isSpace (c : CodePoint) : Bool := c = ' ' || c = '\t' || c = '\n' || c = '\r'

/-- The text without the spaces at its start. -/
def skip (cs : List CodePoint) : List CodePoint := cs.dropWhile isSpace

/-- The words that are values, with what they mean. -/
def constants : List (List CodePoint × Value) :=
  [("null", .null), ("true", .bool true), ("false", .bool false),
    ("NaN", .float .nan), ("Infinity", .float (.infinite false)),
    ("-Infinity", .float (.infinite true))]

/-- A word or a number at the start of a text. -/
def scalar (cs : List CodePoint) : Step Value :=
  match constants.find? fun w => w.1.isPrefixOf cs with
  | some w => .ok (w.2, cs.drop w.1.length)
  | none => number cs

mutual

/-- A value at the start of a text. The first argument bounds the steps. -/
def valueAt : Nat → List CodePoint → Step Value
  | 0, cs => .error (.at .expectingValue cs.length)
  | fuel + 1, cs =>
    match cs with
    | '"' :: rest => (textFrom cs.length [] rest).map fun (s, rest) => (.str s, rest)
    | '[' :: rest =>
      match skip rest with
      | ']' :: rest => .ok (.list [], rest)
      | rest => itemsFrom fuel [] rest
    | '\x7b' :: rest =>
      match skip rest with
      | '\x7d' :: rest => .ok (.map [], rest)
      | rest => entriesFrom fuel [] rest
    | _ => scalar cs

/-- The items of a list after `done`, up to its end. -/
def itemsFrom : Nat → List Value → List CodePoint → Step Value
  | 0, _, cs => .error (.at .expectingValue cs.length)
  | fuel + 1, done, cs =>
    match valueAt fuel cs with
    | .error o => .error o
    | .ok (v, rest) =>
      match skip rest with
      | ']' :: rest => .ok (.list (v :: done).reverse, rest)
      | ',' :: rest => itemsFrom fuel (v :: done) (skip rest)
      | rest => .error (.at .expectingComma rest.length)

/-- The entries of an object after `done`, up to its end. -/
def entriesFrom : Nat → List (Value × Value) → List CodePoint → Step Value
  | 0, _, cs => .error (.at .expectingName cs.length)
  | fuel + 1, done, cs =>
    match cs with
    | '"' :: rest =>
      match textFrom cs.length [] rest with
      | .error o => .error o
      | .ok (name, rest) =>
        match skip rest with
        | ':' :: rest =>
          match valueAt fuel (skip rest) with
          | .error o => .error o
          | .ok (v, rest) =>
            let done := Value.put (.str name) v done
            match skip rest with
            | '\x7d' :: rest => .ok (.map done, rest)
            | ',' :: rest => entriesFrom fuel done (skip rest)
            | rest => .error (.at .expectingComma rest.length)
        | rest => .error (.at .expectingColon rest.length)
    | _ => .error (.at .expectingName cs.length)

end

/-- The value that a whole text spells. -/
def read (cs : List CodePoint) : Except Fault Value :=
  let misread (reason : Reason) (left : Nat) : Except Fault Value :=
    .error (.misread (place cs reason (cs.length - left)))
  match cs with
  | '\ufeff' :: rest => misread .byteOrderMark (rest.length + 1)
  | _ =>
    match valueAt (2 * cs.length + 1) (skip cs) with
    | .error (.at reason left) => misread reason left
    | .error .tooManyDigits => .error .tooManyDigits
    | .ok (v, rest) =>
      match skip rest with
      | [] => .ok v
      | rest => misread .extraData rest.length

theorem read_nil : read [] = .error (.misread ⟨.expectingValue, 1, 1, 0⟩) := rfl

end ModuleKeeper.Json
