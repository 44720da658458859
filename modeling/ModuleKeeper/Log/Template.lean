import ModuleKeeper.Decimal.Places
import ModuleKeeper.Log.Number

/-!
# Message templates

A message is a template with directives, which are filled with the arguments
of the message: `%s` shows a value as text, `%r` and `%a` in literal form, `%d`
and its kin a number, `%c` a character. `%%` is a percent sign. Between the
sign and its letter a directive may have a key in parentheses, flags, a width
and a precision. A template is first taken apart and then filled, from the
left, so that the first thing that is wrong with it is the one that is told.

## Main results

* `length_directive_le`: a directive never takes more than there is.
-/

namespace ModuleKeeper.Log.Template

open ModuleKeeper.Text

/-! ## Pieces -/

/-- A width or a precision. -/
inductive Amount where
  | absent
  | given (n : Nat)
  /-- To be taken from the arguments. -/
  | fromArgument
  | tooLarge
  deriving DecidableEq, Inhabited

/-- What stands between a percent sign and its letter. -/
structure Directive where
  key : Option (List CodePoint)
  flags : List CodePoint
  width : Amount
  precision : Amount
  /-- The letter; absent at the end of the template. -/
  letter : Option CodePoint
  deriving Inhabited

/-- A piece of a template. -/
inductive Piece where
  | character (c : CodePoint)
  | directive (d : Directive)
  /-- A key whose parenthesis is never closed. -/
  | openKey
  deriving Inhabited

/-- Whether a character is a flag. -/
def isFlag (c : CodePoint) : Bool := (letters "-+ #0").contains c

/-- Whether a character is a mark of size, which has no effect. -/
def isSizeMark (c : CodePoint) : Bool := (letters "hlL").contains c

/-- The largest width. -/
def widthLimit : Nat := Nat.pow 2 63 - 1

/-- The largest precision. -/
def precisionLimit : Nat := Nat.pow 2 31 - 1

/-- Splits off the rest of a key. `depth` parentheses are open; `key` was read, last first. -/
def splitKey (depth : Nat) (key : List CodePoint) :
    List CodePoint → Option (List CodePoint × List CodePoint)
  | [] => none
  | ')' :: cs => if depth ≤ 1 then some (key.reverse, cs) else splitKey (depth - 1) (')' :: key) cs
  | '(' :: cs => splitKey (depth + 1) ('(' :: key) cs
  | c :: cs => splitKey depth (c :: key) cs

/-- Splits off an amount. -/
def splitAmount (limit : Nat) (cs : List CodePoint) : Amount × List CodePoint :=
  match cs with
  | '*' :: rest => (.fromArgument, rest)
  | _ =>
    match cs.takeWhile CodePoint.isDigit with
    | [] => (.absent, cs)
    | ds =>
      let n := ds.foldl (fun n d => n * 10 + (d.toNat - '0'.toNat)) 0
      (if n ≤ limit then .given n else .tooLarge, cs.dropWhile CodePoint.isDigit)

/-- Splits off a precision: a point, behind which no digits count as zero. -/
def splitPrecision (cs : List CodePoint) : Amount × List CodePoint :=
  match cs with
  | '.' :: rest =>
    match splitAmount precisionLimit rest with
    | (.absent, rest) => (.given 0, rest)
    | split => split
  | _ => (.absent, cs)

/-- The text without a mark of size at its start. -/
def withoutSizeMark (cs : List CodePoint) : List CodePoint :=
  match cs with
  | c :: rest => if isSizeMark c then rest else cs
  | [] => []

/-- The rest of a directive behind its key. -/
def directiveBody (key : Option (List CodePoint)) (cs : List CodePoint) :
    Directive × List CodePoint :=
  let (width, afterWidth) := splitAmount widthLimit (cs.dropWhile isFlag)
  let (precision, afterPrecision) := splitPrecision afterWidth
  let rest := withoutSizeMark afterPrecision
  (⟨key, cs.takeWhile isFlag, width, precision, rest.head?⟩, rest.tail)

/-- The piece that a percent sign starts, and what follows it. -/
def directive (cs : List CodePoint) : Piece × List CodePoint :=
  match cs with
  | '%' :: rest => (.character '%', rest)
  | '(' :: rest =>
    match splitKey 1 [] rest with
    | some (key, rest) => (directiveBody (some key) rest).map .directive id
    | none => (.openKey, [])
  | _ => (directiveBody none cs).map .directive id

theorem length_dropWhile_le (p : CodePoint → Bool) (cs : List CodePoint) :
    (cs.dropWhile p).length ≤ cs.length :=
  (List.dropWhile_suffix p).length_le

theorem length_splitKey_le {depth : Nat} {key k rest cs : List CodePoint}
    (h : splitKey depth key cs = some (k, rest)) : rest.length ≤ cs.length := by
  fun_induction splitKey depth key cs with
  | case1 => cases h
  | case2 depth key cs hd =>
    cases h
    simp
  | case3 depth key cs hd ih =>
    exact Nat.le_succ_of_le (ih h)
  | case4 depth key cs ih => exact Nat.le_succ_of_le (ih h)
  | case5 depth key c cs _ _ ih => exact Nat.le_succ_of_le (ih h)

theorem length_splitAmount_le (limit : Nat) (cs : List CodePoint) :
    (splitAmount limit cs).2.length ≤ cs.length := by
  unfold splitAmount
  split
  · simp
  · split
    · simp
    · exact length_dropWhile_le _ _

theorem length_splitPrecision_le (cs : List CodePoint) :
    (splitPrecision cs).2.length ≤ cs.length := by
  unfold splitPrecision
  split
  · rename_i rest
    have h := length_splitAmount_le precisionLimit rest
    split
    · rename_i hs
      rw [hs] at h
      exact Nat.le_succ_of_le h
    · exact Nat.le_succ_of_le h
  · simp

theorem length_withoutSizeMark_le (cs : List CodePoint) :
    (withoutSizeMark cs).length ≤ cs.length := by
  unfold withoutSizeMark
  split
  · split <;> simp
  · simp

theorem length_directiveBody_le (key : Option (List CodePoint)) (cs : List CodePoint) :
    (directiveBody key cs).2.length ≤ cs.length := by
  unfold directiveBody
  dsimp only
  rw [List.length_tail]
  have h1 := length_withoutSizeMark_le
    (splitPrecision (splitAmount widthLimit (cs.dropWhile isFlag)).2).2
  have h2 := length_splitPrecision_le (splitAmount widthLimit (cs.dropWhile isFlag)).2
  have h3 := length_splitAmount_le widthLimit (cs.dropWhile isFlag)
  have h4 := length_dropWhile_le isFlag cs
  omega

theorem length_directive_le (cs : List CodePoint) : (directive cs).2.length ≤ cs.length := by
  unfold directive
  split
  · simp
  · rename_i rest
    split
    · rename_i key more h
      have h1 := length_splitKey_le h
      have h2 := length_directiveBody_le (some key) more
      simp only [Prod.map_snd, id_eq, List.length_cons]
      omega
    · simp
  · exact length_directiveBody_le none cs

/-- The pieces of a template. -/
def pieces : List CodePoint → List Piece
  | [] => []
  | c :: cs =>
    if c = '%' then (directive cs).1 :: pieces (directive cs).2 else .character c :: pieces cs
termination_by cs => cs.length
decreasing_by
  · have := length_directive_le cs
    simp only [List.length_cons]
    omega
  · simp

/-! ## Arguments -/

/-- The arguments that are left: several, or one that serves once. -/
inductive Supply where
  | several (rest : List Value)
  | one (v : Value)
  | used

/-- The next argument. -/
def Supply.next : Supply → Except Mishap (Value × Supply)
  | several (v :: rest) => .ok (v, several rest)
  | several [] => .error .wrongType
  | one v => .ok (v, used)
  | used => .error .wrongType

/-- Whether no argument was left over. A map is not used up. -/
def Supply.isDone (fromMap : Bool) : Supply → Bool
  | several rest => rest.isEmpty
  | one _ => fromMap
  | used => true

/-- An amount as a number, which may be negative if it is an argument. -/
def Amount.resolve (bits : Nat) (s : Supply) : Amount → Except Mishap (Option Int × Supply)
  | absent => .ok (none, s)
  | given n => .ok (some (n : Int), s)
  | tooLarge => .error .badValue
  | fromArgument => do
    let (v, s) ← s.next
    let n ← Number.exact v
    let bound : Int := (Nat.pow 2 bits : Nat)
    if -bound ≤ n ∧ n < bound then .ok (some n, s) else .error .overflow

/-! ## Conversions -/

/-- A filled directive before it is aligned. -/
structure Filling where
  /-- Whether it is a number, which may be filled up with zeros. -/
  isNumber : Bool
  /-- The sign and the mark of the base. -/
  front : List CodePoint
  body : List CodePoint

/-- The sign of a number. -/
def signText (flags : List CodePoint) (negative : Bool) : List CodePoint :=
  if negative then "-"
  else if flags.contains '+' then "+"
  else if flags.contains ' ' then " "
  else []

/-- The character that `%c` shows. -/
def characterOf : Value → Except Mishap CodePoint
  | .str s =>
    match s.toList with
    | [c] => .ok c
    | _ => .error .wrongType
  | v => do
    let n ← Number.exact v
    if 0 ≤ n ∧ n < CodePoint.limit then .ok (CodePoint.ofNat n.toNat) else .error .overflow

/-- The base that a letter stands for, if it is not ten. -/
def baseOf (c : CodePoint) : Option Nat :=
  if c = 'x' ∨ c = 'X' then some 16 else if c = 'o' then some 8 else none

/-- The notation that a letter stands for. -/
def styleOf (c : CodePoint) : Option Double.Style :=
  if c = 'f' ∨ c = 'F' then some .positional
  else if c = 'e' ∨ c = 'E' then some .exponential
  else if c = 'g' ∨ c = 'G' then some .general
  else none

/-- A text in capitals if the letter is one. -/
def inCaseOf (letter : CodePoint) (cs : List CodePoint) : List CodePoint :=
  if letter.isUpper then cs.map CodePoint.toUpper else cs

/-- The literal form in ASCII. -/
def asciiLiteral (v : Value) : List CodePoint :=
  v.literal.flatMap fun c => if c.toNat < 128 then [c] else numbered c.toNat

/-- A text, cut to a precision. -/
def textFilling (precision : Option Nat) (cs : List CodePoint) : Filling :=
  ⟨false, [], match precision with
    | some p => cs.take p
    | none => cs⟩

/-- The number of characters up to which a text can be held. -/
def textLimit : Nat := Nat.pow 2 30

/-- The largest precision of a whole number. -/
def wholePrecisionLimit : Nat := precisionLimit - 3

/-- A whole number in a base, with zeros up to a precision. -/
def wholeFilling (flags : List CodePoint) (letter : CodePoint) (precision : Option Nat) (base : Nat)
    (n : Int) : Except Mishap Filling :=
  let least := precision.getD 0
  if wholePrecisionLimit < least then .error .overflow
  else if textLimit < least then .error .outOfMemory
  else
    let mark :=
      letters (if base = 10 ∨ !flags.contains '#' then "" else if base = 8 then "0o" else "0x")
    .ok ⟨true, signText flags (n < 0) ++ inCaseOf letter mark,
      inCaseOf letter (padLeft '0' least ((Nat.toDigits base n.natAbs).map .char))⟩

/-- The number of decimal places where none is given. -/
def defaultPrecision : Nat := 6

/--
The precision that counts for a notation: with an exponent there is one digit more, and one
more than the largest precision is none.
-/
def countedPrecision (style : Double.Style) (precision : Nat) : Nat :=
  if style = .exponential ∧ precision = precisionLimit then 0 else precision

/-- A number in one of the notations. -/
def realFilling (flags : List CodePoint) (letter : CodePoint) (precision : Option Nat)
    (style : Double.Style) (x : Double) : Except Mishap Filling :=
  let places := countedPrecision style (precision.getD defaultPrecision)
  let keepPoint := flags.contains '#'
  if textLimit < places ∧ x.isFinite ∧ (keepPoint ∨ style ≠ .general) then .error .outOfMemory
  else
    .ok ⟨true, signText flags x.isNegative,
      inCaseOf letter (x.withPrecision style keepPoint places)⟩

/-- What a letter makes of a value. -/
def convert (flags : List CodePoint) (precision : Option Nat) (letter : CodePoint) (v : Value) :
    Except Mishap Filling :=
  if letter = 's' then .ok (textFilling precision v.displayed)
  else if letter = 'r' then .ok (textFilling precision v.literal)
  else if letter = 'a' then .ok (textFilling precision (asciiLiteral v))
  else if letter = 'd' ∨ letter = 'i' ∨ letter = 'u' then
    (Number.cut v).bind (wholeFilling flags letter precision 10)
  else
    match baseOf letter, styleOf letter with
    | some base, _ => (Number.exact v).bind (wholeFilling flags letter precision base)
    | none, some style => (Number.real v).bind (realFilling flags letter precision style)
    | none, none =>
      if letter = 'c' then (characterOf v).map fun c => ⟨false, [], [c]⟩
      else .error .badValue

/-- The width that counts: the least number has no absolute value and is none. -/
def countedWidth (width : Option Int) : Nat :=
  let w := (width.getD 0).natAbs
  if w ≤ widthLimit then w else 0

/-- A filling in its width. A negative width means the left end, as the flag `-` does. -/
def align (flags : List CodePoint) (width : Option Int) (f : Filling) :
    Except Mishap (List CodePoint) :=
  let w := countedWidth width
  if textLimit < w then .error .outOfMemory
  else if flags.contains '-' ∨ width.getD 0 < 0 then .ok (padRight ' ' w (f.front ++ f.body))
  else if f.isNumber ∧ flags.contains '0' then
    .ok (f.front ++ padLeft '0' (w - f.front.length) f.body)
  else .ok (padLeft ' ' w (f.front ++ f.body))

/-! ## Filling -/

/-- Where the keys of a template are looked up. -/
inductive Keys where
  /-- Nowhere: the arguments come one after the other. -/
  | nowhere
  /-- In a list, which has places and no keys. -/
  | places
  | entries (es : List (Value × Value))
  deriving Inhabited

/-- Whether there is something in which keys are looked up, even if it has none. -/
def Keys.isSome : Keys → Bool
  | nowhere => false
  | _ => true

/-- The supply that a directive uses: with a key, the entry of the map. -/
def Keys.supply (keys : Keys) (s : Supply) : Option (List CodePoint) → Except Mishap Supply
  | none => .ok s
  | some key =>
    match keys with
    | entries es =>
      match Value.lookup? (.str (Text.ofList key)) es with
      | some v => .ok (.one v)
      | none => .error .missingKey
    | _ => .error .wrongType

/-- Fills a directive. -/
def fillDirective (keys : Keys) (s : Supply) (d : Directive) :
    Except Mishap (List CodePoint × Supply) := do
  let s ← keys.supply s d.key
  let (width, s) ← d.width.resolve 63 s
  let (precision, s) ← d.precision.resolve 31 s
  match d.letter with
  | none => .error .badValue
  | some letter =>
    let (v, s) ← s.next
    let filling ← convert d.flags (precision.map Int.toNat) letter v
    return (← align d.flags width filling, s)

/-- Fills the pieces, after the text `done`, which is in reverse. -/
def fillPieces (keys : Keys) (s : Supply) (done : List CodePoint) :
    List Piece → Except Mishap (List CodePoint)
  | [] => if s.isDone keys.isSome then .ok done.reverse else .error .wrongType
  | .character c :: ps => fillPieces keys s (c :: done) ps
  | .openKey :: _ => .error (if keys.isSome then .badValue else .wrongType)
  | .directive d :: ps => do
    let (cs, s) ← fillDirective keys s d
    fillPieces keys s (cs.reverse ++ done) ps

/-- The arguments of a message: several ones, or a value in their place. -/
inductive Arguments where
  | several (values : List Value)
  | single (v : Value)
  deriving Inhabited

/-- Fills a template with a single value. A map serves the keys of the template. -/
def fillSingle (template : List CodePoint) (v : Value) : Except Mishap (List CodePoint) :=
  let keys : Keys :=
    match v with
    | .map entries => .entries entries
    | .list _ => .places
    | _ => .nowhere
  if v.truthy then fillPieces keys (.one v) [] (pieces template) else .ok template

/-- Fills a template. A map that is the only one of several arguments is a single value. -/
def fill (template : List CodePoint) : Arguments → Except Mishap (List CodePoint)
  | .several [] => .ok template
  | .several [.map (e :: es)] => fillSingle template (.map (e :: es))
  | .several vs => fillPieces .nowhere (.several vs) [] (pieces template)
  | .single v => fillSingle template v

end ModuleKeeper.Log.Template
