import ModuleKeeper.Calendar
import ModuleKeeper.Decimal.Reading
import ModuleKeeper.Decimal.Shortest
import ModuleKeeper.Text.Quoted

/-!
# Values

The dynamic data that settings files and service answers hold, and the
questions that are asked of it: which kind it is, whether it counts as true,
whether two keys are the same, how it reads in a message.

A list or a map may contain itself. It is then written down once, and where it
comes again inside itself stands how many lists and maps further out it began.

## Main results

* `truthy_eq_false_iff`: the values that count as false.
* `displayed_ne_nil_of_truthy`: a value that counts as true is never shown as nothing.
-/

namespace ModuleKeeper

open ModuleKeeper.Text

/-- A value of a settings file or of a service answer. Entries of a map keep their order. -/
inductive Value where
  | null
  | bool (b : Bool)
  | int (n : Int)
  | float (x : Double)
  | str (s : Text)
  | bytes (bs : List UInt8)
  | date (d : Date)
  | moment (m : Moment)
  | list (items : List Value)
  | map (entries : List (Value × Value))
  /-- Two values as one. -/
  | pair (first second : Value)
  /-- Values of which none comes twice. -/
  | set (members : List Value)
  /-- A list or a map around this place, counted outwards from zero. -/
  | again (levels : Nat) (isMap : Bool)
  deriving Inhabited

namespace Value

/-- The name of the kind of a value, as messages give it. -/
def kindName : Value → Text
  | null => "NoneType"
  | bool _ => "bool"
  | int _ => "int"
  | float _ => "float"
  | str _ => "str"
  | bytes _ => "bytes"
  | date _ => "date"
  | moment _ => "datetime"
  | list _ => "list"
  | map _ => "dict"
  | pair _ _ => "tuple"
  | set _ => "set"
  | again _ isMap => if isMap then "dict" else "list"

/-- Whether a value counts as true: null, zero and everything empty count as false. -/
def truthy : Value → Bool
  | null => false
  | bool b => b
  | int n => n != 0
  | float x => !x.isZero
  | str s => !s.isEmpty
  | bytes bs => !bs.isEmpty
  | date _ => true
  | moment _ => true
  | list items => !items.isEmpty
  | map entries => !entries.isEmpty
  | pair _ _ => true
  | set members => !members.isEmpty
  | again _ _ => true

theorem truthy_eq_false_iff {v : Value} : v.truthy = false ↔
    v = null ∨ v = bool false ∨ v = int 0 ∨ (∃ x : Double, x.isZero = true ∧ v = float x) ∨
      v = str Text.empty ∨ v = bytes [] ∨ v = list [] ∨ v = map [] ∨ v = set [] := by
  cases v <;> simp [truthy, Text.isEmpty_iff]

/-! ## Numbers -/

/-- The whole number that a value counts as, if it is a number and whole. -/
def whole? : Value → Option Int
  | bool b => some (if b then 1 else 0)
  | int n => some n
  | float x => x.whole?
  | _ => none

mutual

/-- Whether a value holds a whole number that is too long to be shown. -/
def hasLongNumber : Value → Bool
  | int n => decide (Nat.pow 10 Numeral.digitLimit ≤ n.natAbs)
  | list items => anyLongNumber items
  | map entries => anyLongEntry entries
  | pair a b => hasLongNumber a || hasLongNumber b
  | set members => anyLongNumber members
  | _ => false

/-- Whether a value of a list holds a whole number that is too long to be shown. -/
def anyLongNumber : List Value → Bool
  | [] => false
  | v :: vs => hasLongNumber v || anyLongNumber vs

/-- Whether an entry of a map holds a whole number that is too long to be shown. -/
def anyLongEntry : List (Value × Value) → Bool
  | [] => false
  | (k, v) :: es => hasLongNumber k || hasLongNumber v || anyLongEntry es

end

mutual

/-- Whether a value contains itself, so that it has no end. -/
def isEndless : Value → Bool
  | list items => anyEndless items
  | map entries => anyEndlessEntry entries
  | pair a b => isEndless a || isEndless b
  | again _ _ => true
  | _ => false

/-- Whether a value of a list contains itself. -/
def anyEndless : List Value → Bool
  | [] => false
  | v :: vs => isEndless v || anyEndless vs

/-- Whether a value of an entry contains itself. -/
def anyEndlessEntry : List (Value × Value) → Bool
  | [] => false
  | (_, v) :: es => isEndless v || anyEndlessEntry es

end

/-! ## Keys -/

/-- Whether a value can be a key, or one of several names: lists, maps and sets cannot. -/
def canBeKey : Value → Bool
  | list _ => false
  | map _ => false
  | set _ => false
  | again _ _ => false
  | pair a b => canBeKey a && canBeKey b
  | _ => true

mutual

/--
Whether two values are the same key. Numbers are compared as numbers, moments as instants;
what is not a number is the same as itself.
-/
def sameKey : Value → Value → Bool
  | null, null => true
  | str s, str t => s == t
  | bytes a, bytes b => a == b
  | date d, date e => d == e
  | moment m, moment n => (m.offset.isSome == n.offset.isSome) && m.instant == n.instant
  | list xs, list ys => sameKeys xs ys
  | pair a b, pair c d => sameKey a c && sameKey b d
  | float .nan, float .nan => true
  | float x, w =>
    match x.whole? with
    | some n => w.whole? == some n
    | none =>
      match w with
      | float y => x.same y
      | _ => false
  | bool b, w => w.whole? == some (if b then 1 else 0)
  | int n, w => w.whole? == some n
  | _, _ => false

/-- Whether two lists of values are the same, key by key. -/
def sameKeys : List Value → List Value → Bool
  | [], [] => true
  | x :: xs, y :: ys => sameKey x y && sameKeys xs ys
  | _, _ => false

end

/-- The text that a value is, if it is one. -/
def str? : Value → Option Text
  | str s => some s
  | _ => none

/-- The value of the first entry with a key. -/
def lookup? (key : Value) (entries : List (Value × Value)) : Option Value :=
  (entries.find? fun e => sameKey e.1 key).map (·.2)

/-- Sets an entry: in its place if the key is there, at the end otherwise. -/
def put {α : Type} (key : Value) (value : α) : List (Value × α) → List (Value × α)
  | [] => [(key, value)]
  | e :: es => if sameKey e.1 key then (e.1, value) :: es else e :: put key value es

/-- The value under a text key of a map. -/
def field? (name : Text) : Value → Option Value
  | map entries => lookup? (str name) entries
  | _ => none

/-! ## Parts -/

/-- The parts of a value that can be gone through: items, code points, bytes or keys. -/
def parts? : Value → Option (List Value)
  | list items => some items
  | str s => some (s.toList.map fun c => str (Text.ofList [c]))
  | bytes bs => some (bs.map fun b => int b.toNat)
  | map entries => some (entries.map (·.1))
  | pair a b => some [a, b]
  | set members => some members
  | _ => none

/-! ## Values in messages -/

/-- A whole number in decimal digits. -/
def intText (n : Int) : List CodePoint :=
  if n < 0 then '-' :: decimal n.natAbs else decimal n.natAbs

/-- The parts of a text joined by commas and blanks. -/
def commaJoined : List (List CodePoint) → List CodePoint
  | [] => []
  | [p] => p
  | p :: ps => p ++ ", " ++ commaJoined ps

/-- The numbers as arguments of a constructor of the name `name`. -/
def constructed (name : Text) (args : List (List CodePoint)) : List CodePoint :=
  name.toList ++ "(" ++ commaJoined args ++ ")"

/-- A distance from universal time, as its constructor. -/
def offsetLiteral (seconds : Int) : List CodePoint :=
  if seconds = 0 then "datetime.timezone.utc"
  else
    let days := seconds.fdiv 86400
    let rest := seconds.fmod 86400
    let args := (if days = 0 then [] else ["days=" ++ intText days]) ++
      (if rest = 0 then [] else ["seconds=" ++ intText rest])
    constructed "datetime.timezone" [constructed "datetime.timedelta" args]

/-- A day, as its constructor. -/
def dateLiteral (d : Date) : List CodePoint :=
  constructed "datetime.date" [decimal d.year, decimal d.month, decimal d.day]

/-- A moment, as its constructor: seconds and microseconds only as far as they are not zero. -/
def momentLiteral (m : Moment) : List CodePoint :=
  let fine :=
    if m.microsecond ≠ 0 then [decimal m.second, decimal m.microsecond]
    else if m.second ≠ 0 then [decimal m.second]
    else []
  let offset :=
    match m.offset with
    | none => []
    | some s => ["tzinfo=" ++ offsetLiteral s]
  constructed "datetime.datetime"
    ([decimal m.date.year, decimal m.date.month, decimal m.date.day, decimal m.hour,
      decimal m.minute] ++ fine ++ offset)

mutual

/-- The literal form of a value: texts are quoted. -/
def literal : Value → List CodePoint
  | null => "None"
  | bool b => if b then "True" else "False"
  | int n => intText n
  | float x => x.literal
  | str s => quote s.toList
  | bytes bs => quoteBytes bs
  | date d => dateLiteral d
  | moment m => momentLiteral m
  | list items => '[' :: (commaJoined (literals items) ++ "]")
  | map entries => '\x7b' :: (commaJoined (entryLiterals entries) ++ "\x7d")
  | pair a b => '(' :: (literal a ++ ", " ++ literal b ++ ")")
  | set members =>
    if members.isEmpty then "set()"
    else '\x7b' :: (commaJoined (literals members) ++ "\x7d")
  | again _ isMap => if isMap then "\x7b...\x7d" else "[...]"

/-- The literal forms of the values of a list. -/
def literals : List Value → List (List CodePoint)
  | [] => []
  | v :: vs => literal v :: literals vs

/-- The literal forms of the entries of a map. -/
def entryLiterals : List (Value × Value) → List (List CodePoint)
  | [] => []
  | (k, v) :: es => (literal k ++ ": " ++ literal v) :: entryLiterals es

end

/-- The form of a value in running text: texts as they are, the rest in literal form. -/
def displayed : Value → List CodePoint
  | str s => s.toList
  | date d => d.iso
  | moment m => m.iso ' '
  | v => v.literal

theorem intText_ne_nil (n : Int) : intText n ≠ [] := by
  unfold intText
  split
  · simp
  · exact decimal_ne_nil _

theorem constructed_ne_nil (name : Text) (args : List (List CodePoint)) :
    constructed name args ≠ [] := by
  simp [constructed]

theorem literal_ne_nil (v : Value) : v.literal ≠ [] := by
  cases v with
  | null => simp [literal]
  | bool b => cases b <;> simp [literal]
  | int n => simpa [literal] using intText_ne_nil n
  | float x => simpa [literal] using x.literal_ne_nil
  | str s => simpa [literal] using quote_ne_nil _
  | bytes bs => simpa [literal] using quoteBytes_ne_nil _
  | date d => simpa [literal, dateLiteral] using constructed_ne_nil _ _
  | moment m => simpa [literal, momentLiteral] using constructed_ne_nil _ _
  | list items => simp [literal]
  | map entries => simp [literal]
  | pair a b => simp [literal]
  | set members =>
    rw [literal]
    split <;> simp
  | again levels isMap => cases isMap <;> simp [literal]

theorem displayed_ne_nil_of_truthy {v : Value} (h : v.truthy = true) : v.displayed ≠ [] := by
  cases v with
  | str s => simpa [truthy, displayed, Text.isEmpty] using h
  | date d => simp [displayed, Date.iso]
  | moment m => simp [displayed, Moment.iso]
  | _ => simpa [displayed] using literal_ne_nil _

/-- The literal form as a text of a message. -/
def literalText (v : Value) : Text := Text.ofList v.literal

/-- The running form as a text of a message. -/
def text (v : Value) : Text := Text.ofList v.displayed

theorem text_ne_empty_of_truthy {v : Value} (h : v.truthy = true) : v.text ≠ "" := fun hempty =>
  displayed_ne_nil_of_truthy h (congrArg Text.toList hempty)

end Value

end ModuleKeeper
