import ModuleKeeper.Text.Column
import ModuleKeeper.Value

/-!
# Writing JSON

A value on one line, with a blank after each comma and colon and with all
characters but quotes, backslashes and controls as they are. Values that the
format does not know are written as texts.

## Main results

* `not_control_of_mem_escape`: an escaped character holds no control.
-/

namespace ModuleKeeper.Json

open ModuleKeeper.Text

/-- One character of a text. -/
def escape (c : CodePoint) : List CodePoint :=
  if c = '"' then ['\\', '"']
  else if c = '\\' then ['\\', '\\']
  else if c = '\n' then ['\\', 'n']
  else if c = '\r' then ['\\', 'r']
  else if c = '\t' then ['\\', 't']
  else if c = '\x08' then ['\\', 'b']
  else if c = '\x0c' then ['\\', 'f']
  else if c.toNat < 0x20 then '\\' :: 'u' :: hexadecimal 4 c.toNat
  else [c]

/-- A text between quotes. -/
def writeText (cs : List CodePoint) : List CodePoint := '"' :: (cs.flatMap escape ++ "\"")

/-- A number that is not whole in kind; the three that are no numbers are words. -/
def writeDouble : Double → List CodePoint
  | .nan => "NaN"
  | .infinite negative => if negative then "-Infinity" else "Infinity"
  | x => x.literal

/-- The text that stands for a key. -/
def keyText : Value → List CodePoint
  | .null => "null"
  | .bool b => if b then "true" else "false"
  | .float x => writeDouble x
  | v => v.displayed

mutual

/-- A value as JSON. -/
def write : Value → List CodePoint
  | .null => "null"
  | .bool b => if b then "true" else "false"
  | .int n => Value.intText n
  | .float x => writeDouble x
  | .str s => writeText s.toList
  | .list items => '[' :: (Value.commaJoined (writeItems items) ++ "]")
  | .map entries => '\x7b' :: (Value.commaJoined (writeEntries entries) ++ "\x7d")
  | .bytes bs => writeText (Value.bytes bs).displayed
  | .date d => writeText (Value.date d).displayed
  | .moment m => writeText (Value.moment m).displayed
  | .pair a b => '[' :: (write a ++ ", " ++ write b ++ "]")
  | .set members => writeText (Value.set members).displayed
  | .again levels isMap => writeText (Value.again levels isMap).displayed

/-- The items of a list as JSON. -/
def writeItems : List Value → List (List CodePoint)
  | [] => []
  | v :: vs => write v :: writeItems vs

/-- The entries of a map as JSON. -/
def writeEntries : List (Value × Value) → List (List CodePoint)
  | [] => []
  | (k, v) :: es => (writeText (keyText k) ++ ": " ++ write v) :: writeEntries es

end

/-! ## Controls -/

theorem all_numbered : (List.range 0x20).all (fun n =>
    (.char '\\' :: .char 'u' :: hexadecimal 4 n).all fun d => decide (0x20 ≤ d.toNat)) = true := by
  decide +kernel

theorem le_of_mem_numbered {n : Nat} (hn : n < 0x20) {d : CodePoint}
    (h : d ∈ .char '\\' :: .char 'u' :: hexadecimal 4 n) : 0x20 ≤ d.toNat := by
  have := List.all_eq_true.1 (List.all_eq_true.1 all_numbered n (List.mem_range.2 hn)) d h
  simpa using this

theorem not_control_of_mem_escape {c d : CodePoint} (h : d ∈ escape c) : 0x20 ≤ d.toNat := by
  unfold escape at h
  repeat' split at h
  all_goals first
    | exact le_of_mem_numbered (by assumption) h
    | (simp only [List.mem_cons, List.not_mem_nil, or_false] at h
       rcases h with rfl | rfl <;> decide)
    | (simp only [List.mem_cons, List.not_mem_nil, or_false] at h; subst h; omega)

end ModuleKeeper.Json
