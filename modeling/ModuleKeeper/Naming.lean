import ModuleKeeper.Fault
import ModuleKeeper.Roster

/-!
# Naming modules

Modules are named from outside, and what names them may be any value. Its parts are
the names. A part that is no text is a name too, but no module has it. Names
have to be such that they can be told apart, and a name that comes again is
the same name; numbers that are equal count as one name.

## Main results

* `distinct_map_str`: among texts, the same names are the same texts.
* `requested_ofTexts`: a request for texts asks for these texts.
-/

namespace ModuleKeeper.Naming

/-- The parts of a value; a value without parts is of the wrong kind. -/
def parts (v : Value) : Except Mishap (List Value) :=
  match v.parts? with
  | some parts => .ok parts
  | none => .error .wrongType

/-- The names that a value holds: its parts, if they can be told apart. -/
def names (v : Value) : Except Mishap (List Value) := do
  let names ← parts v
  if names.all Value.canBeKey then .ok names else .error .wrongType

/-- Names, each at its first place. -/
def distinct (names : List Value) : List Value := names.eraseDupsBy Value.sameKey

/-- The names that are texts; modules have no others. -/
def texts (names : List Value) : List Text := names.filterMap Value.str?

theorem loop_map_str (names seen : List Text) :
    List.eraseDupsBy.loop Value.sameKey (names.map .str) (seen.map .str) =
      (List.eraseDupsBy.loop (· == ·) names seen).map Value.str := by
  induction names generalizing seen with
  | nil => simp [List.eraseDupsBy.loop]
  | cons n ns ih =>
    have h : (seen.map Value.str).any (Value.sameKey (.str n)) = seen.any (n == ·) := by
      simp [List.any_map, Function.comp_def, Value.sameKey]
    rw [List.map_cons, List.eraseDupsBy.loop, List.eraseDupsBy.loop, h]
    cases seen.any (n == ·) with
    | true => exact ih seen
    | false => exact ih (n :: seen)

theorem distinct_map_str (names : List Text) :
    distinct (names.map .str) = names.eraseDups.map .str := loop_map_str names []

/-! ## Requests -/

/-- Whether a value is the name of a module of a catalog. -/
def isKnown (catalog : Roster) (name : Value) : Bool := (name.str?.map catalog.has).getD false

/--
The names of a request. If some of them are no texts, the first name that no module of
the catalog has is the fault.
-/
def requested (catalog : Roster) (request : Value) : Except Failure (List Text) :=
  match names request with
  | .error cause => .error (.mishap cause)
  | .ok names =>
    match Module.texts? names with
    | some texts => .ok texts
    | none => .error (.fault (.unknownModule ((names.find? (!isKnown catalog ·)).getD .null)))

/-- A request for texts, or for a selection by the user. -/
def ofTexts : Option (List Text) → Value
  | none => .null
  | some names => .list (names.map .str)

theorem requested_ofTexts (catalog : Roster) (texts : List Text) :
    requested catalog (ofTexts (some texts)) = .ok texts := by
  have h : names (ofTexts (some texts)) = .ok (texts.map .str) := by
    have hk : (texts.map Value.str).all Value.canBeKey = true := by
      simp [Value.canBeKey]
    show (if (texts.map Value.str).all Value.canBeKey = true then _ else _) = _
    rw [if_pos hk]
  simp only [requested, h, Module.texts?_map_str]

end ModuleKeeper.Naming
