import ModuleKeeper.Log.Template
import ModuleKeeper.Notice

/-!
# Log records

What a log line says: how grave it is, who says it, a message with its
arguments, and what it is about, the database and the modules of a change and
an exception.

## Main results

* `levelOf_label`: a level that is asked for by its label is shown by it.
-/

namespace ModuleKeeper.Log

/-- The exception of a record. -/
inductive Trouble where
  | absent
  /-- The place for an exception, without one. -/
  | empty
  /-- An exception as it is described. -/
  | described (text : Text)
  /-- Something that is no exception. -/
  | foreign (v : Value)
  deriving Inhabited

namespace Trouble

/-- The item at a place of something that is no exception. -/
def item (v : Value) (n : Nat) : Except Mishap Value :=
  match v with
  | .list _ | .str _ =>
    match (v.parts?.getD [])[n]? with
    | some w => .ok w
    | none => .error .outOfRange
  | .map _ => .error .missingKey
  | _ => .error .wrongType

/-- The words for the place of an exception without one. -/
def emptyWords : Text := "NoneType: None"

/-- The words for an exception. What is none is taken for its kind, itself and its origin. -/
def words : Trouble → Except Mishap (Option Text)
  | absent => .ok none
  | empty => .ok (some emptyWords)
  | described text => .ok (some text)
  | foreign v =>
    if v.truthy then do
      let origin ← item v 2
      let itself ← item v 1
      match origin, itself with
      | .null, .null => .ok (some emptyWords)
      | _, _ => .error .missingAttribute
    else .ok none

/-- Whether there is an exception. -/
def isThere : Trouble → Except Mishap Bool
  | described _ => .ok true
  | foreign v => if v.truthy then (item v 1).map Value.truthy else .ok false
  | _ => .ok false

end Trouble

/-- A record. -/
structure Record where
  /-- The label of the level. -/
  level : Value
  name : Value
  /-- The message, a template if there are arguments. -/
  template : Value
  arguments : Template.Arguments
  /-- The database that it is about. -/
  database : Option Value
  /-- The modules that it is about. -/
  modules : Option Value
  trouble : Trouble
  /-- A description of the exception that was made before; null if there is none. -/
  description : Value
  /-- Where the record was made; null if that is not known. -/
  stack : Value
  deriving Inhabited

namespace Record

/--
A level by its label if it is given by its rank, and by its rank if it is given by its name.
What is neither is put into words.
-/
def counterpart (v : Value) : Except Mishap Value :=
  if !v.canBeKey then .error .wrongType
  else
    match Level.all.find? fun l => Value.sameKey v (.int l.rank) with
    | some l => .ok (.str l.label)
    | none =>
      match v with
      | .str name =>
        match Level.named? name with
        | some l => .ok (.int l.rank)
        | none => .ok (.str ("Level " ++ name))
      | _ => .ok (.str ("Level " ++ v.text))

/-- What a record shows for a level that is asked for by a name: its label. -/
def levelOf (name : Value) : Except Mishap Value := counterpart name >>= counterpart

theorem levelOf_label (l : Level) : levelOf (.str l.label) = .ok (.str l.label) := by
  cases l <;> rfl

/-- The message, filled with its arguments. -/
def message (r : Record) : Except Mishap (List CodePoint) :=
  Template.fill r.template.displayed r.arguments

/-- The name of the field for the database. -/
def databaseField : Text := "db"

/-- The name of the field for the modules. -/
def modulesField : Text := "modules"

/-- The named values that a record is about: first the database, then the modules. -/
def context (r : Record) : List (Text × Value) :=
  (r.database.map ((databaseField, ·))).toList ++ (r.modules.map ((modulesField, ·))).toList

/-- The record of a notice. -/
def ofNotice (n : Notice) : Record :=
  ⟨.str n.level.label, .str n.source.name, .str n.text, .several [],
    n.change.map fun c => .str c.database, n.change.map fun c => .list (c.modules.map .str),
    .absent, .null, .null⟩

end Record

end ModuleKeeper.Log
