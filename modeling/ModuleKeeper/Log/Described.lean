import ModuleKeeper.Log.Format
import ModuleKeeper.Naming

/-!
# Described records

A record can be described by a map: its message with the arguments, the name of
its level, the name of who says it, and its time in seconds and milliseconds.
All of them have defaults. Further attributes are set on the record as it was
made, and replace what it has under their names.
-/

namespace ModuleKeeper.Log

/-- A description of a record. -/
structure Described where
  /-- What the record is made from. -/
  fields : Value
  /-- The attributes that are set on it. -/
  extra : Value

namespace Described

/-- A field of a description. -/
def field (d : Described) (name : Text) (usual : Value) : Value :=
  (d.fields.field? name).getD usual

/-- An attribute of the record: what is set, or what it was made with. -/
def own (d : Described) (name : Text) (made : Value) : Value := (d.extra.field? name).getD made

/-- The arguments of the message. -/
def arguments (d : Described) : Except Mishap Template.Arguments := do
  let made ← Naming.parts (d.field "args" (.list []))
  return ((d.extra.field? "args").map .single).getD (.several made)

/-- The time of the record. -/
def time (d : Described) : Except Mishap Time := do
  let made ← Time.ofParts (d.field "sec" (.int 0)) (d.field "ms" (.int 0))
  return ⟨d.own "created" made.seconds, d.own "msecs" made.milliseconds⟩

/-- The exception of the record, if it was made with one. -/
def troubleOr (d : Described) (made : Trouble) : Trouble :=
  ((d.extra.field? "exc_info").map .foreign).getD made

/-- The name of who says a record that names nobody. -/
def unnamed : Text := "modctl.x"

/-- The record that is described, which is made with an exception. -/
def record (d : Described) (trouble : Trouble) : Except Mishap Record := do
  let level ← Record.levelOf (d.field "level" (.str Level.info.label))
  let arguments ← d.arguments
  return {
    level := d.own "levelname" level
    name := d.own "name" (d.field "name" (.str unnamed))
    template := d.own "msg" (d.field "msg" .null)
    arguments := arguments
    database := d.extra.field? "db"
    modules := d.extra.field? "modules"
    trouble := d.troubleOr trouble
    description := d.own "exc_text" .null
    stack := d.own "stack_info" .null }

/-- The line of the record that is described, in a form. -/
def line (d : Described) (trouble : Trouble) (f : Format) : Except Mishap (List CodePoint) := do
  let record ← d.record trouble
  f.lineAt (← d.time) record

end Described

end ModuleKeeper.Log
