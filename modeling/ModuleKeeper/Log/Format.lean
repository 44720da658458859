import ModuleKeeper.Json.Writer
import ModuleKeeper.Log.Clock
import ModuleKeeper.Log.Record

/-!
# Forms of log lines

A record is written in one of three forms: concisely, with the time and the
name in front, or as JSON on a single line. The first two append the context
of a record in parentheses.

## Main results

* `entry_keys`: what an entry in JSON consists of, and in which order.
-/

namespace ModuleKeeper.Log

open ModuleKeeper.Text

/-- The forms of log lines. -/
inductive Format where
  | concise
  | verbose
  | json
  deriving DecidableEq, Inhabited

namespace Format

/-- The form for a level: verbose for the lowest levels, unless JSON is asked for. -/
def ofLevel (level : Level) (asJson : Bool) : Format :=
  if asJson then json else if level.rank ≤ Level.debug.rank then verbose else concise

/-- The time as the form shows it. -/
def stamp (f : Format) (t : Time) : Except Mishap (List CodePoint) :=
  match f with
  | concise => .ok []
  | verbose => t.readable
  | json => t.iso

/-! ## Lines for readers -/

/-- A named value of a context. -/
def contextItem (e : Text × Value) : List CodePoint := e.1.toList ++ "=" ++ e.2.displayed

/-- The values of a context between parentheses. -/
def contextText (context : List (Text × Value)) : List CodePoint :=
  match context with
  | [] => []
  | _ => " (" ++ List.intercalate " " (context.map contextItem) ++ ")"

/-- The description of the exception of a record; null if it has none. -/
def descriptionOf (r : Record) : Except Mishap Value :=
  if r.description.truthy then .ok r.description
  else r.trouble.words.map fun words => (words.map Value.str).getD .null

/-- A line with something on lines of its own below it, unless that counts as nothing. -/
def withBelow (v : Value) (line : List CodePoint) : Except Mishap (List CodePoint) :=
  if v.truthy then
    match v with
    | .str s =>
      .ok ((if line.getLast? = some (.char '\n') then line else line ++ "\n") ++ s.toList)
    | _ => .error .wrongType
  else .ok line

/-- What stands before the message in a concise line. -/
def conciseHead (r : Record) : List CodePoint := "[" ++ r.level.displayed ++ "] "

/-- The width of the column for the level in a verbose line. -/
def levelWidth : Nat := 7

/-- What stands before the message in a verbose line. -/
def verboseHead (stamp : List CodePoint) (r : Record) : List CodePoint :=
  stamp ++ " [" ++ padRight ' ' levelWidth r.level.displayed ++ "] " ++
    r.name.displayed ++ ": "

/-- A line for readers: below it the exception and the place, and behind all that the context. -/
def readerLine (head message : List CodePoint) (r : Record) : Except Mishap (List CodePoint) := do
  let line ← withBelow (← descriptionOf r) (head ++ message)
  let line ← withBelow r.stack line
  return line ++ contextText r.context

/-! ## Lines for programs -/

/-- The field for the exception, if there is one. -/
def troubleEntry (t : Trouble) : Except Mishap (List (Value × Value)) := do
  if ← t.isThere then
    return ((← t.words).map fun words => (.str "exception", .str words)).toList
  else return []

/-- A record as an entry of a log, without its exception. -/
def entry (stamp message : List CodePoint) (r : Record) : List (Value × Value) :=
  [(.str "timestamp", .str (Text.ofList stamp)), (.str "level", r.level),
    (.str "logger", r.name), (.str "message", .str (Text.ofList message))] ++
    (r.context.map fun e => (.str e.1, e.2))

/-- The names of the fields that every entry has. -/
def usualFields : List Text := ["timestamp", "level", "logger", "message"]

theorem entry_keys (stamp message : List CodePoint) (r : Record) :
    (entry stamp message r).map (·.1) =
      usualFields.map Value.str ++ r.context.map fun e => .str e.1 := by
  simp [entry, usualFields, Function.comp_def]

/-! ## All forms -/

/-- The line of a record with its message, in a form, with the time as that form shows it. -/
def lineWith (f : Format) (stamp message : List CodePoint) (r : Record) :
    Except Mishap (List CodePoint) :=
  match f with
  | concise => readerLine (conciseHead r) message r
  | verbose => readerLine (verboseHead stamp r) message r
  | json => (troubleEntry r.trouble).map fun trouble =>
    Json.write (.map (entry stamp message r ++ trouble))

/-- The line of a record in a form, with the time as that form shows it. -/
def line (f : Format) (stamp : List CodePoint) (r : Record) : Except Mishap (List CodePoint) := do
  f.lineWith stamp (← r.message) r

/-- The line of a record at a time. In JSON the time comes first, otherwise the message. -/
def lineAt (f : Format) (t : Time) (r : Record) : Except Mishap (List CodePoint) :=
  match f with
  | json => do f.line (← f.stamp t) r
  | _ => do
    let message ← r.message
    f.lineWith (← f.stamp t) message r

end Format

end ModuleKeeper.Log
