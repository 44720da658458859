import ModuleKeeper.CommandLine.Arguments

/-!
# Orders

What a user can order on the command line: to list modules, to install some, to
remove some, to list the databases. The options of the program stand before the
name of the command, those of the command behind it.

## Main results

* `ofText?_text`: every command is known by its name.
-/

namespace ModuleKeeper.CommandLine

/-- The commands. -/
inductive Command where
  | list
  | install
  | remove
  | databases
  deriving DecidableEq, Inhabited

namespace Command

/-- All commands. -/
def all : List Command := [list, install, remove, databases]

/-- The name of a command. -/
def text : Command → Text
  | list => "list"
  | install => "install"
  | remove => "remove"
  | databases => "dbs"

/-- The command of a name. -/
def ofText? (s : Text) : Option Command := all.find? (·.text = s)

theorem ofText?_text (c : Command) : ofText? c.text = some c := by cases c <;> decide

end Command

/-! ## Options -/

/-- Asks for help. -/
def helpFlag : Flag := ⟨"--help", none, false⟩

/-- Asks for the version. -/
def versionFlag : Flag := ⟨"--version", none, false⟩

/-- Names the settings file. -/
def settingsFlag : Flag := ⟨"--config", none, true⟩

/-- Names the database. -/
def databaseFlag : Flag := ⟨"--db", none, true⟩

/-- Skips the confirmation. -/
def yesFlag : Flag := ⟨"--yes", some 'y', false⟩

/-- Installs indirect dependencies too. -/
def transitiveFlag : Flag := ⟨"--transitive", none, false⟩

/-- The options of the program. -/
def programFlags : List Flag := [settingsFlag, versionFlag, helpFlag]

/-- The options of a command. -/
def Command.flags : Command → List Flag
  | list => [databaseFlag, helpFlag]
  | install => [databaseFlag, yesFlag, transitiveFlag, helpFlag]
  | remove => [databaseFlag, yesFlag, helpFlag]
  | databases => [helpFlag]

/-! ## The program -/

/-- What the arguments of the program ask for. -/
inductive Opening where
  | help
  | version
  | misused
  /-- A command with its arguments, and the settings file if one is named. -/
  | command (settings : Option Text) (c : Command) (args : List Text)
  deriving Inhabited

/-- Help or the version, whichever is asked for first. -/
def informative? (options : List Given) : Option Opening :=
  options.findSome? fun g =>
    if g.name = helpFlag.name then some .help
    else if g.name = versionFlag.name then some .version
    else none

/--
What arguments ask for that start with an unknown command: it may still be an option,
if two dashes stood before it.
-/
def readUnknown (args : List Text) : Opening :=
  ((scan programFlags false args).bind fun s => informative? s.options).getD .misused

/-- Reads the arguments of the program. -/
def Opening.read (args : List Text) : Opening :=
  match scan programFlags false args with
  | none => .misused
  | some s =>
    match informative? s.options with
    | some opening => opening
    | none =>
      match s.rest with
      | [] => .misused
      | name :: rest =>
        match Command.ofText? name with
        | some c => .command (s.value? settingsFlag.name) c rest
        | none => readUnknown (name :: rest)

/-! ## Orders -/

/-- An order with all that belongs to it. -/
inductive Order where
  | list (database : Option Text)
  | install (database : Option Text) (names : List Text) (yes transitive : Bool)
  | remove (database : Option Text) (names : List Text) (yes : Bool)
  | databases
  deriving DecidableEq, Inhabited

/-- What the arguments of a command ask for. -/
inductive Instruction where
  | help
  | misused
  | order (o : Order)
  deriving DecidableEq, Inhabited

/-- The order of a command with the arguments of a scan; not every command takes names. -/
def Order.ofScan? (c : Command) (s : Scan) : Option Order :=
  let database := s.value? databaseFlag.name
  let yes := s.has yesFlag.name
  match c, s.rest with
  | .list, [] => some (.list database)
  | .databases, [] => some .databases
  | .install, names => some (.install database names yes (s.has transitiveFlag.name))
  | .remove, names => some (.remove database names yes)
  | _, _ => none

/-- Reads the arguments of a command. -/
def Instruction.read (c : Command) (args : List Text) : Instruction :=
  match scan c.flags true args with
  | none => .misused
  | some s =>
    if s.has helpFlag.name then .help
    else
      match Order.ofScan? c s with
      | some o => .order o
      | none => .misused

end ModuleKeeper.CommandLine
