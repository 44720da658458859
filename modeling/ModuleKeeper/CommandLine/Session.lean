import ModuleKeeper.CommandLine.Order
import ModuleKeeper.Log.Setup
import ModuleKeeper.Settings.Path
import ModuleKeeper.Table
import ModuleKeeper.Terminal.Menu
import ModuleKeeper.Toolbox

/-!
# Sessions

A session is one run of the program: its arguments are read, the log is set
up, the settings are loaded, and the command is carried out. A fault ends the
session with a complaint and the status one; a halt is told and ends it well.

## Main results

* `status_eq_zero_iff`: the status zero is that of sessions that ended well.
-/

namespace ModuleKeeper.CommandLine

/-! ## Endings -/

/-- How a session ends. -/
inductive Ending where
  | well
  | complaint (message : Text)
  /-- The input ended before a question was answered. -/
  | aborted
  /-- The arguments are not understood. -/
  | misused
  /-- A mishap that no rule covers. -/
  | broken (cause : Mishap)
  deriving DecidableEq, Inhabited

namespace Ending

/-- The status of the program. -/
def status : Ending → Nat
  | well => 0
  | complaint _ => 1
  | aborted => 1
  | misused => 2
  | broken _ => 1

/-- What the program says at its end, apart from its output. -/
def lastWords : Ending → List CodePoint
  | complaint message =>
    Text.withSurrogatesShown (Text.withoutSequences ("[错误] " ++ message.toList)) ++ "\n"
  | aborted => "Aborted!\n"
  | _ => []

theorem status_eq_zero_iff {e : Ending} : e.status = 0 ↔ e = well := by
  cases e <;> simp [status]

end Ending

/-! ## Surroundings -/

/-- The surroundings of a session, with the effects `m`. -/
structure Session (m : Type → Type) where
  environment : Settings.Environment
  homes : Settings.Path.Homes
  /-- What a path leads to. -/
  find : Text → m Settings.File
  send : ModuleKeeper.Request → m Reply
  console : Console m
  reporter : Reporter m

/-- The variable that names the least level of the log that is shown. -/
def levelVariable : Text := "MODCTL_LOG_LEVEL"

/-- The variable that asks for a log in JSON. -/
def jsonVariable : Text := "MODCTL_LOG_JSON"

/-- The setup of the log that the environment asks for. -/
def logSetup (env : Settings.Environment) : Log.Setup :=
  Log.Setup.initial.configure ((env.get? levelVariable).getD Log.Level.warning.label)
    (env.get? jsonVariable == some "1")

/-- The version of the program, as it is shown. -/
def versionLine : Text := "modctl, version 0.3.0"

namespace Session

variable {m : Type → Type} [Monad m]

/-! ## Output -/

/-- Shows a line. -/
def say (s : Session m) (text : Text) : Task m Unit := s.console.line text.toList

/-- Shows a line behind a label, which is shown first. -/
def sayUnder (s : Session m) (label text : Text) : Task m Unit := do
  s.console.start label.toList
  s.say text

/-- Shows a line about something that was completed. -/
def sayDone (s : Session m) (text : Text) : Task m Unit := s.sayUnder "[完成] " text

/-- Shows a line with a hint. -/
def hint (s : Session m) (text : Text) : Task m Unit := s.sayUnder "[提示] " text

/-- Names in one text. -/
def joined (names : List Text) : Text := Text.intercalate ", " names

/-! ## Commands -/

/-- The line in the place of an empty table. -/
def noModules : Option Text → Text
  | none => "没有模块。"
  | some database => database ++ " 尚未安装任何模块。"

/-- A value that counts as true if it did before or if it is asked for. -/
def orAsked (v : Value) (asked : Bool) : Value := if v.truthy then v else .bool asked

/-- A request for names; none at all stand for a selection by the user. -/
def requestOf (names : List Text) : Value :=
  Naming.ofTexts (if names.isEmpty then none else some names)

/-- Lists modules. -/
def list (s : Session m) (k : Keeper m) (database : Option Text) : Task m Unit := do
  match ← k.modules database with
  | [] => s.say (noModules database)
  | modules => s.console.lines (Table.lines modules)

/-- Lists the databases. -/
def databases (s : Session m) (k : Keeper m) : Task m Unit := do
  match ← k.registry.databases with
  | [] => s.say "没有可用的数据库。"
  | names => names.forM fun database => s.say ("  " ++ database)

/-- Installs modules. -/
def install (s : Session m) (k : Keeper m) (database : Option Text) (names : List Text) :
    Task m Unit := do
  let database ← k.resolve database
  let plan ← k.prepareInstall database (requestOf names)
  s.say ("待安装模块: " ++ joined plan.requested)
  if !plan.implied.isEmpty then
    s.sayDone ("安装还需要以下依赖模块: " ++ joined plan.implied)
  k.executeInstall database plan
  s.sayDone "安装完成"

/-- Removes modules. -/
def remove (s : Session m) (k : Keeper m) (database : Option Text) (names : List Text) :
    Task m Unit := do
  let database ← k.resolve database
  let names ← k.prepareRemoval database (requestOf names)
  s.say ("待卸载模块: " ++ joined names)
  k.executeRemoval database names
  s.sayDone "卸载完成"

/-- Carries out an order. -/
def perform (s : Session m) (k : Keeper m) : Order → Task m Unit
  | .list database => s.list k database
  | .databases => s.databases k
  | .install database names yes transitive =>
    s.install
      { k with
        assumeYes := orAsked k.assumeYes yes
        transitive := orAsked k.transitive transitive }
      database names
  | .remove database names yes =>
    s.remove { k with assumeYes := orAsked k.assumeYes yes } database names

/-! ## The end of tasks -/

/-- The notice about a fault. -/
def faultNotice (f : Fault) : Notice :=
  Notice.plain .debug .commandLine ("命令失败 [" ++ f.kind.code ++ "]")

/-- How a session ends with a failure. -/
def handle (s : Session m) : Failure → m Ending
  | .halt h => do
    let _ ← (s.hint h.message).run
    pure .well
  | .fault f => do
    s.reporter (faultNotice f)
    pure (.complaint f.message)
  | .mishap .inputEnded => pure .aborted
  | .mishap cause => pure (.broken cause)

/-- Runs a task and goes on with its result; a failure ends the session. -/
def handled {α : Type} (s : Session m) (t : Task m α) (next : α → m Ending) : m Ending := do
  match ← t.run with
  | .ok a => next a
  | .error f => s.handle f

/-! ## The session -/

/-- Loads the settings from the place that is named, or where they are found otherwise. -/
def loadSettings (s : Session m) (named : Option Text) : Task m Settings := do
  let path := Settings.locate named s.environment
  let finding ← Task.act (Settings.look s.homes s.find path)
  let (notices, result) := Settings.load path finding s.environment
  Task.report s.reporter notices
  Task.ofExcept id result

/-- The keeper for settings. -/
def keeper (s : Session m) (settings : Settings) : Except Failure (Keeper m) :=
  Keeper.ofSettings settings s.send s.reporter (some s.console.prompter)

/-- Carries out an order with settings. -/
def carryOut (s : Session m) (settings : Settings) (order : Order) : Task m Unit := do
  let k ← Task.ofExcept id (s.keeper settings)
  s.perform k order

/-- Runs the program. The settings are loaded before the arguments of the command are read. -/
def run (s : Session m) (args : List Text) : m Ending :=
  match Opening.read args with
  | .misused => pure .misused
  | .help => pure .well
  | .version => do
    let _ ← (s.say versionLine).run
    pure .well
  | .command named c rest =>
    s.handled (s.loadSettings named) fun settings =>
      match Instruction.read c rest with
      | .misused => pure .misused
      | .help => pure .well
      | .order order => s.handled (s.carryOut settings order) fun _ => pure .well

end Session

end ModuleKeeper.CommandLine
