import ModuleKeeper.Install
import ModuleKeeper.Registry
import ModuleKeeper.Removal

/-!
# The keeper

Installs and removes modules of a database: finds the database, fetches what
is needed, plans, asks for a confirmation, and only then changes anything. The
keeper prints nothing and decides nothing about the end of the program.

## Main results

* `resolveNamed_eq_ok`: a database is accepted only if the service lists it.
* `pick_eq_some`: a picked database is one of those offered.
-/

namespace ModuleKeeper

/-- What a keeper works with. The two settings count by whether they count as true. -/
structure Keeper (m : Type → Type) where
  registry : Registry m
  prompter : Option (Prompter m)
  /-- Whether indirect dependencies are installed too. -/
  transitive : Value
  /-- Whether changes are made without a confirmation. -/
  assumeYes : Value

namespace Keeper

/-! ## Databases -/

/-- Accepts a database that is among the known ones. -/
def resolveNamed (known : List Text) (database : Text) : Except Failure Text :=
  if known.contains database then .ok database
  else .error (.fault (.unknownDatabase (.str database)))

theorem resolveNamed_eq_ok {known : List Text} {database r : Text} :
    resolveNamed known database = .ok r ↔ database ∈ known ∧ r = database := by
  unfold resolveNamed
  by_cases h : database ∈ known
  · simp [h, eq_comm]
  · simp [h]

/-- The item at a position; negative positions count from the end. -/
def pick {α : Type} (items : List α) (position : Int) : Option α :=
  if 0 ≤ position then items[position.toNat]?
  else if (-position).toNat ≤ items.length then items[items.length - (-position).toNat]?
  else none

theorem pick_eq_some {α : Type} {items : List α} {position : Int} {a : α}
    (h : pick items position = some a) : a ∈ items := by
  unfold pick at h
  split at h
  · exact List.mem_of_getElem? h
  · split at h
    · exact List.mem_of_getElem? h
    · cases h

/-- The question that goes with a list of databases. -/
def databasePrompt : Text := "选择数据库"

variable {m : Type → Type} [Monad m]

/-- The database that is meant: the one that is named, or the one that the user selects. -/
def resolve (k : Keeper m) (database : Option Text) : Task m Text := do
  match database with
  | some database =>
    if (Text.strip database.toList).isEmpty then Task.fail (.fault (.validation .blankDatabase))
    else
      let known ← k.registry.databases
      Task.ofExcept id (resolveNamed known database)
  | none =>
    let known ← k.registry.databases
    if known.isEmpty then Task.fail (.halt .noDatabases)
    else
      match k.prompter with
      | none => Task.fail (.fault (.validation .noDatabaseSelection))
      | some p =>
        let position ← p.selectOne (.str databasePrompt) (known.map .str) (.int 0)
        match pick known position with
        | some database => pure database
        | none => Task.fail (.mishap .outOfRange)

/-! ## Lists -/

/-- All modules, or those of a database. -/
def modules (k : Keeper m) (database : Option Text) : Task m (List Module) := do
  match database with
  | none => return (← k.registry.fetchCatalog).modules
  | some database => return (← k.registry.fetchInstalled database).modules

/-! ## Changes -/

/-- Lets the user confirm; without anybody to ask, a change has to be assumed. -/
def confirm (k : Keeper m) (question : Value) (declined : Halt) : Task m Unit := do
  if k.assumeYes.truthy then pure ()
  else
    match k.prompter with
    | none => Task.fail (.fault (.validation .noConfirmation))
    | some p =>
      let answer ← p.confirm question (.bool true)
      if answer.truthy then pure () else Task.fail (.halt declined)

/-- The question before a change. -/
def question : Registry.Edit → Text
  | .install => "按回车确认安装"
  | .remove => "按回车确认卸载"

/-- The halt after a change that was not confirmed. -/
def declined : Registry.Edit → Halt
  | .install => .declined "没有安装任何模块"
  | .remove => .declined "没有卸载任何模块"

/-- The notice about a change that was made. -/
def doneNotice (e : Registry.Edit) (database : Text) (names : List Text) : Notice :=
  ⟨.info, .keeper, (match e with
    | .install => "安装完成"
    | .remove => "卸载完成"), some ⟨database, names⟩⟩

/-- Makes a change after a confirmation. -/
def execute (k : Keeper m) (e : Registry.Edit) (database : Text) (names : List Text) :
    Task m Unit := do
  k.confirm (.str (question e)) (declined e)
  k.registry.apply e database names
  Task.report k.registry.reporter [doneNotice e database names]

/-- The plan of an install. The request may be any value; null is for a selection. -/
def prepareInstall (k : Keeper m) (database : Text) (request : Value) :
    Task m (Install.Plan Text) := do
  let (catalog, installed) ← k.registry.fetchSnapshot database
  Install.planRequested k.registry.reporter k.prompter k.transitive.truthy catalog installed
    request

/-- Installs what a plan adds. -/
def executeInstall (k : Keeper m) (database : Text) (plan : Install.Plan Text) : Task m Unit :=
  k.execute .install database plan.modules

/-- The names that can be removed. The request may be any value; null is for a selection. -/
def prepareRemoval (k : Keeper m) (database : Text) (request : Value) :
    Task m (List Text) := do
  let (catalog, installed) ← k.registry.fetchSnapshot database
  Removal.resolveRequested k.registry.reporter k.prompter catalog installed request

/-- Removes modules. -/
def executeRemoval (k : Keeper m) (database : Text) (names : List Text) : Task m Unit :=
  k.execute .remove database names

end Keeper

end ModuleKeeper
