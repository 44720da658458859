import ModuleKeeper.Gateway
import ModuleKeeper.Roster

/-!
# The registry of modules

What a service is asked: which modules it knows, which a database has, which
databases there are, to install modules and to remove them. A failed exchange
becomes a fault about what was asked. Answers are read with care, because
nothing but their being JSON is known about them.
-/

namespace ModuleKeeper

/-- The roles of a roster. -/
inductive Role where
  /-- All modules that the service knows. -/
  | catalog
  /-- The modules of one database. -/
  | installed
  deriving DecidableEq

namespace Role

/-- What a roster of a role is called in notices. -/
def title : Role → Text
  | catalog => "模块清单"
  | installed => "已安装列表"

/-- The fault of an entry that describes no module. -/
def entryFault (role : Role) (cause : Module.EntryFault) : CatalogFault :=
  match role with
  | catalog => .badCatalogEntry cause
  | installed => .badInstalledEntry cause

/-- The notices about names that came again. -/
def repeatNotices (role : Role) (repeated : List Text) : List Notice :=
  repeated.map fun name =>
    Notice.plain .warning .rosters (role.title ++ " 中模块名重复，忽略后出现的定义: " ++ name)

end Role

namespace Registry

/-! ## Reading answers -/

/-- Replaces a failed exchange by a fault that names its purpose. -/
def within (wrap : ServiceFault → Fault) : Failure → Failure
  | .fault (.service cause) => .fault (wrap cause)
  | f => f

/-- The entries of an answer that lists modules. -/
def listed : Value → Except CatalogFault (List Value)
  | .null => .ok []
  | .list items => .ok items
  | v => .error (.notAList v.kindName)

/-- The roster that an answer lists, with the notices about names that came again. -/
def rosterOf (role : Role) (answer : Value) : List Notice × Except Failure Roster :=
  match listed answer with
  | .error cause => ([], .error (.fault (.catalog cause)))
  | .ok entries =>
    let (repeated, result) := Roster.read entries
    (role.repeatNotices repeated,
      result.mapError fun cause => .fault (.catalog (role.entryFault cause)))

/-- The roster that a reply lists. -/
def readRoster (role : Role) (reply : Reply) : List Notice × Except Failure Roster :=
  match Gateway.interpret reply with
  | .error f => ([], .error (within (fun c => .catalog (.modulesFailed c)) f))
  | .ok answer => rosterOf role answer

/-- The first of two fields that counts as true. -/
def eitherField (first second : Text) (v : Value) : Value :=
  match v.field? first with
  | some a => if a.truthy then a else (v.field? second).getD .null
  | none => (v.field? second).getD .null

/-- The database that an item of an answer names; items that count as false name none. -/
def databaseOf (item : Value) : Option Text :=
  let named :=
    match item with
    | .map _ => eitherField "alias" "name" item
    | v => v
  if named.truthy then some named.text else none

/-- The databases that an answer lists. -/
def databasesOf (answer : Value) : Except Failure (List Text) :=
  if answer.truthy then
    match answer.parts? with
    | some items => .ok (items.filterMap databaseOf)
    | none => .error (.mishap .wrongType)
  else .ok []

/-- The databases that a reply lists. -/
def readDatabases (reply : Reply) : Except Failure (List Text) :=
  match Gateway.interpret reply with
  | .error f => .error (within (fun c => .catalog (.databasesFailed c)) f)
  | .ok answer => databasesOf answer

/-! ## Calls -/

/-- The path and the body of the call that lists modules. -/
def rosterCall (role : Role) (database : Text) : Text × Value :=
  ("module/list",
    match role with
    | .catalog => .map [(.str "all", .bool true)]
    | .installed => .map [(.str "installed", .bool true), (.str "dbAlias", .str database)])

/-- The path and the body of the call that lists databases. -/
def databasesCall : Text × Value := ("db/list", .map [])

/-- The changes that can be made to a database. -/
inductive Edit where
  | install
  | remove
  deriving DecidableEq

namespace Edit

/-- The path of the call that makes a change. -/
def path : Edit → Text
  | install => "module/install"
  | remove => "module/remove"

/-- The body of the call that makes a change. -/
def body (database : Text) (names : List Text) : Value :=
  .map [(.str "list", .list (names.map .str)), (.str "dbAlias", .str database)]

/-- The fault of a change that failed. -/
def fault (e : Edit) (cause : ServiceFault) : Fault :=
  match e with
  | install => .command (.installFailed cause)
  | remove => .command (.removalFailed cause)

/-- The notice about a change that is being made. -/
def notice (e : Edit) (database : Text) (names : List Text) : Notice :=
  ⟨.info, .gateway, "POST " ++ e.path, some ⟨database, names⟩⟩

end Edit

end Registry

/-- The registry of a service, reached through a gateway with the effects `m`. -/
structure Registry (m : Type → Type) where
  gateway : Gateway
  send : Request → m Reply
  reporter : Reporter m

namespace Registry

variable {m : Type → Type} [Monad m]

/-- Makes a call and waits for the reply. -/
def exchange (r : Registry m) (call : Text × Value) : Task m Reply := do
  let q ← Task.ofExcept Failure.mishap (r.gateway.request call.1 call.2)
  Task.report r.reporter [r.gateway.callNotice call.1 call.2]
  Task.act (r.send q)

/-- The value that a call gives. -/
def call (r : Registry m) (call : Text × Value) : Task m Value := do
  let reply ← r.exchange call
  Task.ofExcept id (Gateway.interpret reply)

/-- The roster of a role; the database counts only for what is installed. -/
def fetch (r : Registry m) (role : Role) (database : Text) : Task m Roster := do
  let reply ← r.exchange (rosterCall role database)
  let (notices, result) := readRoster role reply
  Task.report r.reporter notices
  Task.ofExcept id result

/-- All modules that the service knows. -/
def fetchCatalog (r : Registry m) : Task m Roster := r.fetch .catalog ""

/-- The modules that a database has. -/
def fetchInstalled (r : Registry m) (database : Text) : Task m Roster :=
  r.fetch .installed database

/-- The notice about two rosters that were fetched. -/
def snapshotNotice (database : Text) (catalog installed : Roster) : Notice :=
  Notice.plain .info .gateway
    ("模块快照: 共 " ++ toString catalog.size ++ " 个模块, " ++ database ++ " 已安装 " ++
      toString installed.size ++ " 个")

/-- The roster of a role as it is fetched, with the notices about it. -/
def attempt (r : Registry m) (role : Role) (database : Text) :
    m (List Notice × Except Failure Roster) := do
  let call := rosterCall role database
  match r.gateway.request call.1 call.2 with
  | .error cause => pure ([], .error (.mishap cause))
  | .ok q =>
    let (notices, result) := readRoster role (← r.send q)
    pure (r.gateway.callNotice call.1 call.2 :: notices, result)

/--
Both rosters. Both are always asked for, and a failure of the catalog comes first. The
notices of the two calls are reported together, in order.
-/
def fetchSnapshot (r : Registry m) (database : Text) : Task m (Roster × Roster) := do
  let (catalogNotices, catalog) ← Task.act (r.attempt .catalog database)
  let (installedNotices, installed) ← Task.act (r.attempt .installed database)
  Task.report r.reporter (Notice.sorted (catalogNotices ++ installedNotices))
  let catalog ← Task.ofExcept id catalog
  let installed ← Task.ofExcept id installed
  Task.report r.reporter [snapshotNotice database catalog installed]
  pure (catalog, installed)

/-- The names of the databases. -/
def databases (r : Registry m) : Task m (List Text) := do
  let reply ← r.exchange databasesCall
  Task.ofExcept id (readDatabases reply)

/-- Makes a change. What the service answers does not matter, as long as it accepts. -/
def apply (r : Registry m) (e : Edit) (database : Text) (names : List Text) : Task m Unit := do
  Task.report r.reporter [e.notice database names]
  let reply ← r.exchange (e.path, Edit.body database names)
  match Gateway.interpret reply with
  | .error f => Task.fail (within e.fault f)
  | .ok _ => pure ()

end Registry

end ModuleKeeper
