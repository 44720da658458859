import ModuleKeeper.Proofs.Courses
import ModuleKeeper.Proofs.ServerSpecified

/-!
# What a session says to a service

A session loads its settings, reads its arguments and carries out an order.
Only the order says anything to the service, so a session that is called for a
change has the talk of this change or none.

## Main results

* `run_sitting`: the talks and the endings of a session for a change.
* `requests_halfName`: a database with a name that cannot be written is not
  asked for its modules.
-/

namespace ModuleKeeper.CommandLine

open ModuleKeeper.Task

variable {ρ υ : Type}

/-! ## Sessions -/

/--
What a session can meet: an environment, files, a service, and a terminal with
a user.  Each of them may behave in any way.
-/
structure World (ρ υ : Type) where
  environment : Settings.Environment
  homes : Settings.Path.Homes
  find : Text → υ → Settings.File × υ
  respond : ρ → Request → Reply × ρ
  put : List CodePoint → υ → Except Mishap Unit × υ
  ask : {β : Type} → Question β → υ → Except Mishap β × υ

/-- The session in a world. -/
def World.session (w : World ρ υ) : Session (StateM (Scene ρ υ)) where
  environment := w.environment
  homes := w.homes
  find := fun path => Scene.ask (w.find path)
  send := Scene.send w.respond
  console := ⟨fun cs => Scene.ask (w.put cs), fun q => Scene.ask (w.ask q)⟩
  reporter := Scene.note

/-- The command that makes a change. -/
def Command.ofEdit : Registry.Edit → Command
  | .install => .install
  | .remove => .remove

namespace Order

/-- The change that an order is for. -/
def edit? : Order → Option Registry.Edit
  | install .. => some .install
  | remove .. => some .remove
  | _ => none

/-- The database that an order names. -/
def database? : Order → Option Text
  | list database => database
  | install database .. => database
  | remove database .. => database
  | databases => none

/-- The modules that an order names. -/
def names : Order → List Text
  | install _ names .. => names
  | remove _ names _ => names
  | _ => []

/-- The keeper for an order: what it asks for counts as if it were set. -/
def keeper {m : Type → Type} (k : Keeper m) : Order → Keeper m
  | install _ _ yes transitive =>
    { k with
      assumeYes := Session.orAsked k.assumeYes yes
      transitive := Session.orAsked k.transitive transitive }
  | remove _ _ yes => { k with assumeYes := Session.orAsked k.assumeYes yes }
  | _ => k

theorem edit?_of_read {e : Registry.Edit} {args : List Text} {order : Order}
    (h : Instruction.read (Command.ofEdit e) args = .order order) : order.edit? = some e := by
  unfold Instruction.read at h
  split at h
  · cases h
  · split at h
    · cases h
    · split at h
      · rename_i scan _ _ o ho
        cases h
        cases e with
        | install =>
            cases ho
            rfl
        | remove =>
            cases ho
            rfl
      · cases h

end Order

theorem perform_eq {m : Type → Type} [Monad m] (s : Session m) (k : Keeper m) {order : Order}
    {e : Registry.Edit} (h : order.edit? = some e) :
    s.perform k order = s.errand (order.keeper k) e order.database? order.names := by
  cases order with
  | list database => cases h
  | databases => cases h
  | install database names yes transitive =>
      cases h
      rfl
  | remove database names yes =>
      cases h
      rfl

/-- How a session ends with the outcome of its command. -/
def Ending.of : Except Failure Unit → Ending
  | .ok _ => .well
  | .error (.halt _) => .well
  | .error (.fault f) => .complaint f.message
  | .error (.mishap .inputEnded) => .aborted
  | .error (.mishap cause) => .broken cause

section World

variable (w : World ρ υ)

theorem private_console : w.session.console.Private where
  put _ := Quiet.act fun _ => ⟨rfl, rfl⟩
  ask _ := Quiet.act fun _ => ⟨rfl, rfl⟩

theorem quiet_loadSettings (named : Option Text) : Quiet (w.session.loadSettings named) := by
  unfold Session.loadSettings
  refine Quiet.bind (Quiet.act fun s => ?_) fun finding => ?_
  · unfold Settings.look
    split
    · exact Still.refl s
    · exact ⟨rfl, rfl⟩
  · exact Quiet.bind (Quiet.report _) fun _ => Quiet.ofExcept _ _

/-- A failure ends a session without another word to the service. -/
theorem run_handle (f : Failure) (s : Scene ρ υ) :
    ((w.session.handle f).run s).1 = Ending.of (.error f) ∧
      Still s ((w.session.handle f).run s).2 := by
  cases f with
  | halt h => exact ⟨rfl, quiet_sayUnder (private_console w) _ _ s⟩
  | fault f => exact ⟨rfl, rfl, rfl⟩
  | mishap cause => cases cause <;> exact ⟨rfl, rfl, rfl⟩

theorem run_handled {β : Type} (t : Task (StateM (Scene ρ υ)) β)
    (next : β → StateM (Scene ρ υ) Ending) (s : Scene ρ υ) :
    (w.session.handled t next).run s =
      StateT.run (match (t.runIn s).1 with
        | .ok b => next b
        | .error f => w.session.handle f) (t.runIn s).2 := by
  unfold Session.handled
  exact StateT.run_bind _ _ _

theorem run_handled_of_ok {β : Type} {t : Task (StateM (Scene ρ υ)) β} {s s' : Scene ρ υ} {b : β}
    (hrun : t.runIn s = (.ok b, s')) (next : β → StateM (Scene ρ υ) Ending) :
    (w.session.handled t next).run s = (next b).run s' := by
  have hhandled := run_handled w t next s
  rw [hrun] at hhandled
  exact hhandled

theorem run_handled_of_error {β : Type} {t : Task (StateM (Scene ρ υ)) β} {s s' : Scene ρ υ}
    {f : Failure} (hrun : t.runIn s = (.error f, s')) (next : β → StateM (Scene ρ υ) Ending) :
    (w.session.handled t next).run s = (w.session.handle f).run s' := by
  have hhandled := run_handled w t next s
  rw [hrun] at hhandled
  exact hhandled

/-- Behind its settings a session is what its arguments say. -/
theorem run_of_loaded {c : Command} {named : Option Text} {args rest : List Text}
    {start loaded : Scene ρ υ} {settings : Settings}
    (hargs : Opening.read args = .command named c rest)
    (hload : (w.session.loadSettings named).runIn start = (.ok settings, loaded)) :
    (w.session.run args).run start =
      StateT.run (match Instruction.read c rest with
        | .misused => pure .misused
        | .help => pure .well
        | .order order =>
          w.session.handled (w.session.carryOut settings order) fun _ => pure .well) loaded := by
  unfold Session.run
  rw [hargs]
  exact run_handled_of_ok w hload _

/-- Without settings a session ends before its arguments are read. -/
theorem run_of_not_loaded {c : Command} {named : Option Text} {args rest : List Text}
    {start loaded : Scene ρ υ} {f : Failure}
    (hargs : Opening.read args = .command named c rest)
    (hload : (w.session.loadSettings named).runIn start = (.error f, loaded)) :
    (w.session.run args).run start = (w.session.handle f).run loaded := by
  unfold Session.run
  rw [hargs]
  exact run_handled_of_error w hload _

/-- The end of a session shows the outcome of its task and says nothing to the service. -/
theorem run_handled_well {t : Task (StateM (Scene ρ υ)) Unit} {s s' : Scene ρ υ}
    {o : Except Failure Unit} (hrun : t.runIn s = (o, s')) :
    ((w.session.handled t fun _ => pure .well).run s).1 = Ending.of o ∧
      Still s' ((w.session.handled t fun _ => pure .well).run s).2 := by
  cases o with
  | error f =>
      rw [run_handled_of_error w hrun]
      exact run_handle w f s'
  | ok u =>
      rw [run_handled_of_ok w hrun]
      exact ⟨rfl, Still.refl s'⟩

/-- The keeper of a session reaches the service of the world and asks its user. -/
theorem reaches_of_keeper {settings : Settings} {k : Keeper (StateM (Scene ρ υ))}
    (h : w.session.keeper settings = .ok k) (order : Order) :
    (order.keeper k).registry.Reaches w.respond ∧ ∀ p ∈ (order.keeper k).prompter, p.Private := by
  unfold Session.keeper Keeper.ofSettings at h
  cases hgateway : Gateway.make settings.address settings.token settings.timeout with
  | error f =>
      rw [hgateway] at h
      cases h
  | ok gateway =>
      rw [hgateway] at h
      obtain rfl := Except.ok.inj h
      refine ⟨?_, ?_⟩
      · cases order <;> exact ⟨rfl, rfl⟩
      · have hprivate := (private_console w).prompter
        cases order <;> rintro p ⟨⟩ <;> exact hprivate

theorem runIn_carryOut {settings : Settings} {k : Keeper (StateM (Scene ρ υ))} {order : Order}
    {e : Registry.Edit} (hkeeper : w.session.keeper settings = .ok k)
    (hedit : order.edit? = some e) (s : Scene ρ υ) :
    (w.session.carryOut settings order).runIn s =
      (w.session.errand (order.keeper k) e order.database? order.names).runIn s := by
  rw [← perform_eq _ _ hedit]
  unfold Session.carryOut
  rw [hkeeper]
  rfl

/-- Settings without a keeper end a task before anything is carried out. -/
theorem runIn_carryOut_of_error {settings : Settings} {f : Failure} (order : Order)
    (hkeeper : w.session.keeper settings = .error f) (s : Scene ρ υ) :
    (w.session.carryOut settings order).runIn s = (.error f, s) := by
  unfold Session.carryOut
  rw [hkeeper]
  rfl

/-- An order for a change has the talk of its change. -/
theorem run_order {c : Command} {named : Option Text} {args rest : List Text}
    {start loaded : Scene ρ υ} {settings : Settings} {order : Order} {e : Registry.Edit}
    {k : Keeper (StateM (Scene ρ υ))} (hargs : Opening.read args = .command named c rest)
    (hload : (w.session.loadSettings named).runIn start = (.ok settings, loaded))
    (horder : Instruction.read c rest = .order order)
    (hkeeper : w.session.keeper settings = .ok k) (hedit : order.edit? = some e) :
    ∃ talk o, Speaks w.respond loaded talk ((w.session.run args).run start).2 ∧
      ((w.session.run args).run start).1 = Ending.of o ∧
      Course w.session (order.keeper k) e order.database? (Session.requestOf order.names) loaded
        talk o := by
  rw [run_of_loaded w hargs hload, horder]
  dsimp only
  rcases hcarried : (w.session.carryOut settings order).runIn loaded with ⟨o, final⟩
  obtain ⟨hending, hstill⟩ := run_handled_well w hcarried
  rw [runIn_carryOut w hkeeper hedit] at hcarried
  obtain ⟨hr, hprivate⟩ := reaches_of_keeper w hkeeper order
  obtain ⟨talk, hspeaks, hcourse, -⟩ := errand_course hr (private_console w) hprivate hcarried
  exact ⟨talk, o, hspeaks.still hstill, hending, hcourse⟩

end World

/--
The talks and the endings of a session in a world, called with `args` for a
command that makes a change.
-/
inductive Sitting (w : World ρ υ) (e : Registry.Edit) (named : Option Text) (args : List Text)
    (start : Scene ρ υ) : List (Request × Reply) → Ending → Prop where
  /-- Nothing is carried out: the settings or the arguments are refused, or help is asked for. -/
  | idle (ending : Ending) : Sitting w e named args start [] ending
  | carried (settings : Settings) (loaded : Scene ρ υ) (order : Order)
      (k : Keeper (StateM (Scene ρ υ))) (talk : List (Request × Reply)) (o : Except Failure Unit)
      (hload : (w.session.loadSettings named).runIn start = (.ok settings, loaded))
      (horder : Instruction.read (Command.ofEdit e) args = .order order)
      (hkeeper : w.session.keeper settings = .ok k)
      (hcourse : Course w.session (order.keeper k) e order.database?
        (Session.requestOf order.names) loaded talk o) :
      Sitting w e named args start talk (Ending.of o)

/--
**What a session says.**  Let a session be called for an install or a removal,
in any world.  It has the talk of a change, and this change had one of its
courses, or it has no talk.  So the service is asked for the databases, then
for both rosters together, then for one change, and for nothing else; and the
change is sent only for a database that was listed, for names that were settled
on for these rosters, and after it was agreed to.
-/
theorem run_sitting (w : World ρ υ) (e : Registry.Edit) {named : Option Text}
    {args rest : List Text} (hargs : Opening.read args = .command named (Command.ofEdit e) rest)
    (start : Scene ρ υ) :
    ∃ talk, Speaks w.respond start talk ((w.session.run args).run start).2 ∧
      Sitting w e named rest start talk ((w.session.run args).run start).1 := by
  rcases hload : (w.session.loadSettings named).runIn start with ⟨f | settings, loaded⟩
  · have hstill := (quiet_loadSettings w named).still hload
    rw [run_of_not_loaded w hargs hload]
    exact ⟨[], (hstill.trans (run_handle w f loaded).2).speaks, .idle _⟩
  have hloaded := (quiet_loadSettings w named).still hload
  cases horder : Instruction.read (Command.ofEdit e) rest with
  | misused =>
      rw [run_of_loaded w hargs hload, horder]
      exact ⟨[], hloaded.speaks, .idle _⟩
  | help =>
      rw [run_of_loaded w hargs hload, horder]
      exact ⟨[], hloaded.speaks, .idle _⟩
  | order order =>
      cases hkeeper : w.session.keeper settings with
      | error f =>
          rw [run_of_loaded w hargs hload, horder]
          have hrefused := runIn_carryOut_of_error w order hkeeper loaded
          exact ⟨[], (hloaded.trans (run_handled_well w hrefused).2).speaks, .idle _⟩
      | ok k =>
          obtain ⟨talk, o, hspeaks, hending, hcourse⟩ :=
            run_order w hargs hload horder hkeeper (Order.edit?_of_read horder)
          rw [hending]
          exact ⟨talk, hloaded.speaks.trans hspeaks,
            .carried settings loaded order k talk o hload horder hkeeper hcourse⟩

/-! ## At a desk -/

/-- A desk without settings, with a terminal and a server that may give replies of its own. -/
def deskWorld : World Server Terminal where
  environment := []
  homes := ⟨some "/root", []⟩
  find := fun _ t => (.missing, t)
  respond := Server.answer
  put := fun cs t => t.write cs
  ask := fun q t => t.ask q

/-- A server with a `lamp` and a database. -/
def lampServer : Server := ⟨[⟨"lamp", []⟩], [("main", [])], []⟩

/-- An install in the database `main`, which has to be confirmed. -/
theorem run_sitting_desk :
    Opening.read ["install", "--db", "main", "lamp"] =
        .command none (Command.ofEdit .install) ["--db", "main", "lamp"] ∧
      ∃ talk, Speaks Server.answer (Scene.start lampServer (Terminal.ofInput "y\n" []))
          talk ((deskWorld.session.run ["install", "--db", "main", "lamp"]).run
            (Scene.start lampServer (Terminal.ofInput "y\n" []))).2 ∧
        Sitting deskWorld .install none ["--db", "main", "lamp"]
          (Scene.start lampServer (Terminal.ofInput "y\n" [])) talk
          ((deskWorld.session.run ["install", "--db", "main", "lamp"]).run
            (Scene.start lampServer (Terminal.ofInput "y\n" []))).1 := by
  have hargs : Opening.read ["install", "--db", "main", "lamp"] =
      .command none (Command.ofEdit .install) ["--db", "main", "lamp"] := by
    rfl
  exact ⟨hargs, run_sitting deskWorld .install hargs _⟩

/-! ### A name that cannot be written -/

/-- A name that is one half of a pair of surrogates. -/
def halfName : Text := Text.ofList [.surrogate ⟨0x4ff, by decide⟩]

/-- A list with one name, which is the half name. -/
def halfReply : Reply := .ofText 200 "" (Text.letters "[\"\\udcff\"]")

/-- The server with this list of its databases. -/
def halfServer : Server := { lampServer with replies := [("db/list", halfReply)] }

/-- The gateway of the desk. -/
def deskGateway : Gateway := ⟨"http://localhost:8088", .str "", .int 30⟩

/-- The keeper of the desk. -/
def deskKeeper : Keeper (StateM (Scene Server Terminal)) where
  registry := ⟨deskGateway, Scene.send Server.answer, Scene.note⟩
  prompter := some deskWorld.session.console.prompter
  transitive := .bool false
  assumeYes := .bool false

theorem keeper_desk : deskWorld.session.keeper Settings.default = .ok deskKeeper := by
  have hgateway : Gateway.make Settings.default.address Settings.default.token
      Settings.default.timeout = .ok deskGateway := by
    rfl
  unfold Session.keeper Keeper.ofSettings
  rw [hgateway]
  rfl

theorem loadSettings_desk (s : Scene Server Terminal) :
    ((deskWorld.session.loadSettings none).runIn s).1 = .ok Settings.default := by
  rfl

theorem answer_halfServer {q : Request}
    (hq : deskGateway.request Registry.databasesCall.1 Registry.databasesCall.2 = .ok q) :
    (halfServer.answer q).1 = halfReply := by
  have hkey := Server.key_databases (g := deskGateway) (by decide) hq
  simp [Server.answer, halfServer, hkey]

theorem readDatabases_halfReply : Registry.readDatabases halfReply = .ok [halfName] := by
  have hread : (Registry.readDatabases halfReply).toOption = some [halfName] := by
    decide +kernel
  cases h : Registry.readDatabases halfReply with
  | error => simp [h, Except.toOption] at hread
  | ok known => simpa [h, Except.toOption] using hread

/-- The server lists the half name. -/
theorem databases_desk {s s' : Scene Server Terminal} (hs : s.service = halfServer)
    {o : Except Failure (List Text)} (hrun : deskKeeper.registry.databases.runIn s = (o, s')) :
    o = .ok [halfName] := by
  have hr := (reaches_of_keeper deskWorld keeper_desk .databases).1
  obtain ⟨x, hx, ho⟩ := exchanged_databases hr hrun
  cases hx with
  | unsent cause _ hcause _ =>
      have hq : (deskGateway.request Registry.databasesCall.1
        Registry.databasesCall.2).toOption.isSome = true := by
        rfl
      rw [show deskGateway.request Registry.databasesCall.1 Registry.databasesCall.2 =
        .error cause from hcause] at hq
      cases hq
  | sent q reply _ hq hspeaks =>
      have hreply : (s.service.answer q).1 = reply := hspeaks.talks.1
      rw [hs, answer_halfServer hq] at hreply
      rw [ho, ← hreply, Except.bind, readDatabases_halfReply]

theorem resolve_desk {s : Scene Server Terminal} (hs : s.service = halfServer) (yes : Bool) :
    ((((Order.install (some halfName) ["lamp"] yes false).keeper deskKeeper).resolve
      (some halfName)).runIn s).1 = .ok halfName := by
  have hnamed : (Text.strip halfName.toList).isEmpty = false := by decide
  unfold Keeper.resolve
  dsimp only
  rw [hnamed, if_neg (by decide), runIn_bind]
  rcases hlist : deskKeeper.registry.databases.runIn s with ⟨o, s'⟩
  obtain rfl := databases_desk hs hlist
  have hregistry : ((Order.install (some halfName) ["lamp"] yes false).keeper deskKeeper).registry =
      deskKeeper.registry := rfl
  rw [hregistry, hlist]
  show (Keeper.resolveNamed [halfName] halfName).mapError id = .ok halfName
  rw [Keeper.resolveNamed_eq_ok.2 ⟨List.mem_singleton_self _, rfl⟩]
  rfl

/--
The two calls for rosters are not always sent together: where the database has
a name that cannot be written, only the catalog is asked for.
-/
theorem requests_halfName :
    (((deskWorld.session.run ["install", "--db", halfName, "-y", "lamp"]).run
      (Scene.start halfServer (Terminal.ofInput [] []))).2.sent.map fun q => (q.url, q.body)) =
        [(("http://localhost:8088/v1/db/list" : Text), Value.map []),
          ("http://localhost:8088/v1/module/list", .map [(.str "all", .bool true)])] := by
  have hargs : Opening.read ["install", "--db", halfName, "-y", "lamp"] =
      .command none .install ["--db", halfName, "-y", "lamp"] := by
    rfl
  have horder : Instruction.read .install ["--db", halfName, "-y", "lamp"] =
      .order (.install (some halfName) ["lamp"] true false) := by
    decide
  rcases hload : (deskWorld.session.loadSettings none).runIn
    (Scene.start halfServer (Terminal.ofInput [] [])) with ⟨x, loaded⟩
  obtain rfl : x = .ok Settings.default := by
    rw [← loadSettings_desk, hload]
  have hloaded := (quiet_loadSettings deskWorld none).still hload
  obtain ⟨talk, o, hspeaks, -, hcourse⟩ :=
    run_order deskWorld hargs hload horder keeper_desk rfl
  obtain ⟨q, reply, q₁, reply₁, f, rfl, -, hlisted, hq₁, -⟩ :=
    hcourse.halved_of_unwritable (Prod.ext (resolve_desk hloaded.service true) rfl) (by decide)
  obtain ⟨hurl, hbody⟩ := Gateway.eq_of_request hlisted.request
  obtain ⟨hurl₁, hbody₁⟩ := Gateway.eq_of_request hq₁
  have hdatabases : Gateway.sentUrl (deskGateway.urlFor "db/list") =
      "http://localhost:8088/v1/db/list" := by
    rfl
  have hmodules : Gateway.sentUrl (deskGateway.urlFor "module/list") =
      "http://localhost:8088/v1/module/list" := by
    rfl
  rw [hspeaks.sent, hloaded.sent]
  show [(q.url, q.body), (q₁.url, q₁.body)] = _
  rw [hurl, hbody, hurl₁, hbody₁, ← hdatabases, ← hmodules]
  rfl

end ModuleKeeper.CommandLine
