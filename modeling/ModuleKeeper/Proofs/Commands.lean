import ModuleKeeper.Proofs.Requests
import ModuleKeeper.Proofs.Service

/-!
# Commands on a service

A command installs or removes modules: it finds its database, takes a snapshot
of the service, plans, lets the user confirm, and sends one change.  Up to
this change the service shows what it showed at the start, so the plan is made
on what the service still shows when the change arrives.  This is the law of
one command (`Command.ensures_task`); what a run of commands keeps follows
from it by induction.

## Main results

* `Keeps.fetchSnapshot`: a snapshot holds what the service shows.
* `Command.ensures_task`: a command changes nothing or makes one justified
  change.
-/

namespace ModuleKeeper

open ModuleKeeper.Task

variable {ρ υ : Type}

/-! ## Calls -/

namespace Service

/-- The registry of a service in a scene. -/
def registry (S : Service ρ) (g : Gateway) : Registry (StateM (Scene ρ υ)) where
  gateway := g
  send := Scene.send S.respond
  reporter := Scene.note

/--
The service was asked for a change while it showed the same as in `s`.  It
replied with `reply` and is in the state `t` since.
-/
def Sends (S : Service ρ) (g : Gateway) (e : Registry.Edit) (database : Text) (names : List Text)
    (s : ρ) (reply : Reply) (t : ρ) : Prop :=
  ∃ s' q, S.Same s s' ∧ g.request e.path (Registry.Edit.body database names) = .ok q ∧
    S.respond s' q = (reply, t)

/-- The change was sent and accepted. -/
def Accepts (S : Service ρ) (g : Gateway) (e : Registry.Edit) (database : Text)
    (names : List Text) (s t : ρ) : Prop :=
  ∃ reply answer, S.Sends g e database names s reply t ∧ Gateway.interpret reply = .ok answer

/-- The change was sent and refused. -/
def Refuses (S : Service ρ) (g : Gateway) (e : Registry.Edit) (database : Text)
    (names : List Text) (s t : ρ) : Prop :=
  ∃ reply f, S.Sends g e database names s reply t ∧ Gateway.interpret reply = .error f

variable {S : Service ρ} {g : Gateway} {e : Registry.Edit} {database : Text} {names : List Text}

theorem Accepts.edited (hS : S.Specified g) {s t : ρ} (h : S.Accepts g e database names s t) :
    S.Edited e database names s t := by
  obtain ⟨reply, answer, ⟨s', q, hsame, hq, hrespond⟩, hreply⟩ := h
  have hedited := hS.accepted s' e database names q hq ⟨answer, by rw [hrespond, hreply]⟩
  rw [hrespond] at hedited
  exact hsame.edited hedited

theorem Refuses.same_or_edited (hS : S.Specified g) {s t : ρ}
    (h : S.Refuses g e database names s t) :
    S.Same s t ∨ S.Edited e database names s t := by
  obtain ⟨reply, f, ⟨s', q, hsame, hq, hrespond⟩, hreply⟩ := h
  have hchange := hS.refused s' e database names q hq ⟨f, by rw [hrespond, hreply]⟩
  rw [hrespond] at hchange
  rcases hchange with hkept | hedited
  · exact Or.inl (hsame.trans hkept)
  · exact Or.inr (hsame.edited hedited)

end Service

variable {S : Service ρ} {g : Gateway}

/-- A call that is sent reaches the service in the state of which `p` holds. -/
theorem Task.Ensures.exchange (p : ρ → Prop) (call : Text × Value) :
    Ensures (Served p) ((S.registry (υ := υ) g).exchange call)
      (fun reply s => ∃ s' q, p s' ∧ g.request call.1 call.2 = .ok q ∧
        S.respond s' q = (reply, s.service)) (Served p) := by
  unfold Registry.exchange
  refine (Keeps.ofExcept fun q hq => hq).andThen (fun _ hs => hs) fun q hq => ?_
  refine (Keeps.report p _).andThen (fun _ hs => hs) fun _ _ => ?_
  refine Ensures.act fun s hs => ?_
  exact ⟨s.service, q, hs, hq, rfl⟩

namespace Task.Keeps

variable (hS : S.Specified g) (start : ρ)

include hS

theorem databases :
    Keeps (υ := υ) (S.Same start) (S.registry g).databases fun _ => True := by
  unfold Registry.databases
  refine Ensures.bind (Ensures.exchange _ _) fun reply => ?_
  refine (ofExcept fun _ _ => trivial).mono ?_ (fun _ _ hs => hs) fun _ hs => hs
  rintro s ⟨s', q, hsame, hq, hrespond⟩
  have hkept := hS.databases s' q hq
  rw [hrespond] at hkept
  exact hsame.trans hkept

/-- A roster that is fetched is the one that the service shows. -/
theorem attempt (role : Role) (database : Text) :
    Keeps (υ := υ) (S.Same start) (Task.act ((S.registry g).attempt role database))
      fun result => ∀ r, result.2 = .ok r → r = S.roster start database role := by
  refine Ensures.act fun s hs => ?_
  unfold Registry.attempt
  cases hq : (S.registry (υ := υ) g).gateway.request (Registry.rosterCall role database).1
      (Registry.rosterCall role database).2 with
  | error cause =>
      simp only [hq]
      refine ⟨fun r hr => ?_, hs⟩
      cases hr
  | ok q =>
      obtain ⟨hkept, hlists⟩ := hS.lists s.service role database q hq
      have hsame : S.Same start s.service := hs
      simp only [hq]
      refine ⟨fun r hr => ?_, hsame.trans hkept⟩
      have hroster := roster_of_readRoster hlists hr
      rw [hsame.shown] at hroster
      exact hroster

theorem fetchSnapshot (database : Text) :
    Keeps (υ := υ) (S.Same start) ((S.registry g).fetchSnapshot database)
      fun rosters => rosters =
        (S.roster start database .catalog, S.roster start database .installed) := by
  unfold Registry.fetchSnapshot
  refine bind (attempt hS start .catalog database) fun catalog hcatalog => ?_
  refine bind (attempt hS start .installed database) fun installed hinstalled => ?_
  refine bind (report _ _) fun _ _ => ?_
  refine bind (ofExcept fun r hr => hcatalog r hr) fun r hr => ?_
  refine bind (ofExcept fun r hr => hinstalled r hr) fun r' hr' => ?_
  refine bind (report _ _) fun _ _ => ?_
  exact pure (by rw [hr, hr'])

end Task.Keeps

/-! ## Commands -/

/-- How a command finds its database. -/
inductive Target where
  /-- The database is given, and nobody is asked about it. -/
  | given (database : Text)
  /-- The database is looked up by its name, or selected by the user. -/
  | resolved (database : Option Text)

namespace Target

variable {m : Type → Type} [Monad m]

/-- The database of a command. -/
def find (k : Keeper m) : Target → Task m Text
  | given database => pure database
  | resolved database => k.resolve database

end Target

/-- A command with the settings that it works with and the user who can be asked. -/
structure Command (υ : Type) where
  edit : Registry.Edit
  target : Target
  /-- What names the modules; null is for a selection by the user. -/
  request : Value
  transitive : Value
  assumeYes : Value
  user : Option (User υ)

namespace Command

/-- The keeper of a command. -/
def keeper (c : Command υ) (S : Service ρ) (g : Gateway) : Keeper (StateM (Scene ρ υ)) where
  registry := S.registry g
  prompter := c.user.map User.prompter
  transitive := c.transitive
  assumeYes := c.assumeYes

/-- The task of a command. -/
def task (c : Command υ) (S : Service ρ) (g : Gateway) : Task (StateM (Scene ρ υ)) Unit := do
  let k := c.keeper S g
  let database ← c.target.find k
  match c.edit with
  | .install => do
    let plan ← k.prepareInstall database c.request
    k.executeInstall database plan
  | .remove => do
    let names ← k.prepareRemoval database c.request
    k.executeRemoval database names

/-- The scene after a command. -/
def next (S : Service ρ) (g : Gateway) (scene : Scene ρ υ) (c : Command υ) : Scene ρ υ :=
  ((c.task S g).runIn scene).2

end Command

namespace Service

/-- The scene after some commands, whatever comes of each. -/
def after (S : Service ρ) (g : Gateway) (scene : Scene ρ υ) (commands : List (Command υ)) :
    Scene ρ υ :=
  commands.foldl (Command.next S g) scene

/-- A change of a database that a request may come to, by what the service shows in `s`. -/
inductive Justified (S : Service ρ) (s : ρ) (transitive : Bool) (database : Text) :
    Registry.Edit → List Text → Prop where
  | install (plan : Install.Plan Text)
      (hplanned : Planned (S.roster s database .catalog) (S.roster s database .installed)
        transitive plan) : Justified S s transitive database .install plan.modules
  | remove (names : List Text) (hremovable : Removable (S.roster s database .installed) names) :
      Justified S s transitive database .remove names

end Service

/-! ## The law of a command -/

section Law

theorem Task.Keeps.confirm (p : ρ → Prop) (c : Command υ) (question : Value) (declined : Halt) :
    Keeps p ((c.keeper S g).confirm question declined) fun _ => True := by
  unfold Keeper.confirm Command.keeper
  split
  · exact Keeps.pure trivial
  · cases c.user with
    | none => exact Keeps.fail _
    | some u =>
        refine Keeps.bind (Keeps.ask p _) fun answer _ => ?_
        split
        · exact Keeps.pure trivial
        · exact Keeps.fail _

theorem Task.Keeps.resolveDatabase (hS : S.Specified g) (start : ρ) (c : Command υ)
    (database : Option Text) :
    Keeps (S.Same start) ((c.keeper S g).resolve database) fun _ => True := by
  unfold Keeper.resolve
  cases database with
  | some database =>
      dsimp only
      split
      · exact Keeps.fail _
      · refine Keeps.bind (Keeps.databases hS start) fun known _ => ?_
        exact Keeps.ofExcept fun _ _ => trivial
  | none =>
      dsimp only
      refine Keeps.bind (Keeps.databases hS start) fun known _ => ?_
      split
      · exact Keeps.fail _
      · unfold Command.keeper
        cases c.user with
        | none => exact Keeps.fail _
        | some u =>
            refine Keeps.bind (Keeps.ask _ _) fun position _ => ?_
            split
            · exact Keeps.pure trivial
            · exact Keeps.fail _

theorem Task.Keeps.find (hS : S.Specified g) (start : ρ) (c : Command υ) (target : Target) :
    Keeps (S.Same start) (target.find (c.keeper S g)) fun _ => True := by
  cases target with
  | given database => exact Keeps.pure trivial
  | resolved database => exact Keeps.resolveDatabase hS start c database

/-- An install is planned on what the service shows. -/
theorem Task.Keeps.prepareInstall (hS : S.Specified g) (start : ρ) (c : Command υ)
    (database : Text) :
    Keeps (S.Same start) ((c.keeper S g).prepareInstall database c.request)
      (Planned (S.roster start database .catalog) (S.roster start database .installed)
        c.transitive.truthy) := by
  unfold Keeper.prepareInstall
  refine Keeps.bind (Keeps.fetchSnapshot hS start database) fun rosters hrosters => ?_
  subst hrosters
  exact Keeps.planRequested c.user _ _ _ _

/-- A removal is checked on what the service shows. -/
theorem Task.Keeps.prepareRemoval (hS : S.Specified g) (start : ρ) (c : Command υ)
    (database : Text) :
    Keeps (S.Same start) ((c.keeper S g).prepareRemoval database c.request)
      (Removable (S.roster start database .installed)) := by
  unfold Keeper.prepareRemoval
  refine Keeps.bind (Keeps.fetchSnapshot hS start database) fun rosters hrosters => ?_
  subst hrosters
  exact Keeps.resolveRequested c.user _ _ _

/-- A change is sent once; it is accepted if the task succeeds. -/
theorem Task.Ensures.apply (start : ρ) (e : Registry.Edit) (database : Text) (names : List Text) :
    Ensures (Served (υ := υ) (S.Same start)) ((S.registry g).apply e database names)
      (fun _ s => S.Accepts g e database names start s.service)
      fun s => S.Same start s.service ∨ S.Refuses g e database names start s.service := by
  unfold Registry.apply
  refine (Keeps.report _ _).andThen (fun _ hs => Or.inl hs) fun _ _ => ?_
  refine Ensures.bind ((Ensures.exchange (S.Same start) _).mono (fun _ hs => hs)
    (fun _ _ hs => hs) fun _ hs => Or.inl hs) fun reply => ?_
  cases hreply : Gateway.interpret reply with
  | error f =>
      refine Ensures.fail ?_
      rintro s hsent
      exact Or.inr ⟨reply, f, hsent, hreply⟩
  | ok answer =>
      refine Ensures.pure ?_
      rintro s hsent
      exact ⟨reply, answer, hsent, hreply⟩

theorem Task.Ensures.execute (start : ρ) (c : Command υ) (e : Registry.Edit) (database : Text)
    (names : List Text) :
    Ensures (Served (S.Same start)) ((c.keeper S g).execute e database names)
      (fun _ s => S.Accepts g e database names start s.service)
      fun s => S.Same start s.service ∨ S.Refuses g e database names start s.service := by
  unfold Keeper.execute
  refine (Keeps.confirm _ c _ _).andThen (fun _ hs => Or.inl hs) fun _ _ => ?_
  refine Ensures.bind (Ensures.apply start e database names) fun _ => ?_
  exact Ensures.report (S.Accepts g e database names start) _

/--
**One command.**  A command that succeeds has made one change, which its
request justified by what the service showed before.  A command that fails has
changed nothing, or its justified change was refused.
-/
theorem Command.ensures_task (hS : S.Specified g) (start : ρ) (c : Command υ) :
    Ensures (Served (S.Same start)) (c.task S g)
      (fun _ s => ∃ database names, S.Justified start c.transitive.truthy database c.edit names ∧
        S.Accepts g c.edit database names start s.service)
      fun s => S.Same start s.service ∨
        ∃ database names, S.Justified start c.transitive.truthy database c.edit names ∧
          S.Refuses g c.edit database names start s.service := by
  unfold Command.task
  refine (Keeps.find hS start c c.target).andThen (fun _ hs => Or.inl hs) fun database _ => ?_
  cases c.edit with
  | install =>
      dsimp only
      refine (Keeps.prepareInstall hS start c database).andThen (fun _ hs => Or.inl hs)
        fun plan hplan => ?_
      have hjustified : S.Justified start c.transitive.truthy database .install plan.modules :=
        .install plan hplan
      refine (Ensures.execute start c .install database plan.modules).mono (fun _ hs => hs) ?_ ?_
      · exact fun _ s hs => ⟨database, plan.modules, hjustified, hs⟩
      · exact fun s hs => hs.imp_right fun h => ⟨database, plan.modules, hjustified, h⟩
  | remove =>
      dsimp only
      refine (Keeps.prepareRemoval hS start c database).andThen (fun _ hs => Or.inl hs)
        fun names hnames => ?_
      have hjustified : S.Justified start c.transitive.truthy database .remove names :=
        .remove names hnames
      refine (Ensures.execute start c .remove database names).mono (fun _ hs => hs) ?_ ?_
      · exact fun _ s hs => ⟨database, names, hjustified, hs⟩
      · exact fun s hs => hs.imp_right fun h => ⟨database, names, hjustified, h⟩

end Law

end ModuleKeeper
