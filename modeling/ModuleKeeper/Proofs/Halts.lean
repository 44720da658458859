import ModuleKeeper.Proofs.CallEndings
import ModuleKeeper.Proofs.Courses

/-!
# The halts of a change

A change may end well without having been made: because there is nothing to
do, because nothing was selected, or because it was declined.  These are all
the halts that there are for it.  Neither the service nor the terminal can
bring about another one: what they fail with are faults and mishaps.

## Main results

* `Gateway.unhalting_interpret`: no reply is understood as a halt.
* `Settings.unhalting_load`: settings that are rejected are no halt.
* `Console.neverHalts_prompter`: no answer at a terminal is a halt by itself.
* `CommandLine.mem_haltsOf_of_errand`: the halts that a change can end with.
-/

namespace ModuleKeeper

open ModuleKeeper.Task

/-! ## Computations -/

namespace Task.Unhalting

variable {α β : Type} {x : Except Failure α}

theorem bind {f : α → Except Failure β} (hx : Unhalting x) (hf : ∀ a, Unhalting (f a)) :
    Unhalting (x.bind f) := by
  intro h
  cases x with
  | error e => exact fun hhalt => hx h (congrArg Except.error (Except.error.inj hhalt))
  | ok a => exact hf a h

theorem map (hx : Unhalting x) (f : α → β) : Unhalting (x.map f) := by
  intro h
  cases x with
  | error e => exact fun hhalt => hx h (congrArg Except.error (Except.error.inj hhalt))
  | ok a => nofun

end Task.Unhalting

/-! ## Replies -/

theorem Gateway.unhalting_interpret (reply : Reply) : Unhalting (interpret reply) := by
  intro h hhalt
  have hunderstood := understood_interpret reply
  rw [hhalt] at hunderstood
  cases hunderstood

namespace Registry

/-- A refusal of the service is no halt, in whichever words it is told. -/
theorem within_ne_halt {wrap : ServiceFault → Fault} {reply : Reply} {f : Failure}
    (hf : Gateway.interpret reply = .error f) (h : Halt) : within wrap f ≠ .halt h := by
  unfold within
  split
  · nofun
  · rintro rfl
    exact Gateway.unhalting_interpret reply h hf

theorem unhalting_readRoster (role : Role) (reply : Reply) :
    Unhalting (readRoster role reply).2 := by
  intro h
  unfold readRoster
  split
  · rename_i f hf
    exact fun hwithin => within_ne_halt hf h (Except.error.inj hwithin)
  · unfold rosterOf
    split
    · nofun
    · dsimp only
      cases (Roster.read _).2 <;> nofun

theorem unhalting_readDatabases (reply : Reply) : Unhalting (readDatabases reply) := by
  intro h
  unfold readDatabases
  split
  · rename_i f hf
    exact fun hwithin => within_ne_halt hf h (Except.error.inj hwithin)
  · unfold databasesOf
    split
    · split <;> nofun
    · nofun

end Registry

/-! ## Settings -/

theorem Settings.unhalting_checkTimeout (v : Value) : Unhalting (checkTimeout v) := by
  intro h
  unfold checkTimeout
  split
  · nofun
  · split <;> nofun
  · split
    · nofun
    · split <;> nofun

theorem Settings.unhalting_check (s : Settings) : Unhalting s.check := by
  intro h
  unfold check
  split
  · rename_i f hf
    rintro ⟨⟩
    exact unhalting_checkTimeout _ h hf
  · split
    · rename_i refusal _
      cases refusal <;> nofun
    · nofun

theorem Settings.readFailure_ne_halt (path : Text) (f : FileFailure) (h : Halt) :
    readFailure path f ≠ .halt h := by
  cases f <;> nofun

theorem Settings.unhalting_ofFile (path : Text) (finding : Finding) :
    Unhalting (ofFile path finding).2 := by
  intro h
  unfold ofFile
  split
  · exact fun hhalt => readFailure_ne_halt path _ h (Except.error.inj hhalt)
  · dsimp only
    cases (File.read _ _).2 with
    | error f => exact fun hhalt => readFailure_ne_halt path f h (Except.error.inj hhalt)
    | ok entries => nofun

theorem Settings.unhalting_load (path : Text) (finding : Finding) (env : Environment) :
    Unhalting (load path finding env).2 := by
  have hchecked := (unhalting_ofFile path finding).bind fun s =>
    unhalting_check (s.applyEnvironment env)
  intro h
  unfold load
  dsimp only
  split
  · rename_i f hf
    rintro ⟨⟩
    exact hchecked h hf
  · nofun

theorem Gateway.unhalting_make (address token timeout : Value) :
    Unhalting (make address token timeout) := by
  intro h
  unfold make
  split
  · rename_i refusal _
    cases refusal <;> nofun
  · nofun

theorem Keeper.unhalting_ofSettings {m : Type → Type} (s : Settings) (send : Request → m Reply)
    (reporter : Reporter m) (prompter : Option (Prompter m)) :
    Unhalting (ofSettings s send reporter prompter) :=
  (Gateway.unhalting_make s.address s.token s.timeout).map _

/-! ## The registry -/

section Tasks

variable {σ : Type} {h : Halt}

namespace Registry

variable (r : Registry (StateM σ))

theorem avoids_exchange (call : Text × Value) : Avoids (r.exchange call) (.halt h) := by
  unfold exchange
  refine Avoids.bind (Avoids.ofExcept fun _ _ => nofun) fun q => ?_
  exact Avoids.bind (Avoids.report _ _) fun _ => Avoids.act _

theorem avoids_databases : Avoids r.databases (.halt h) :=
  Avoids.bind (r.avoids_exchange _) fun reply => Avoids.ofExcept_id (unhalting_readDatabases reply)

theorem unhalting_attempt (role : Role) (database : Text) (s : σ) :
    Unhalting ((r.attempt role database).run s).1.2 := by
  unfold attempt
  cases hq : r.gateway.request (rosterCall role database).1 (rosterCall role database).2 with
  | error cause =>
      simp only [hq]
      exact fun _ => nofun
  | ok q =>
      simp only [hq]
      exact unhalting_readRoster role _

theorem avoids_fetchSnapshot (database : Text) : Avoids (r.fetchSnapshot database) (.halt h) := by
  unfold fetchSnapshot
  refine Avoids.act_bind fun s => Avoids.act_bind fun s' => ?_
  refine Avoids.bind (Avoids.report _ _) fun _ => ?_
  refine Avoids.bind (Avoids.ofExcept_id (r.unhalting_attempt .catalog database s)) fun _ => ?_
  refine Avoids.bind (Avoids.ofExcept_id (r.unhalting_attempt .installed database s')) fun _ => ?_
  exact Avoids.bind (Avoids.report _ _) fun _ => Avoids.pure _

theorem avoids_apply (e : Edit) (database : Text) (names : List Text) :
    Avoids (r.apply e database names) (.halt h) := by
  unfold apply
  refine Avoids.bind (Avoids.report _ _) fun _ => Avoids.bind (r.avoids_exchange _) fun reply => ?_
  split
  · rename_i f hf
    exact Avoids.fail (within_ne_halt hf h)
  · exact Avoids.pure _

end Registry

/-! ## The user -/

/-- A prompter that halts nothing by itself. -/
structure Prompter.NeverHalts (p : Prompter (StateM σ)) : Prop where
  selectMany : ∀ question options h, Avoids (p.selectMany question options) (.halt h)
  selectOne : ∀ question options default h, Avoids (p.selectOne question options default) (.halt h)
  confirm : ∀ question default h, Avoids (p.confirm question default) (.halt h)

namespace Console

variable (c : Console (StateM σ))

theorem avoids_start (text : List CodePoint) : Avoids (c.start text) (.halt h) :=
  Avoids.bind (Avoids.act _) fun _ => Avoids.ofExcept fun _ _ => nofun

theorem avoids_line (text : List CodePoint) : Avoids (c.line text) (.halt h) :=
  Avoids.bind (Avoids.act _) fun _ => Avoids.ofExcept fun _ _ => nofun

theorem avoids_lines (texts : List (List CodePoint)) : Avoids (c.lines texts) (.halt h) := by
  induction texts with
  | nil => exact Avoids.pure ()
  | cons text texts ih => exact Avoids.bind (c.avoids_line text) fun _ => ih

theorem avoids_answer {β : Type} (q : Question β) : Avoids (c.answer q) (.halt h) :=
  Avoids.bind (Avoids.act _) fun _ => Avoids.ofExcept fun _ _ => nofun

theorem neverHalts_prompter : c.prompter.NeverHalts where
  selectMany _ _ _ := Avoids.bind (c.avoids_lines _) fun _ => c.avoids_answer _
  selectOne _ _ _ _ :=
    Avoids.bind (c.avoids_lines _) fun _ =>
      Avoids.bind (Avoids.ofExcept fun _ _ => nofun) fun _ => c.avoids_answer _
  confirm _ _ _ := c.avoids_answer _

end Console

/-! ## Changes -/

namespace Keeper

variable {k : Keeper (StateM σ)} (hprompter : ∀ p ∈ k.prompter, p.NeverHalts)

include hprompter

theorem avoids_resolve (hnone : h ≠ .noDatabases) (database : Option Text) :
    Avoids (k.resolve database) (.halt h) := by
  unfold resolve
  cases database with
  | some database =>
      dsimp only
      split
      · exact Avoids.fail nofun
      · refine Avoids.bind k.registry.avoids_databases fun known => Avoids.ofExcept fun f hf => ?_
        unfold resolveNamed at hf
        split at hf <;> cases hf
        nofun
  | none =>
      refine Avoids.bind k.registry.avoids_databases fun known => ?_
      split
      · exact Avoids.fail fun hhalt => hnone (Failure.halt.inj hhalt).symm
      · split
        · exact Avoids.fail nofun
        · rename_i p hp
          refine Avoids.bind ((hprompter p hp).selectOne _ _ _ _) fun position => ?_
          split
          · exact Avoids.pure _
          · exact Avoids.fail nofun

theorem avoids_execute (e : Registry.Edit) (hdeclined : h ≠ declined e) (database : Text)
    (names : List Text) : Avoids (k.execute e database names) (.halt h) := by
  unfold execute
  refine Avoids.bind ?_ fun _ => ?_
  · unfold confirm
    split
    · exact Avoids.pure _
    · split
      · exact Avoids.fail nofun
      · rename_i p hp
        refine Avoids.bind ((hprompter p hp).confirm _ _ _) fun answer => ?_
        split
        · exact Avoids.pure _
        · exact Avoids.fail fun hhalt => hdeclined (Failure.halt.inj hhalt).symm
  · exact Avoids.bind (k.registry.avoids_apply _ _ _) fun _ => Avoids.report _ _

end Keeper

namespace CommandLine

/-- The halts that a change can end with. -/
def haltsOf (e : Registry.Edit) : List Halt :=
  [.noDatabases, .allInstalled, .noneInstalled, .nothingSelected, Keeper.declined e]

section Change

variable (s : Session (StateM σ))

theorem avoids_say (text : Text) : Avoids (s.say text) (.halt h) := s.console.avoids_line _

theorem avoids_sayUnder (label text : Text) : Avoids (s.sayUnder label text) (.halt h) :=
  Avoids.bind (s.console.avoids_start _) fun _ => avoids_say s text

theorem avoids_loadSettings (named : Option Text) : Avoids (s.loadSettings named) (.halt h) := by
  unfold Session.loadSettings
  refine Avoids.bind (Avoids.act _) fun finding => ?_
  refine Avoids.bind (Avoids.report _ _) fun _ => Avoids.ofExcept_id ?_
  exact Settings.unhalting_load _ finding s.environment

theorem avoids_settle {k : Keeper (StateM σ)} (hprompter : ∀ p ∈ k.prompter, p.NeverHalts)
    {e : Registry.Edit} (hh : h ∉ haltsOf e) (request : Value) (catalog installed : Roster) :
    Avoids (s.settle k e request catalog installed) (.halt h) := by
  simp only [haltsOf, List.mem_cons, not_or] at hh
  obtain ⟨-, hall, hnone, hselected, -⟩ := hh
  have huser : ∀ p ∈ k.prompter, ∀ question options,
      Avoids (p.selectMany question options) (.halt h) :=
    fun p hp question options => (hprompter p hp).selectMany question options h
  unfold Session.settle
  cases e with
  | install =>
      refine Avoids.bind (Avoids.planRequested huser (Ne.symm hselected)
        (fun _ => Ne.symm hall) _ _) fun plan => Avoids.bind ?_ fun _ => Avoids.pure _
      unfold Session.showPlan
      refine Avoids.bind (avoids_say s _) fun _ => ?_
      split
      · exact avoids_sayUnder s _ _
      · exact Avoids.pure _
  | remove =>
      refine Avoids.bind (Avoids.resolveRequested huser (Ne.symm hselected)
        (fun _ => Ne.symm hnone) _) fun names => ?_
      exact Avoids.bind (avoids_say s _) fun _ => Avoids.pure _

/-- **The halts of a change.** -/
theorem mem_haltsOf_of_errand {k : Keeper (StateM σ)} (hprompter : ∀ p ∈ k.prompter, p.NeverHalts)
    {e : Registry.Edit} {database : Option Text} {names : List Text} {start final : σ}
    (hrun : (s.errand k e database names).runIn start = (.error (.halt h), final)) :
    h ∈ haltsOf e := by
  by_contra hh
  have hdistinct := hh
  simp only [haltsOf, List.mem_cons, not_or] at hdistinct
  obtain ⟨hdatabases, -, -, -, hdeclined, -⟩ := hdistinct
  have havoids : Avoids (s.errand k e database names) (.halt h) := by
    rw [Session.errand_eq]
    refine Avoids.bind (Keeper.avoids_resolve hprompter hdatabases _) fun target => ?_
    refine Avoids.bind (k.registry.avoids_fetchSnapshot target) fun rosters => ?_
    refine Avoids.bind (avoids_settle s hprompter hh _ _ _) fun settled => ?_
    refine Avoids.bind (Keeper.avoids_execute hprompter e hdeclined _ _) fun _ => ?_
    exact avoids_sayUnder s _ _
  exact havoids start (congrArg Prod.fst hrun)

end Change

end CommandLine

end Tasks

end ModuleKeeper
