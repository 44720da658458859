import ModuleKeeper.CommandLine.Session
import ModuleKeeper.Proofs.KeeperTalks

/-!
# The course of a change

An order for a change lists the databases, asks for both rosters, settles on
names, shows them, and makes the change.  It can end at every step.  `Course`
says which talk with the service it had at each of its ends, and what led to
the next step.

## Main results

* `Session.errand_eq`: a change in its steps.
* `errand_course`: a change has one of its courses, whatever the service and
  the user answer.
* `Course.exists_accepted_of_ok`, `Course.eq_refusal`: what the outcome of a
  change says of its talk.
* `Course.halved_of_unwritable`: the name of a database that cannot be written
  ends a change after the catalog was asked for.
-/

namespace ModuleKeeper

open ModuleKeeper.Task ModuleKeeper.Text

variable {ρ υ : Type} {respond : ρ → Request → Reply × ρ}

/-! ## Consoles -/

/-- A console that is for the user alone. -/
structure Console.Private (c : Console (StateM (Scene ρ υ))) : Prop where
  put : ∀ cs, Quiet (Task.act (c.put cs))
  ask : ∀ {β : Type} (q : Question β), Quiet (Task.act (c.ask q))

namespace Console.Private

variable {c : Console (StateM (Scene ρ υ))}

theorem start (h : c.Private) (text : List CodePoint) : Quiet (c.start text) :=
  Quiet.bind (h.put _) fun _ => Quiet.ofExcept _ _

theorem line (h : c.Private) (text : List CodePoint) : Quiet (c.line text) :=
  Quiet.bind (h.put _) fun _ => Quiet.ofExcept _ _

theorem answer {β : Type} (h : c.Private) (q : Question β) : Quiet (c.answer q) :=
  Quiet.bind (h.ask _) fun _ => Quiet.ofExcept _ _

theorem prompter (h : c.Private) : c.prompter.Private where
  selectMany _ _ := Quiet.bind (Quiet.forM h.line) fun _ => h.answer _
  selectOne _ _ _ :=
    Quiet.bind (Quiet.forM h.line) fun _ => Quiet.bind (Quiet.ofExcept _ _) fun _ => h.answer _
  confirm _ _ := h.answer _

end Console.Private

namespace CommandLine

/-! ## The steps of a change -/

namespace Session

variable {m : Type → Type} [Monad m]

/-- Shows the plan of an install. -/
def showPlan (s : Session m) (plan : Install.Plan Text) : Task m Unit := do
  s.say ("待安装模块: " ++ joined plan.requested)
  if !plan.implied.isEmpty then
    s.sayDone ("安装还需要以下依赖模块: " ++ joined plan.implied)

/-- Settles on the names of a change and shows them. -/
def settle (s : Session m) (k : Keeper m) (e : Registry.Edit) (request : Value)
    (catalog installed : Roster) : Task m (List Text) :=
  match e with
  | .install => do
    let plan ← Install.planRequested k.registry.reporter k.prompter k.transitive.truthy catalog
      installed request
    s.showPlan plan
    pure plan.modules
  | .remove => do
    let names ← Removal.resolveRequested k.registry.reporter k.prompter catalog installed request
    s.say ("待卸载模块: " ++ joined names)
    pure names

/-- What is shown after a change. -/
def doneText : Registry.Edit → Text
  | .install => "安装完成"
  | .remove => "卸载完成"

/-- The task of an order for a change. -/
def errand (s : Session m) (k : Keeper m) (e : Registry.Edit) (database : Option Text)
    (names : List Text) : Task m Unit :=
  match e with
  | .install => s.install k database names
  | .remove => s.remove k database names

/-- A change in its steps. -/
theorem errand_eq [LawfulMonad m] (s : Session m) (k : Keeper m) (e : Registry.Edit)
    (database : Option Text) (names : List Text) :
    s.errand k e database names = (do
      let database ← k.resolve database
      let rosters ← k.registry.fetchSnapshot database
      let names ← s.settle k e (requestOf names) rosters.1 rosters.2
      k.execute e database names
      s.sayDone (doneText e)) := by
  cases e with
  | install =>
      simp only [errand, install, settle, Keeper.prepareInstall, Keeper.executeInstall, showPlan,
        doneText, bind_assoc, pure_bind]
      refine bind_congr fun database => bind_congr fun rosters => bind_congr fun plan =>
        bind_congr fun _ => ?_
      cases !plan.implied.isEmpty
      · simp only [Bool.false_eq_true, if_false, pure_bind]
      · rfl
  | remove =>
      simp only [errand, remove, settle, Keeper.prepareRemoval, Keeper.executeRemoval, doneText,
        bind_assoc, pure_bind]

end Session

section Steps

variable {s : Session (StateM (Scene ρ υ))} (hconsole : s.console.Private)

include hconsole

theorem quiet_say (text : Text) : Quiet (s.say text) := hconsole.line _

theorem quiet_sayUnder (label text : Text) : Quiet (s.sayUnder label text) :=
  Quiet.bind (hconsole.start _) fun _ => quiet_say hconsole text

theorem quiet_settle {k : Keeper (StateM (Scene ρ υ))} (hr : k.registry.Reaches respond)
    (hprivate : ∀ p ∈ k.prompter, p.Private) (e : Registry.Edit) (request : Value)
    (catalog installed : Roster) : Quiet (s.settle k e request catalog installed) := by
  unfold Session.settle
  rw [hr.reporter]
  cases e with
  | install =>
      refine Quiet.bind (quiet_planRequested hprivate _ _ _ _) fun plan => ?_
      refine Quiet.bind ?_ fun _ => Quiet.pure _
      unfold Session.showPlan
      refine Quiet.bind (quiet_say hconsole _) fun _ => ?_
      split
      · exact quiet_sayUnder hconsole _ _
      · exact Quiet.pure ()
  | remove =>
      refine Quiet.bind (quiet_resolveRequested hprivate _ _ _) fun names => ?_
      exact Quiet.bind (quiet_say hconsole _) fun _ => Quiet.pure _

end Steps

/--
On two rosters a request comes to the names of a change, and they are shown:
the modules of a plan, or the names of a removal that was checked.
-/
inductive Settles (s : Session (StateM (Scene ρ υ))) (k : Keeper (StateM (Scene ρ υ)))
    (request : Value) (catalog installed : Roster) (taken : Scene ρ υ) :
    Registry.Edit → List Text → Scene ρ υ → Prop where
  | install (plan : Install.Plan Text) (planned shown : Scene ρ υ)
      (hplan : (Install.planRequested k.registry.reporter k.prompter k.transitive.truthy catalog
        installed request).runIn taken = (.ok plan, planned))
      (hshow : (s.showPlan plan).runIn planned = (.ok (), shown)) :
      Settles s k request catalog installed taken .install plan.modules shown
  | remove (names : List Text) (checked shown : Scene ρ υ)
      (hcheck : (Removal.resolveRequested k.registry.reporter k.prompter catalog installed
        request).runIn taken = (.ok names, checked))
      (hshow : (s.say ("待卸载模块: " ++ Session.joined names)).runIn checked = (.ok (), shown)) :
      Settles s k request catalog installed taken .remove names shown

theorem settles_of_settle {s : Session (StateM (Scene ρ υ))} {k : Keeper (StateM (Scene ρ υ))}
    {e : Registry.Edit} {request : Value} {catalog installed : Roster} {taken shown : Scene ρ υ}
    {names : List Text}
    (hrun : (s.settle k e request catalog installed).runIn taken = (.ok names, shown)) :
    Settles s k request catalog installed taken e names shown := by
  unfold Session.settle at hrun
  cases e with
  | install =>
      obtain ⟨plan, planned, hplan, hrun⟩ := runIn_bind_eq_ok.1 hrun
      obtain ⟨_, _, hshow, hend⟩ := runIn_bind_eq_ok.1 hrun
      cases hend
      exact .install plan planned _ hplan hshow
  | remove =>
      obtain ⟨names, checked, hcheck, hrun⟩ := runIn_bind_eq_ok.1 hrun
      obtain ⟨_, _, hshow, hend⟩ := runIn_bind_eq_ok.1 hrun
      cases hend
      exact .remove _ checked _ hcheck hshow

/-! ## Courses -/

/--
The talks that a change can have with the service, and its outcomes.  `start`
is the scene before it; `database` is the database that is named, if one is.
-/
inductive Course (s : Session (StateM (Scene ρ υ))) (k : Keeper (StateM (Scene ρ υ)))
    (e : Registry.Edit) (database : Option Text) (request : Value) (start : Scene ρ υ) :
    List (Request × Reply) → Except Failure Unit → Prop where
  /-- No database is found, and they were not even asked for. -/
  | silent (f : Failure) (found : Scene ρ υ)
      (hfound : (k.resolve database).runIn start = (.error f, found)) :
      Course s k e database request start [] (.error f)
  /-- No database is found among those that are listed. -/
  | listed (q : Request) (reply : Reply) (f : Failure) (found : Scene ρ υ)
      (hq : k.registry.gateway.request Registry.databasesCall.1 Registry.databasesCall.2 = .ok q)
      (hfound : (k.resolve database).runIn start = (.error f, found)) :
      Course s k e database request start [(q, reply)] (.error f)
  /-- The name of the database cannot be written, so that only the catalog is asked for. -/
  | halved (q q₁ : Request) (reply reply₁ : Reply) (target : Text) (found : Scene ρ υ)
      (f : Failure) (hlisted : Listed k.registry.gateway q reply target)
      (hfound : (k.resolve database).runIn start = (.ok target, found))
      (hq₁ : k.registry.gateway.request (Registry.rosterCall .catalog target).1
        (Registry.rosterCall .catalog target).2 = .ok q₁)
      (hunwritable : isWritable target.toList = false)
      (hfails : FailsFirst (Registry.readRoster .catalog reply₁).2 (.error (.mishap .unwritable))
        f) :
      Course s k e database request start [(q, reply), (q₁, reply₁)] (.error f)
  /-- Both rosters are asked for, and nothing is changed. -/
  | read (q q₁ q₂ : Request) (reply reply₁ reply₂ : Reply) (target : Text) (found : Scene ρ υ)
      (f : Failure) (hlisted : Listed k.registry.gateway q reply target)
      (hfound : (k.resolve database).runIn start = (.ok target, found))
      (hq₁ : k.registry.gateway.request (Registry.rosterCall .catalog target).1
        (Registry.rosterCall .catalog target).2 = .ok q₁)
      (hq₂ : k.registry.gateway.request (Registry.rosterCall .installed target).1
        (Registry.rosterCall .installed target).2 = .ok q₂)
      (hfirst : ∀ f₁, FailsFirst (Registry.readRoster .catalog reply₁).2
        (Registry.readRoster .installed reply₂).2 f₁ → f = f₁) :
      Course s k e database request start [(q, reply), (q₁, reply₁), (q₂, reply₂)] (.error f)
  /-- The change is sent. -/
  | written (q q₁ q₂ q₃ : Request) (reply reply₁ reply₂ reply₃ : Reply) (target : Text)
      (catalog installed : Roster) (names : List Text) (found taken shown agreed : Scene ρ υ)
      (o : Except Failure Unit) (hlisted : Listed k.registry.gateway q reply target)
      (hfound : (k.resolve database).runIn start = (.ok target, found))
      (hq₁ : k.registry.gateway.request (Registry.rosterCall .catalog target).1
        (Registry.rosterCall .catalog target).2 = .ok q₁)
      (hq₂ : k.registry.gateway.request (Registry.rosterCall .installed target).1
        (Registry.rosterCall .installed target).2 = .ok q₂)
      (hcatalog : (Registry.readRoster .catalog reply₁).2 = .ok catalog)
      (hinstalled : (Registry.readRoster .installed reply₂).2 = .ok installed)
      (htaken : (k.registry.fetchSnapshot target).runIn found = (.ok (catalog, installed), taken))
      (hsettled : Settles s k request catalog installed taken e names shown)
      (hagreed : Agrees k e shown agreed)
      (hq₃ : k.registry.gateway.request e.path (Registry.Edit.body target names) = .ok q₃)
      (hrefused : ∀ f, Gateway.interpret reply₃ = .error f →
        o = .error (Registry.within e.fault f)) :
      Course s k e database request start
        [(q, reply), (q₁, reply₁), (q₂, reply₂), (q₃, reply₃)] o

section Change

variable {s : Session (StateM (Scene ρ υ))} {k : Keeper (StateM (Scene ρ υ))}
  (hr : k.registry.Reaches respond) (hconsole : s.console.Private)
  (hprivate : ∀ p ∈ k.prompter, p.Private)

include hr hconsole hprivate

/-- What comes after both rosters: nothing is sent, or one change. -/
theorem change_course {e : Registry.Edit} {request : Value} {target : Text}
    {catalog installed : Roster} {taken final : Scene ρ υ} {o : Except Failure Unit}
    (hrun : (do
      let names ← s.settle k e request catalog installed
      k.execute e target names
      s.sayDone (Session.doneText e)).runIn taken = (o, final)) :
    (∃ f, o = .error f ∧ Still taken final) ∨
      ∃ names shown agreed q reply, Settles s k request catalog installed taken e names shown ∧
        Agrees k e shown agreed ∧
        k.registry.gateway.request e.path (Registry.Edit.body target names) = .ok q ∧
        Speaks respond taken [(q, reply)] final ∧
        (∀ f, Gateway.interpret reply = .error f → o = .error (Registry.within e.fault f)) ∧
        ∀ answer, Gateway.interpret reply = .ok answer →
          ∃ executed, (s.sayDone (Session.doneText e)).runIn executed = (o, final) := by
  have hquiet := quiet_settle hconsole hr hprivate e request catalog installed
  rcases runIn_bind_cases hrun with ⟨f, hsettle, rfl⟩ | ⟨names, shown, hsettle, hrun⟩
  · exact Or.inl ⟨f, rfl, hquiet.still hsettle⟩
  have hshown := hquiet.still hsettle
  obtain ⟨x, executed, hexecute, hend, hfailed, hdone⟩ :=
    Quiet.behind (fun _ => quiet_sayUnder hconsole _ _) hrun
  rcases execute_course hr hprivate hexecute with
    ⟨f, hx, hstill⟩ | ⟨agreed, q, reply, hagreed, hq, hspeaks, hrefused, haccepted⟩
  · exact Or.inl ⟨f, hfailed f hx, (hshown.trans hstill).trans hend⟩
  · refine Or.inr ⟨names, shown, agreed, q, reply, settles_of_settle hsettle, hagreed, hq, ?_, ?_,
      ?_⟩
    · exact (hshown.speaks.trans hspeaks).still hend
    · exact fun f hf => hfailed _ (hrefused f hf)
    · exact fun answer ha => ⟨executed, hdone () (haccepted answer ha)⟩

/--
**A change has one of its courses.**  Once it was accepted, nothing is left but
to show that it was.
-/
theorem errand_course {e : Registry.Edit} {database : Option Text} {names : List Text}
    {start final : Scene ρ υ} {o : Except Failure Unit}
    (hrun : (s.errand k e database names).runIn start = (o, final)) :
    ∃ talk, Speaks respond start talk final ∧
      Course s k e database (Session.requestOf names) start talk o ∧
      ∀ x ∈ talk, k.registry.gateway.AsksFor e x.1 →
        ∀ answer, Gateway.interpret x.2 = .ok answer →
          ∃ executed, (s.sayDone (Session.doneText e)).runIn executed = (o, final) := by
  rw [Session.errand_eq, runIn_bind] at hrun
  rcases hfound : (k.resolve database).runIn start with ⟨x, found⟩
  obtain ⟨talk, hresolved⟩ := resolved_resolve hr hprivate database hfound
  rw [hfound] at hrun
  cases hresolved with
  | silent f _ hstill =>
      cases hrun
      exact ⟨[], hstill.speaks, .silent f _ hfound, nofun⟩
  | listed q reply f _ hq hspeaks =>
      cases hrun
      refine ⟨_, hspeaks, .listed q reply f _ hq hfound, ?_⟩
      simp [Gateway.not_asksFor_databases hq]
  | chosen q reply target _ hlisted hspeaks =>
      dsimp only at hrun
      rw [runIn_bind] at hrun
      have hunasked := Gateway.not_asksFor_databases hlisted.request e
      rcases htaken : (k.registry.fetchSnapshot target).runIn found with ⟨y, taken⟩
      rw [htaken] at hrun
      obtain ⟨talk, hfetched⟩ := fetched_fetchSnapshot hr hlisted htaken
      cases hfetched with
      | halved q₁ reply₁ f _ hq₁ hunwritable hfails hspeaks₁ =>
          cases hrun
          refine ⟨_, hspeaks.trans hspeaks₁, ?_, ?_⟩
          · exact .halved q q₁ reply reply₁ target found f hlisted hfound hq₁ hunwritable hfails
          · simp [hunasked, Gateway.not_asksFor_roster hq₁]
      | both q₁ q₂ reply₁ reply₂ _ _ hq₁ hq₂ hy hspeaks₁ =>
          have hread := hspeaks.trans hspeaks₁
          have hunasked₁ := Gateway.not_asksFor_roster hq₁ e
          have hunasked₂ := Gateway.not_asksFor_roster hq₂ e
          cases y with
          | error f =>
              cases hrun
              refine ⟨_, hread, .read q q₁ q₂ reply reply₁ reply₂ target found f hlisted hfound hq₁
                hq₂ ?_, ?_⟩
              · exact fun f₁ hfails => (failsFirst_of_eq_error hy.symm).unique hfails
              · simp [hunasked, hunasked₁, hunasked₂]
          | ok rosters =>
              obtain ⟨hcatalog, hinstalled⟩ := eq_ok_of_eq_ok hy.symm
              rcases change_course hr hconsole hprivate hrun with
                ⟨f, rfl, hstill⟩ | ⟨names, shown, agreed, q₃, reply₃, hsettled, hagreed, hq₃,
                  hspeaks₃, hrefused, haccepted⟩
              · refine ⟨_, hread.still hstill,
                  .read q q₁ q₂ reply reply₁ reply₂ target found f hlisted hfound hq₁ hq₂ ?_, ?_⟩
                · rintro f₁ (hfails | ⟨_, -, hfails⟩)
                  · exact nomatch hcatalog.symm.trans hfails
                  · exact nomatch hinstalled.symm.trans hfails
                · simp [hunasked, hunasked₁, hunasked₂]
              · refine ⟨_, hread.trans hspeaks₃, ?_, ?_⟩
                · exact .written q q₁ q₂ q₃ reply reply₁ reply₂ reply₃ target rosters.1 rosters.2
                    names found taken shown agreed o hlisted hfound hq₁ hq₂ hcatalog hinstalled
                    htaken hsettled hagreed hq₃ hrefused
                · simpa [hunasked, hunasked₁, hunasked₂] using fun _ => haccepted

end Change

section Outcomes

variable {s : Session (StateM (Scene ρ υ))} {k : Keeper (StateM (Scene ρ υ))} {e : Registry.Edit}
  {database : Option Text} {request : Value} {start : Scene ρ υ} {talk : List (Request × Reply)}
  {o : Except Failure Unit}

/-- Only a change that was sent and accepted succeeds. -/
theorem Course.exists_accepted_of_ok (h : Course s k e database request start talk (.ok ())) :
    ∃ x ∈ talk, k.registry.gateway.AsksFor e x.1 ∧
      ∃ answer, Gateway.interpret x.2 = .ok answer := by
  cases h with
  | written q q₁ q₂ q₃ reply reply₁ reply₂ reply₃ target catalog installed names found taken
      shown agreed _ hlisted hfound hq₁ hq₂ hcatalog hinstalled htaken hsettled hagreed hq₃
      hrefused =>
      refine ⟨(q₃, reply₃), by simp, ⟨target, names, hq₃⟩, ?_⟩
      cases hreply : Gateway.interpret reply₃ with
      | error f => cases hrefused f hreply
      | ok answer => exact ⟨answer, rfl⟩

/-- A change that was sent and refused fails with the refusal. -/
theorem Course.eq_refusal (h : Course s k e database request start talk o) {x : Request × Reply}
    (hx : x ∈ talk) (hasks : k.registry.gateway.AsksFor e x.1) {f : Failure}
    (hf : Gateway.interpret x.2 = .error f) : o = .error (Registry.within e.fault f) := by
  have hread : ∀ {reads : List (Request × Reply)},
      (∀ y ∈ reads, ¬ k.registry.gateway.AsksFor e y.1) → x ∉ reads :=
    fun hunasked hmem => hunasked x hmem hasks
  cases h with
  | silent f _ hfound => cases hx
  | listed q reply f _ hq hfound =>
      exact absurd hx (hread (by simp [Gateway.not_asksFor_databases hq]))
  | halved q q₁ reply reply₁ target _ f hlisted hfound hq₁ _ hfails =>
      refine absurd hx (hread ?_)
      simp [Gateway.not_asksFor_databases hlisted.request, Gateway.not_asksFor_roster hq₁]
  | read q q₁ q₂ reply reply₁ reply₂ target _ f hlisted hfound hq₁ hq₂ _ =>
      refine absurd hx (hread ?_)
      simp [Gateway.not_asksFor_databases hlisted.request, Gateway.not_asksFor_roster hq₁,
        Gateway.not_asksFor_roster hq₂]
  | written q q₁ q₂ q₃ reply reply₁ reply₂ reply₃ target catalog installed names found taken
      shown agreed _ hlisted hfound hq₁ hq₂ hcatalog hinstalled htaken hsettled hagreed hq₃
      hrefused =>
      have hunasked : x ∉ [(q, reply), (q₁, reply₁), (q₂, reply₂)] := by
        refine hread ?_
        simp [Gateway.not_asksFor_databases hlisted.request, Gateway.not_asksFor_roster hq₁,
          Gateway.not_asksFor_roster hq₂]
      have hlast : x = (q₃, reply₃) := by
        simp only [List.mem_cons, List.not_mem_nil, or_false] at hx hunasked
        tauto
      exact hrefused f (by rw [← hf, hlast])

end Outcomes

/-- The name of a database that cannot be written ends a change once the catalog was asked for. -/
theorem Course.halved_of_unwritable {s : Session (StateM (Scene ρ υ))}
    {k : Keeper (StateM (Scene ρ υ))} {e : Registry.Edit} {database : Option Text}
    {request : Value} {start found : Scene ρ υ} {target : Text}
    {talk : List (Request × Reply)} {o : Except Failure Unit}
    (hcourse : Course s k e database request start talk o)
    (hfound : (k.resolve database).runIn start = (.ok target, found))
    (hunwritable : isWritable target.toList = false) :
    ∃ q reply q₁ reply₁ f, talk = [(q, reply), (q₁, reply₁)] ∧ o = .error f ∧
      Listed k.registry.gateway q reply target ∧
      k.registry.gateway.request (Registry.rosterCall .catalog target).1
        (Registry.rosterCall .catalog target).2 = .ok q₁ ∧
      FailsFirst (Registry.readRoster .catalog reply₁).2 (.error (.mishap .unwritable)) f := by
  -- Both of the other courses ask for the modules of the database.
  have hunsent : ∀ {q reply q₂}, Listed k.registry.gateway q reply target →
      k.registry.gateway.request (Registry.rosterCall .installed target).1
        (Registry.rosterCall .installed target).2 ≠ .ok q₂ := by
    intro q reply q₂ hlisted hq₂
    rw [Gateway.request_of_request hlisted.request, isWritable_installedBody, hunwritable] at hq₂
    cases hq₂
  cases hcourse with
  | silent f _ hfound' => cases hfound.symm.trans hfound'
  | listed q reply f _ hq hfound' => cases hfound.symm.trans hfound'
  | halved q q₁ reply reply₁ target' _ f hlisted hfound' hq₁ _ hfails =>
      cases hfound.symm.trans hfound'
      exact ⟨q, reply, q₁, reply₁, f, rfl, rfl, hlisted, hq₁, hfails⟩
  | read q q₁ q₂ reply reply₁ reply₂ target' _ f hlisted hfound' hq₁ hq₂ _ =>
      cases hfound.symm.trans hfound'
      exact absurd hq₂ (hunsent hlisted)
  | written q q₁ q₂ q₃ reply reply₁ reply₂ reply₃ target' catalog installed names _ taken shown
      agreed o hlisted hfound' hq₁ hq₂ _ _ _ _ _ _ _ =>
      cases hfound.symm.trans hfound'
      exact absurd hq₂ (hunsent hlisted)

end CommandLine

end ModuleKeeper
