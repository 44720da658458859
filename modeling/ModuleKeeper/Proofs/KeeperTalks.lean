import ModuleKeeper.Proofs.Exchanges

/-!
# Talks of a keeper

A keeper finds a database in the list of them, fetches two rosters, and makes
a change once it was agreed to.  Each of these steps has few talks.  Whichever
it has, the scene and the replies say how the step came out.

The two calls for rosters are made together, whatever comes of the first.
Only one thing keeps the second from being sent: a name of a database that
cannot be written as bytes.

## Main results

* `resolved_resolve`: a database that is found was listed.
* `fetched_fetchSnapshot`: both rosters are asked for, and the failure of the
  catalog comes first.
* `execute_course`: a change is sent once, after it was agreed to, or not at
  all.
-/

namespace ModuleKeeper

open ModuleKeeper.Task ModuleKeeper.Text

variable {ρ υ : Type} {respond : ρ → Request → Reply × ρ}

/-! ## Finding the database -/

/-- The databases were listed, and `database` is one of them. -/
structure Listed (g : Gateway) (q : Request) (reply : Reply) (database : Text) : Prop where
  request : g.request Registry.databasesCall.1 Registry.databasesCall.2 = .ok q
  known : ∃ known, Registry.readDatabases reply = .ok known ∧ database ∈ known

/-- How a database is found: it is not even looked for, or it is looked for in one list. -/
inductive Resolved (respond : ρ → Request → Reply × ρ) (g : Gateway) (s : Scene ρ υ) :
    List (Request × Reply) → Except Failure Text → Scene ρ υ → Prop where
  | silent (f : Failure) (s' : Scene ρ υ) (hstill : Still s s') :
      Resolved respond g s [] (.error f) s'
  | listed (q : Request) (reply : Reply) (f : Failure) (s' : Scene ρ υ)
      (hq : g.request Registry.databasesCall.1 Registry.databasesCall.2 = .ok q)
      (hspeaks : Speaks respond s [(q, reply)] s') :
      Resolved respond g s [(q, reply)] (.error f) s'
  | chosen (q : Request) (reply : Reply) (database : Text) (s' : Scene ρ υ)
      (hlisted : Listed g q reply database) (hspeaks : Speaks respond s [(q, reply)] s') :
      Resolved respond g s [(q, reply)] (.ok database) s'

section Resolving

variable {k : Keeper (StateM (Scene ρ υ))} {s s' : Scene ρ υ} {o : Except Failure Text}

/-- A quiet choice among the databases that were listed. -/
theorem resolved_of_choice (hr : k.registry.Reaches respond)
    {choose : List Text → Task (StateM (Scene ρ υ)) Text} (hquiet : ∀ known, Quiet (choose known))
    (hmem : ∀ known s s' database, (choose known).runIn s = (.ok database, s') → database ∈ known)
    (hrun : (k.registry.databases >>= choose).runIn s = (o, s')) :
    ∃ talk, Resolved respond k.registry.gateway s talk o s' := by
  rcases runIn_bind_cases hrun with ⟨f, hlist, rfl⟩ | ⟨known, s₁, hlist, hchoose⟩
  · obtain ⟨x, hx, -⟩ := exchanged_databases hr hlist
    cases hx with
    | unsent cause _ _ hstill => exact ⟨_, .silent f s' hstill⟩
    | sent q reply _ hq hspeaks => exact ⟨_, .listed q reply f s' hq hspeaks⟩
  · obtain ⟨x, hx, hread⟩ := exchanged_databases hr hlist
    cases hx with
    | unsent cause _ _ _ => cases hread
    | sent q reply _ hq hspeaks =>
        have htalk := hspeaks.still ((hquiet known).still hchoose)
        cases o with
        | error f => exact ⟨_, .listed q reply f s' hq htalk⟩
        | ok database =>
            have hlisted : Listed k.registry.gateway q reply database :=
              ⟨hq, known, hread.symm, hmem known _ _ database hchoose⟩
            exact ⟨_, .chosen q reply database s' hlisted htalk⟩

theorem resolved_resolve (hr : k.registry.Reaches respond)
    (hprivate : ∀ p ∈ k.prompter, p.Private) (database : Option Text)
    (hrun : (k.resolve database).runIn s = (o, s')) :
    ∃ talk, Resolved respond k.registry.gateway s talk o s' := by
  unfold Keeper.resolve at hrun
  cases database with
  | some database =>
      dsimp only at hrun
      split at hrun
      · cases hrun
        exact ⟨_, .silent _ _ (Still.refl s)⟩
      · refine resolved_of_choice hr (fun known => Quiet.ofExcept _ _) ?_ hrun
        intro known s₁ s₂ found hfound
        have hfound' : (Keeper.resolveNamed known database).mapError id = .ok found :=
          congrArg Prod.fst hfound
        cases hnamed : Keeper.resolveNamed known database with
        | error f =>
            rw [hnamed] at hfound'
            cases hfound'
        | ok named =>
            rw [hnamed] at hfound'
            obtain ⟨hmem, rfl⟩ := Keeper.resolveNamed_eq_ok.1 hnamed
            obtain rfl : named = found := Except.ok.inj hfound'
            exact hmem
  | none =>
      dsimp only at hrun
      refine resolved_of_choice hr (fun known => ?_) ?_ hrun
      · split
        · exact Quiet.fail _
        · split
          · exact Quiet.fail _
          · rename_i p hp
            refine Quiet.bind ((hprivate p hp).selectOne _ _ _) fun position => ?_
            split
            · exact Quiet.pure _
            · exact Quiet.fail _
      · intro known s₁ s₂ found hfound
        split at hfound
        · cases hfound
        · split at hfound
          · cases hfound
          · obtain ⟨position, s₃, -, hpicked⟩ := runIn_bind_eq_ok.1 hfound
            split at hpicked
            · rename_i picked hpick
              cases hpicked
              exact Keeper.pick_eq_some hpick
            · cases hpicked

end Resolving

/-! ## Fetching both rosters -/

/-- The failure of two rosters: that of the first, or else that of the second. -/
def FailsFirst (catalog installed : Except Failure Roster) (f : Failure) : Prop :=
  catalog = .error f ∨ ∃ r, catalog = .ok r ∧ installed = .error f

theorem FailsFirst.unique {catalog installed : Except Failure Roster} {f f' : Failure}
    (h : FailsFirst catalog installed f) (h' : FailsFirst catalog installed f') : f = f' := by
  rcases h with h | ⟨r, h, h₂⟩
  · rcases h' with h' | ⟨r, h', -⟩
    · exact Except.error.inj (h.symm.trans h')
    · exact nomatch h.symm.trans h'
  · rcases h' with h' | ⟨r', -, h₂'⟩
    · exact nomatch h.symm.trans h'
    · exact Except.error.inj (h₂.symm.trans h₂')

theorem failsFirst_of_eq_error {catalog installed : Except Failure Roster} {f : Failure}
    (h : (catalog.bind fun r => installed.map (r, ·)) = .error f) :
    FailsFirst catalog installed f := by
  cases catalog with
  | error f₁ => exact Or.inl (by cases h; rfl)
  | ok r =>
      cases installed with
      | error f₂ => exact Or.inr ⟨r, rfl, by cases h; rfl⟩
      | ok r' => cases h

theorem eq_ok_of_eq_ok {catalog installed : Except Failure Roster} {rosters : Roster × Roster}
    (h : (catalog.bind fun r => installed.map (r, ·)) = .ok rosters) :
    catalog = .ok rosters.1 ∧ installed = .ok rosters.2 := by
  cases catalog with
  | error f₁ => cases h
  | ok r =>
      cases installed with
      | error f₂ => cases h
      | ok r' =>
          cases h
          exact ⟨rfl, rfl⟩

/-- A call for the modules of a listed database fails to be sent only by the name of it. -/
theorem unwritable_of_unsent {g : Gateway} {q : Request} {reply : Reply} {target : Text}
    {cause : Mishap} (hlisted : Listed g q reply target)
    (hcause : g.request (Registry.rosterCall .installed target).1
      (Registry.rosterCall .installed target).2 = .error cause) :
    isWritable target.toList = false ∧ cause = .unwritable := by
  rw [Gateway.request_of_request hlisted.request, isWritable_installedBody] at hcause
  cases hwritable : isWritable target.toList with
  | true =>
      rw [hwritable] at hcause
      cases hcause
  | false =>
      rw [hwritable] at hcause
      cases hcause
      exact ⟨rfl, rfl⟩

/-- Both rosters are asked for, unless the name of the database cannot be written. -/
inductive Fetched (respond : ρ → Request → Reply × ρ) (g : Gateway) (target : Text)
    (s : Scene ρ υ) :
    List (Request × Reply) → Except Failure (Roster × Roster) → Scene ρ υ → Prop where
  | halved (q₁ : Request) (reply₁ : Reply) (f : Failure) (s' : Scene ρ υ)
      (hq₁ : g.request (Registry.rosterCall .catalog target).1
        (Registry.rosterCall .catalog target).2 = .ok q₁)
      (hunwritable : isWritable target.toList = false)
      (hfails : FailsFirst (Registry.readRoster .catalog reply₁).2 (.error (.mishap .unwritable)) f)
      (hspeaks : Speaks respond s [(q₁, reply₁)] s') :
      Fetched respond g target s [(q₁, reply₁)] (.error f) s'
  | both (q₁ q₂ : Request) (reply₁ reply₂ : Reply) (o : Except Failure (Roster × Roster))
      (s' : Scene ρ υ)
      (hq₁ : g.request (Registry.rosterCall .catalog target).1
        (Registry.rosterCall .catalog target).2 = .ok q₁)
      (hq₂ : g.request (Registry.rosterCall .installed target).1
        (Registry.rosterCall .installed target).2 = .ok q₂)
      (ho : o = (Registry.readRoster .catalog reply₁).2.bind fun catalog =>
        (Registry.readRoster .installed reply₂).2.map (catalog, ·))
      (hspeaks : Speaks respond s [(q₁, reply₁), (q₂, reply₂)] s') :
      Fetched respond g target s [(q₁, reply₁), (q₂, reply₂)] o s'

theorem fetched_fetchSnapshot {r : Registry (StateM (Scene ρ υ))} (hr : r.Reaches respond)
    {q : Request} {reply : Reply} {target : Text} (hlisted : Listed r.gateway q reply target)
    {s s' : Scene ρ υ} {o : Except Failure (Roster × Roster)}
    (hrun : (r.fetchSnapshot target).runIn s = (o, s')) :
    ∃ talk, Fetched respond r.gateway target s talk o s' := by
  obtain ⟨x₁, s₁, x₂, h₁, h₂, ho⟩ := exchanged_fetchSnapshot hr hrun
  cases h₁ with
  | unsent cause _ hcause _ =>
      -- The catalog can be asked for, because the databases could be.
      rw [Gateway.request_of_request hlisted.request] at hcause
      cases hcause
  | sent q₁ reply₁ _ hq₁ hspeaks₁ =>
      cases h₂ with
      | unsent cause _ hcause hstill =>
          obtain ⟨hunwritable, rfl⟩ := unwritable_of_unsent hlisted hcause
          cases o with
          | error f =>
              have hfails := failsFirst_of_eq_error ho.symm
              exact ⟨_, .halved q₁ reply₁ f s' hq₁ hunwritable hfails (hspeaks₁.still hstill)⟩
          | ok rosters => exact nomatch (eq_ok_of_eq_ok ho.symm).2
      | sent q₂ reply₂ _ hq₂ hspeaks₂ =>
          exact ⟨_, .both q₁ q₂ reply₁ reply₂ o s' hq₁ hq₂ ho (hspeaks₁.trans hspeaks₂)⟩

/-! ## Settling on names and agreeing to a change -/

/-- What a change was agreed to by: a setting that stands for all answers, or an answer. -/
inductive Agrees (k : Keeper (StateM (Scene ρ υ))) (e : Registry.Edit) (s : Scene ρ υ) :
    Scene ρ υ → Prop where
  | assumed (hyes : k.assumeYes.truthy = true) : Agrees k e s s
  | confirmed (p : Prompter (StateM (Scene ρ υ))) (answer : Value) (s' : Scene ρ υ)
      (hprompter : k.prompter = some p)
      (hasked : (p.confirm (.str (Keeper.question e)) (.bool true)).runIn s = (.ok answer, s'))
      (hyes : answer.truthy = true) : Agrees k e s s'

/-- A request asks for a change if it is one that a gateway makes for this change. -/
def Gateway.AsksFor (g : Gateway) (e : Registry.Edit) (q : Request) : Prop :=
  ∃ database names, g.request e.path (Registry.Edit.body database names) = .ok q

theorem Gateway.not_asksFor_databases {g : Gateway} {q : Request}
    (hq : g.request Registry.databasesCall.1 Registry.databasesCall.2 = .ok q)
    (e : Registry.Edit) : ¬ g.AsksFor e q := by
  rintro ⟨database, names, h⟩
  cases (Gateway.eq_of_request hq).2.symm.trans (Gateway.eq_of_request h).2

theorem Gateway.not_asksFor_roster {g : Gateway} {q : Request} {role : Role} {target : Text}
    (hq : g.request (Registry.rosterCall role target).1 (Registry.rosterCall role target).2 =
      .ok q) (e : Registry.Edit) : ¬ g.AsksFor e q := by
  rintro ⟨database, names, h⟩
  have hbody := (Gateway.eq_of_request hq).2.symm.trans (Gateway.eq_of_request h).2
  cases role with
  | catalog => cases hbody
  | installed =>
      have hfield : false = true := congrArg (fun v => (v.field? "list").isSome) hbody
      cases hfield

section Executing

variable {k : Keeper (StateM (Scene ρ υ))} {e : Registry.Edit} {s s' : Scene ρ υ}

theorem agrees_of_confirm {declined : Halt}
    (hrun : (k.confirm (.str (Keeper.question e)) declined).runIn s = (.ok (), s')) :
    Agrees k e s s' := by
  unfold Keeper.confirm at hrun
  split at hrun
  · rename_i hyes
    cases hrun
    exact .assumed hyes
  · split at hrun
    · cases hrun
    · rename_i p hp
      obtain ⟨answer, s₁, hasked, hanswer⟩ := runIn_bind_eq_ok.1 hrun
      split at hanswer
      · rename_i hyes
        cases hanswer
        exact .confirmed p answer _ hp hasked hyes
      · cases hanswer

theorem quiet_confirm (hprivate : ∀ p ∈ k.prompter, p.Private) (question : Value)
    (declined : Halt) : Quiet (k.confirm question declined) := by
  unfold Keeper.confirm
  split
  · exact Quiet.pure ()
  · split
    · exact Quiet.fail _
    · rename_i p hp
      refine Quiet.bind ((hprivate p hp).confirm _ _) fun answer => ?_
      split
      · exact Quiet.pure ()
      · exact Quiet.fail _

/-- A change is sent once, after it was agreed to, or not at all. -/
theorem execute_course (hr : k.registry.Reaches respond)
    (hprivate : ∀ p ∈ k.prompter, p.Private) {database : Text} {names : List Text}
    {o : Except Failure Unit} (hrun : (k.execute e database names).runIn s = (o, s')) :
    (∃ f, o = .error f ∧ Still s s') ∨
      ∃ agreed q reply, Agrees k e s agreed ∧
        k.registry.gateway.request e.path (Registry.Edit.body database names) = .ok q ∧
        Speaks respond s [(q, reply)] s' ∧
        (∀ f, Gateway.interpret reply = .error f → o = .error (Registry.within e.fault f)) ∧
        ∀ answer, Gateway.interpret reply = .ok answer → o = .ok () := by
  rcases runIn_bind_cases hrun with ⟨f, hconfirm, rfl⟩ | ⟨_, agreed, hconfirm, hrun⟩
  · exact Or.inl ⟨f, rfl, (quiet_confirm hprivate _ _).still hconfirm⟩
  have hstill := (quiet_confirm hprivate _ _).still hconfirm
  have hreport : Quiet (ρ := ρ) (υ := υ) (Task.report k.registry.reporter
      [Keeper.doneNotice e database names]) := by
    rw [hr.reporter]
    exact Quiet.report _
  obtain ⟨x, applied, happly, hend, hfailed, hdone⟩ := Quiet.behind (fun _ => hreport) hrun
  obtain ⟨y, hy, hx⟩ := exchanged_apply hr happly
  cases hy with
  | unsent cause _ hcause hunsent =>
      exact Or.inl ⟨_, hfailed _ hx, (hstill.trans hunsent).trans hend⟩
  | sent q reply _ hq hspeaks =>
      refine Or.inr ⟨agreed, q, reply, agrees_of_confirm hconfirm, hq,
        (hstill.speaks.trans hspeaks).still hend, fun f hf => hfailed _ ?_, fun answer ha => ?_⟩
      · rw [hx, Except.bind, hf]
        rfl
      · have hok : x = .ok () := by
          rw [hx, Except.bind, ha]
          rfl
        exact (congrArg Prod.fst (hdone () hok)).symm

end Executing

end ModuleKeeper
