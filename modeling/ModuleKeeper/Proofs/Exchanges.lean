import ModuleKeeper.Proofs.CallEndings
import ModuleKeeper.Proofs.Requests

/-!
# What tasks say to a service

A task goes from one scene to another by some requests with their replies, its
talk.  A task that computes, reports and asks the user is quiet: it has no
talk.  For the calls of a registry this file says which talk they have, and
what the replies say about their outcomes.

Nothing is assumed of the service, which may give any reply to any request.

## Main results

* `Speaks.trans`: talks that follow each other are one talk.
* `Quiet.bind`, `quiet_planRequested`, `quiet_resolveRequested`: tasks without
  a talk.
* `exchanged_exchange`, `exchanged_databases`, `exchanged_fetchSnapshot`,
  `exchanged_apply`: the talks of the calls.
-/

namespace ModuleKeeper

open ModuleKeeper.Task ModuleKeeper.Text

variable {ρ υ α β ε : Type} {respond : ρ → Request → Reply × ρ}

/-! ## Talks -/

/-- A service in the first state gives the replies of a talk and is in the second state then. -/
def Talks (respond : ρ → Request → Reply × ρ) : ρ → List (Request × Reply) → ρ → Prop
  | s, [], t => t = s
  | s, (q, reply) :: talk, t => (respond s q).1 = reply ∧ Talks respond (respond s q).2 talk t

theorem Talks.append {s t u : ρ} {talk talk' : List (Request × Reply)}
    (h : Talks respond s talk t) (h' : Talks respond t talk' u) :
    Talks respond s (talk ++ talk') u := by
  induction talk generalizing s with
  | nil =>
      obtain rfl : t = s := h
      exact h'
  | cons exchange talk ih => exact ⟨h.1, ih h.2⟩

/-- From one scene to the other, the talk is all that was said to the service. -/
structure Speaks (respond : ρ → Request → Reply × ρ) (s : Scene ρ υ)
    (talk : List (Request × Reply)) (s' : Scene ρ υ) : Prop where
  sent : s'.sent = s.sent ++ talk.map Prod.fst
  talks : Talks respond s.service talk s'.service

/-- From one scene to the other, nothing was said to the service. -/
structure Still (s s' : Scene ρ υ) : Prop where
  service : s'.service = s.service
  sent : s'.sent = s.sent

variable {s s' s'' : Scene ρ υ} {talk talk' : List (Request × Reply)}

theorem Still.refl (s : Scene ρ υ) : Still s s := ⟨rfl, rfl⟩

theorem Still.trans (h : Still s s') (h' : Still s' s'') : Still s s'' :=
  ⟨h'.service.trans h.service, h'.sent.trans h.sent⟩

theorem Still.speaks (h : Still s s') : Speaks respond s [] s' :=
  ⟨by simp [h.sent], h.service⟩

theorem Speaks.trans (h : Speaks respond s talk s') (h' : Speaks respond s' talk' s'') :
    Speaks respond s (talk ++ talk') s'' :=
  ⟨by simp [h'.sent, h.sent], h.talks.append h'.talks⟩

theorem Speaks.still (h : Speaks respond s talk s') (h' : Still s' s'') :
    Speaks respond s talk s'' := by
  simpa using h.trans h'.speaks

/-! ## Quiet tasks -/

/-- A task that says nothing to the service, whatever comes of it. -/
def Quiet (t : Task (StateM (Scene ρ υ)) α) : Prop := ∀ s, Still s (t.runIn s).2

namespace Quiet

theorem still {t : Task (StateM (Scene ρ υ)) α} (h : Quiet t) {o : Except Failure α}
    (hrun : t.runIn s = (o, s')) : Still s s' := by
  have hstill := h s
  rwa [hrun] at hstill

theorem pure (a : α) : Quiet (Pure.pure a : Task (StateM (Scene ρ υ)) α) := Still.refl

theorem fail (f : Failure) : Quiet (Task.fail f : Task (StateM (Scene ρ υ)) α) := Still.refl

theorem ofExcept (wrap : ε → Failure) (x : Except ε α) :
    Quiet (Task.ofExcept wrap x : Task (StateM (Scene ρ υ)) α) := Still.refl

theorem act {a : StateM (Scene ρ υ) α} (h : ∀ s, Still s (a.run s).2) : Quiet (Task.act a) := h

theorem bind {t : Task (StateM (Scene ρ υ)) α} {f : α → Task (StateM (Scene ρ υ)) β}
    (ht : Quiet t) (hf : ∀ a, Quiet (f a)) : Quiet (t >>= f) := by
  intro s
  rw [runIn_bind]
  rcases hrun : t.runIn s with ⟨e | a, s₁⟩
  · exact ht.still hrun
  · exact (ht.still hrun).trans (hf a s₁)

/--
A quiet end of a task leaves the talk to what comes before it, and its failure
too; without a failure the task comes out as its end does.
-/
theorem behind {t : Task (StateM (Scene ρ υ)) α} {f : α → Task (StateM (Scene ρ υ)) β}
    {o : Except Failure β} (hf : ∀ a, Quiet (f a)) (hrun : (t >>= f).runIn s = (o, s')) :
    ∃ x s₁, t.runIn s = (x, s₁) ∧ Still s₁ s' ∧ (∀ e, x = .error e → o = .error e) ∧
      ∀ a, x = .ok a → (f a).runIn s₁ = (o, s') := by
  rcases runIn_bind_cases hrun with ⟨e, hfirst, rfl⟩ | ⟨a, s₁, hfirst, hsecond⟩
  · refine ⟨_, s', hfirst, Still.refl s', fun e' he => ?_, nofun⟩
    cases he
    rfl
  · refine ⟨_, s₁, hfirst, (hf a).still hsecond, nofun, fun b hb => ?_⟩
    cases hb
    exact hsecond

theorem report (notices : List Notice) :
    Quiet (Task.report (Scene.note (ρ := ρ) (υ := υ)) notices) := by
  refine act fun s => ?_
  induction notices generalizing s with
  | nil => exact Still.refl s
  | cons n ns ih =>
      have hnoted : Still s { s with notices := s.notices ++ [n] } := ⟨rfl, rfl⟩
      exact hnoted.trans (ih _)

/-- What the user does is not said to the service. -/
theorem ask (act : υ → Except Failure α × υ) :
    Quiet (ExceptT.mk (Scene.ask (ρ := ρ) act)) := fun _ => ⟨rfl, rfl⟩

theorem forM {items : List β} {f : β → Task (StateM (Scene ρ υ)) Unit} (h : ∀ b, Quiet (f b)) :
    Quiet (items.forM f) := by
  induction items with
  | nil => exact pure ()
  | cons b items ih => exact bind (h b) fun _ => ih

end Quiet

/-- A prompter whose questions are for the user alone. -/
structure Prompter.Private (p : Prompter (StateM (Scene ρ υ))) : Prop where
  selectMany : ∀ question options, Quiet (p.selectMany question options)
  selectOne : ∀ question options default, Quiet (p.selectOne question options default)
  confirm : ∀ question default, Quiet (p.confirm question default)

/-! ### Planning and checking -/

section Settling

variable {prompter : Option (Prompter (StateM (Scene ρ υ)))} (hprivate : ∀ p ∈ prompter, p.Private)

include hprivate

theorem quiet_selectNames (options : List Text) :
    Quiet (Prompter.selectNames prompter options) := by
  unfold Prompter.selectNames Prompter.select
  cases prompter with
  | none => exact Quiet.fail _
  | some p =>
      refine Quiet.bind ((hprivate p rfl).selectMany _ _) fun positions => ?_
      split
      · exact Quiet.fail _
      · exact Quiet.pure _

theorem quiet_plan (transitive : Bool) (catalog installed : Roster)
    (request : Option (List Text)) :
    Quiet (Install.plan Scene.note prompter transitive catalog installed request) := by
  unfold Install.plan
  have hcompleted : ∀ names, Quiet (ρ := ρ) (υ := υ) (do
      Task.report Scene.note (Install.notices catalog installed transitive names)
      Task.ofExcept Failure.fault (Install.complete catalog installed transitive names)) :=
    fun names => Quiet.bind (Quiet.report _) fun _ => Quiet.ofExcept _ _
  split
  · exact Quiet.fail _
  · cases request with
    | none => exact Quiet.bind (quiet_selectNames hprivate _) hcompleted
    | some names => exact Quiet.bind (Quiet.ofExcept _ _) hcompleted

theorem quiet_planRequested (transitive : Bool) (catalog installed : Roster) (request : Value) :
    Quiet (Install.planRequested Scene.note prompter transitive catalog installed request) := by
  unfold Install.planRequested
  split
  · exact quiet_plan hprivate transitive catalog installed none
  · split
    · exact quiet_plan hprivate transitive catalog installed (some _)
    · exact Quiet.fail _

theorem quiet_resolve (catalog installed : Roster) (request : Option (List Text)) :
    Quiet (Removal.resolve Scene.note prompter catalog installed request) := by
  unfold Removal.resolve
  have hchecked : ∀ names, Quiet (ρ := ρ) (υ := υ) (do
      Task.ofExcept Failure.fault (Removal.check installed names)
      Task.report Scene.note [Removal.acceptedNotice names]
      return names) :=
    fun names => Quiet.bind (Quiet.ofExcept _ _) fun _ =>
      Quiet.bind (Quiet.report _) fun _ => Quiet.pure _
  split
  · exact Quiet.fail _
  · cases request with
    | none => exact Quiet.bind (quiet_selectNames hprivate _) hchecked
    | some names => exact Quiet.bind (Quiet.ofExcept _ _) hchecked

theorem quiet_resolveRequested (catalog installed : Roster) (request : Value) :
    Quiet (Removal.resolveRequested Scene.note prompter catalog installed request) := by
  unfold Removal.resolveRequested
  split
  · exact quiet_resolve hprivate catalog installed none
  · split
    · exact quiet_resolve hprivate catalog installed (some _)
    · exact Quiet.fail _

end Settling

/-! ## What can be sent -/

theorem isWritable_letters (s : String) : isWritable (letters s) = true := by
  simp [isWritable, letters, CodePoint.isSurrogate]

/-- A written character is a surrogate if the character is one. -/
theorem Json.any_isSurrogate_escape (c : CodePoint) :
    (Json.escape c).any CodePoint.isSurrogate = c.isSurrogate := by
  unfold Json.escape
  iterate 7
    split
    · rename_i h
      rw [h]
      decide
  split
  · rename_i hlt
    cases c with
    | char c => simp [hexadecimal, padLeft, CodePoint.isSurrogate]
    | surrogate half =>
        simp only [CodePoint.toNat, CodePoint.firstSurrogate] at hlt
        omega
  · simp

theorem Json.isWritable_writeText (cs : List CodePoint) :
    isWritable (Json.writeText cs) = isWritable cs := by
  have hescaped : isWritable (cs.flatMap Json.escape) = isWritable cs := by
    unfold isWritable
    rw [List.any_flatMap]
    congr 2
    exact funext Json.any_isSurrogate_escape
  have hquoted : Json.writeText cs = letters "\"" ++ (cs.flatMap Json.escape ++ letters "\"") := rfl
  rw [hquoted, isWritable_append, isWritable_append, hescaped, isWritable_letters]
  simp

/-- The call for the modules of a database can be written exactly if the name of it can be. -/
theorem isWritable_installedBody (database : Text) :
    isWritable (Json.write (Registry.rosterCall .installed database).2) =
      isWritable database.toList := by
  have hbody : Json.write (Registry.rosterCall .installed database).2 =
      letters "\x7b\"installed\": true, \"dbAlias\": " ++
        (Json.writeText database.toList ++ letters "\x7d") := rfl
  rw [hbody, isWritable_append, isWritable_append, Json.isWritable_writeText]
  simp [isWritable_letters]

/-- After one request, the next one is sent unless its own body cannot be written. -/
theorem Gateway.request_of_request {g : Gateway} {path path' : Text} {body body' : Value}
    {q : Request} (h : g.request path body = .ok q) :
    g.request path' body' =
      if isWritable (Json.write body') then
        .ok ⟨Gateway.sentUrl (g.urlFor path'), body', g.headers, g.timeout⟩
      else .error .unwritable := by
  have htoken : g.token.hasLongNumber = false := by
    unfold Gateway.request at h
    split at h
    · cases h
    · split at h
      · cases h
      · rename_i hshort
        simpa using hshort
  unfold Gateway.request
  rw [htoken]
  cases isWritable (Json.write body') <;> rfl

/-! ## Calls -/

/-- The registry sends its requests to the service of the scene. -/
structure Registry.Reaches (r : Registry (StateM (Scene ρ υ))) (respond : ρ → Request → Reply × ρ) :
    Prop where
  send : r.send = Scene.send respond
  reporter : r.reporter = Scene.note

/-- The request of a call was sent once and answered, or there is no request to be sent. -/
inductive Exchanged (respond : ρ → Request → Reply × ρ) (g : Gateway) (call : Text × Value)
    (s : Scene ρ υ) : Except Failure Reply → Scene ρ υ → Prop where
  | unsent (cause : Mishap) (s' : Scene ρ υ) (hcause : g.request call.1 call.2 = .error cause)
      (hstill : Still s s') : Exchanged respond g call s (.error (.mishap cause)) s'
  | sent (q : Request) (reply : Reply) (s' : Scene ρ υ) (hq : g.request call.1 call.2 = .ok q)
      (hspeaks : Speaks respond s [(q, reply)] s') : Exchanged respond g call s (.ok reply) s'

theorem Exchanged.still {g : Gateway} {call : Text × Value} {x : Except Failure Reply}
    (h : Exchanged respond g call s x s') (h' : Still s' s'') :
    Exchanged respond g call s x s'' := by
  cases h with
  | unsent cause _ hcause hstill => exact .unsent cause s'' hcause (hstill.trans h')
  | sent q reply _ hq hspeaks => exact .sent q reply s'' hq (hspeaks.still h')

theorem Still.exchanged {g : Gateway} {call : Text × Value} {x : Except Failure Reply}
    (h : Still s s') (h' : Exchanged respond g call s' x s'') :
    Exchanged respond g call s x s'' := by
  cases h' with
  | unsent cause _ hcause hstill => exact .unsent cause s'' hcause (h.trans hstill)
  | sent q reply _ hq hspeaks => exact .sent q reply s'' hq (h.speaks.trans hspeaks)

/-- The end of a snapshot, once both rosters were read or not. -/
def snapshotEnd (database : Text) (notices : List Notice)
    (catalog installed : Except Failure Roster) : Task (StateM (Scene ρ υ)) (Roster × Roster) := do
  Task.report Scene.note notices
  let catalog ← Task.ofExcept id catalog
  let installed ← Task.ofExcept id installed
  Task.report Scene.note [Registry.snapshotNotice database catalog installed]
  pure (catalog, installed)

theorem quiet_snapshotEnd (database : Text) (notices : List Notice)
    (catalog installed : Except Failure Roster) :
    Quiet (ρ := ρ) (υ := υ) (snapshotEnd database notices catalog installed) := by
  unfold snapshotEnd
  refine Quiet.bind (Quiet.report _) fun _ => ?_
  refine Quiet.bind (Quiet.ofExcept _ _) fun _ => ?_
  refine Quiet.bind (Quiet.ofExcept _ _) fun _ => ?_
  exact Quiet.bind (Quiet.report _) fun _ => Quiet.pure _

variable {r : Registry (StateM (Scene ρ υ))} (hr : r.Reaches respond)

include hr

theorem exchanged_exchange {call : Text × Value} {x : Except Failure Reply}
    (hrun : (r.exchange call).runIn s = (x, s')) : Exchanged respond r.gateway call s x s' := by
  unfold Registry.exchange at hrun
  rw [runIn_bind, runIn_ofExcept] at hrun
  cases hq : r.gateway.request call.1 call.2 with
  | error cause =>
      rw [hq] at hrun
      cases hrun
      exact .unsent cause s hq (Still.refl s)
  | ok q =>
      rw [hq, hr.send, hr.reporter] at hrun
      cases hrun
      exact .sent q _ _ hq ⟨rfl, rfl, rfl⟩

theorem exchanged_databases {o : Except Failure (List Text)}
    (hrun : r.databases.runIn s = (o, s')) :
    ∃ x, Exchanged respond r.gateway Registry.databasesCall s x s' ∧
      o = x.bind Registry.readDatabases := by
  rcases runIn_bind_cases hrun with ⟨f, hexchange, rfl⟩ | ⟨reply, s₁, hexchange, hread⟩
  · exact ⟨_, exchanged_exchange hr hexchange, rfl⟩
  · rw [runIn_ofExcept] at hread
    cases hread
    refine ⟨_, exchanged_exchange hr hexchange, ?_⟩
    cases h : Registry.readDatabases reply <;> simp [Except.bind, Except.mapError, h]

theorem exchanged_apply {e : Registry.Edit} {database : Text} {names : List Text}
    {o : Except Failure Unit} (hrun : (r.apply e database names).runIn s = (o, s')) :
    ∃ x, Exchanged respond r.gateway (e.path, Registry.Edit.body database names) s x s' ∧
      o = x.bind fun reply =>
        ((Gateway.interpret reply).mapError (Registry.within e.fault)).map fun _ => () := by
  unfold Registry.apply at hrun
  rw [hr.reporter] at hrun
  rcases runIn_bind_cases hrun with ⟨f, hreport, rfl⟩ | ⟨_, s₁, hreport, hrun⟩
  · cases hreport
  have hstill : Still s s₁ := (Quiet.report _).still hreport
  rcases runIn_bind_cases hrun with ⟨f, hexchange, rfl⟩ | ⟨reply, s₂, hexchange, hcheck⟩
  · exact ⟨_, hstill.exchanged (exchanged_exchange hr hexchange), rfl⟩
  · have hexchanged := hstill.exchanged (exchanged_exchange hr hexchange)
    cases hreply : Gateway.interpret reply with
    | error f =>
        rw [hreply] at hcheck
        cases hcheck
        refine ⟨.ok reply, hexchanged, ?_⟩
        simp [Except.bind, Except.mapError, Except.map, hreply]
    | ok answer =>
        rw [hreply] at hcheck
        cases hcheck
        refine ⟨.ok reply, hexchanged, ?_⟩
        simp [Except.bind, Except.mapError, Except.map, hreply]

/-- A roster is read from the reply to one call. -/
theorem exchanged_attempt (role : Role) (database : Text) (s : Scene ρ υ) :
    ∃ x, Exchanged respond r.gateway (Registry.rosterCall role database) s x
        ((r.attempt role database).run s).2 ∧
      ((r.attempt role database).run s).1.2 =
        x.bind fun reply => (Registry.readRoster role reply).2 := by
  unfold Registry.attempt
  cases hq : r.gateway.request (Registry.rosterCall role database).1
      (Registry.rosterCall role database).2 with
  | error cause =>
      simp only [hq]
      exact ⟨_, .unsent cause _ hq (Still.refl s), rfl⟩
  | ok q =>
      simp only [hq]
      rw [hr.send]
      exact ⟨_, .sent q _ _ hq ⟨rfl, rfl, rfl⟩, rfl⟩

/-- Both rosters are read from the replies to two calls; a failure of the catalog comes first. -/
theorem exchanged_fetchSnapshot {database : Text} {o : Except Failure (Roster × Roster)}
    (hrun : (r.fetchSnapshot database).runIn s = (o, s')) :
    ∃ x s₁ y, Exchanged respond r.gateway (Registry.rosterCall .catalog database) s x s₁ ∧
      Exchanged respond r.gateway (Registry.rosterCall .installed database) s₁ y s' ∧
      o = (x.bind fun reply => (Registry.readRoster .catalog reply).2).bind fun catalog =>
        (y.bind fun reply => (Registry.readRoster .installed reply).2).map (catalog, ·) := by
  obtain ⟨x, hx, hcatalog⟩ := exchanged_attempt hr .catalog database s
  rcases hfirst : (r.attempt .catalog database).run s with ⟨⟨n₁, catalog⟩, s₁⟩
  rw [hfirst] at hx hcatalog
  obtain ⟨y, hy, hinstalled⟩ := exchanged_attempt hr .installed database s₁
  rcases hsecond : (r.attempt .installed database).run s₁ with ⟨⟨n₂, installed⟩, s₂⟩
  rw [hsecond] at hy hinstalled
  dsimp only at hx hy hcatalog hinstalled
  have ho : o = catalog.bind fun catalog => installed.map (catalog, ·) := by
    have houtcome := Registry.fst_runIn_fetchSnapshot r database s
    rwa [hrun, hfirst, hsecond] at houtcome
  unfold Registry.fetchSnapshot at hrun
  rw [runIn_bind, runIn_act, hfirst] at hrun
  dsimp only at hrun
  rw [runIn_bind, runIn_act, hsecond, hr.reporter] at hrun
  dsimp only at hrun
  change (snapshotEnd database (Notice.sorted (n₁ ++ n₂)) catalog installed).runIn s₂ =
    (o, s') at hrun
  refine ⟨x, s₁, y, hx, hy.still ((quiet_snapshotEnd _ _ _ _).still hrun), ?_⟩
  rw [← hcatalog, ← hinstalled, ho]

end ModuleKeeper
