import ModuleKeeper.Proofs.ClosedDatabases

/-!
# What commands change

A command that succeeds has changed the one database that it found.  An
install has put the modules of its plan behind what was there, a removal has
taken the names that it settled on out of what was there.  If the service
refuses a change only when it does not make it, a command that fails has
changed nothing.

The service appends whatever it is told to append.  That no database gets a
module twice rests on the plans alone: their names are distinct, and none of
them is installed yet.

## Main results

* `Planned.modules_fresh`: the modules of a plan are distinct and new.
* `Command.done_of_ok`, `Command.same_of_error`: what a command leaves behind.
* `Service.duplicateFree_after`: a run of commands keeps modules from coming
  twice, and changes nothing but what its commands have done.
-/

namespace ModuleKeeper

open ModuleKeeper.Task

variable {ρ υ : Type} {S : Service ρ} {g : Gateway}

/-! ## Plans add new names -/

/-- The dependencies that a plan adds are distinct, new, and not requested, in either mode. -/
theorem Install.additions_fresh {catalog installed : Roster} {transitive : Bool}
    {names added : List Text}
    (h : Install.additions catalog installed transitive names = .ok added) :
    added.Nodup ∧ ∀ d ∈ added, d ∉ names ∧ d ∉ installed.names := by
  cases transitive with
  | true =>
      rw [Install.eq_closure_of_additions h]
      exact ⟨Install.closure_nodup _ _ _, fun d hd => Install.not_mem_of_mem_closure hd⟩
  | false =>
      obtain rfl : Install.implied catalog installed names = added := Except.ok.inj h
      exact ⟨Install.implied_nodup _ _ _, fun d hd => (Install.mem_unseen_iff.1 hd).2.symm⟩

/-- The modules of a plan are what was requested and what is added to it. -/
theorem Planned.exists_additions {catalog installed : Roster} {transitive : Bool}
    {plan : Install.Plan Text} (h : Planned catalog installed transitive plan) :
    ∃ added, Install.additions catalog installed transitive plan.requested = .ok added ∧
      plan.modules = plan.requested ++ added := by
  have hcompleted := h.completed
  unfold Install.complete at hcompleted
  cases hadded : Install.additions catalog installed transitive plan.requested with
  | error e =>
      rw [hadded] at hcompleted
      cases hcompleted
  | ok added =>
      rw [hadded] at hcompleted
      have hplan : Install.Plan.mk plan.requested added = plan := Except.ok.inj hcompleted
      refine ⟨added, rfl, ?_⟩
      rw [← hplan]
      rfl

/-- The modules of a plan are distinct, and none of them is installed. -/
theorem Planned.modules_fresh {catalog installed : Roster} {transitive : Bool}
    {plan : Install.Plan Text} (h : Planned catalog installed transitive plan) :
    plan.modules.Nodup ∧ ∀ n ∈ plan.modules, n ∉ installed.names := by
  obtain ⟨added, hadded, hmodules⟩ := h.exists_additions
  obtain ⟨hnodup, hfresh⟩ := Install.additions_fresh hadded
  rw [hmodules]
  refine ⟨h.nodup.append hnodup fun n hn hn' => (hfresh n hn').1 hn, fun n hn => ?_⟩
  rcases List.mem_append.1 hn with hrequested | himplied
  · exact h.free n hrequested
  · exact (hfresh n himplied).2

/-! ## Services that refuse a change only when they do not make it -/

namespace Service

/-- A service as it is specified, which leaves everything as it is where it refuses a change. -/
structure Exact (S : Service ρ) (g : Gateway) : Prop extends S.Specified g where
  unmade : ∀ s (e : Registry.Edit) database names q,
    g.request e.path (Registry.Edit.body database names) = .ok q →
      (∃ f, Gateway.interpret (S.respond s q).1 = .error f) → S.Same s (S.respond s q).2

theorem Refuses.same (hS : S.Exact g) {e : Registry.Edit} {database : Text} {names : List Text}
    {s t : ρ} (h : S.Refuses g e database names s t) : S.Same s t := by
  obtain ⟨reply, f, ⟨s', q, hsame, hq, hrespond⟩, hreply⟩ := h
  have hkept := hS.unmade s' e database names q hq ⟨f, by rw [hrespond, hreply]⟩
  rw [hrespond] at hkept
  exact hsame.trans hkept

end Service

/-- The server accepts every change that it can read. -/
theorem Server.exact (hg : Server.Recognises g) : Server.service.Exact g where
  toSpecified := Server.specified hg
  unmade := by
    rintro s e database names q hq ⟨f, hf⟩
    change Gateway.interpret (s.respond q).1 = .error f at hf
    rw [Server.respond_edit (Server.key_edit hg hq)] at hf
    cases hf

/-! ## One command -/

/--
What a command has done that went from one scene to another: it found a
database, settled on what to change there, and changed this and nothing else.
-/
inductive Command.Done (S : Service ρ) (g : Gateway) (c : Command υ) (before after : Scene ρ υ) :
    Prop where
  | install (database : Text) (plan : Install.Plan Text) (found planned : Scene ρ υ)
      (hedit : c.edit = .install)
      (hfind : (c.target.find (c.keeper S g)).runIn before = (.ok database, found))
      (hplan : ((c.keeper S g).prepareInstall database c.request).runIn found =
        (.ok plan, planned))
      (happended : S.modulesOf after.service database =
        S.modulesOf before.service database ++ plan.modules)
      (hothers : ∀ other, other ≠ database →
        S.modulesOf after.service other = S.modulesOf before.service other)
  | remove (database : Text) (names : List Text) (found checked : Scene ρ υ)
      (hedit : c.edit = .remove)
      (hfind : (c.target.find (c.keeper S g)).runIn before = (.ok database, found))
      (hcheck : ((c.keeper S g).prepareRemoval database c.request).runIn found =
        (.ok names, checked))
      (hfiltered : S.modulesOf after.service database =
        (S.modulesOf before.service database).filter (· ∉ names))
      (hothers : ∀ other, other ≠ database →
        S.modulesOf after.service other = S.modulesOf before.service other)

/-- A change that was made after a confirmation is made on what was there at the start. -/
theorem edited_of_execute_ok (hS : S.Specified g) {start : ρ} {c : Command υ} {e : Registry.Edit}
    {database : Text} {names : List Text} {s s' : Scene ρ υ} (hs : S.Same start s.service)
    (hrun : ((c.keeper S g).execute e database names).runIn s = (.ok (), s')) :
    S.Edited e database names start s'.service :=
  ((Ensures.execute start c e database names).of_ok hs hrun).edited hS

theorem Command.done_of_ok (hS : S.Specified g) {c : Command υ} {before after : Scene ρ υ}
    (hrun : (c.task S g).runIn before = (.ok (), after)) : c.Done S g before after := by
  unfold Command.task at hrun
  obtain ⟨database, found, hfind, hrun⟩ := runIn_bind_eq_ok.1 hrun
  have hfound : S.Same before.service found.service :=
    ((Keeps.find hS before.service c c.target).of_ok (Service.Same.refl _) hfind).2
  cases hedit : c.edit with
  | install =>
      rw [hedit] at hrun
      obtain ⟨plan, planned, hplan, hexecute⟩ := runIn_bind_eq_ok.1 hrun
      have hplanned : S.Same before.service planned.service :=
        ((Keeps.prepareInstall hS before.service c database).of_ok hfound hplan).2
      have hmade := edited_of_execute_ok hS hplanned hexecute
      exact .install database plan found planned hedit hfind hplan hmade.target hmade.others
  | remove =>
      rw [hedit] at hrun
      obtain ⟨names, checked, hcheck, hexecute⟩ := runIn_bind_eq_ok.1 hrun
      have hchecked : S.Same before.service checked.service :=
        ((Keeps.prepareRemoval hS before.service c database).of_ok hfound hcheck).2
      have hmade := edited_of_execute_ok hS hchecked hexecute
      refine .remove database names found checked hedit hfind hcheck ?_ hmade.others
      rw [hmade.target]
      simp [Server.edited]

theorem Command.same_of_error (hS : S.Exact g) {c : Command υ} {before after : Scene ρ υ}
    {f : Failure} (hrun : (c.task S g).runIn before = (.error f, after)) :
    S.Same before.service after.service := by
  rcases (c.ensures_task hS.toSpecified before.service).of_error (Service.Same.refl _) hrun with
    hsame | ⟨database, names, -, hrefused⟩
  · exact hsame
  · exact hrefused.same hS

/-! ## Runs of commands -/

namespace Service

/-- No database has a module twice. -/
def DuplicateFree (S : Service ρ) (s : ρ) : Prop := ∀ database, (S.modulesOf s database).Nodup

theorem Same.duplicateFree {s t : ρ} (h : S.Same s t) (hfree : S.DuplicateFree s) :
    S.DuplicateFree t := by
  intro database
  rw [h.modulesOf]
  exact hfree database

theorem Justified.duplicateFree {s t : ρ} {transitive : Bool} {database : Text}
    {e : Registry.Edit} {names : List Text} (h : S.Justified s transitive database e names)
    (hedited : S.Edited e database names s t) (hfree : S.DuplicateFree s) :
    S.DuplicateFree t := by
  intro other
  by_cases hother : other = database
  · subst hother
    rw [hedited.target]
    cases h with
    | install plan hplanned =>
        obtain ⟨hnodup, hnew⟩ := hplanned.modules_fresh
        refine (hfree other).append hnodup fun n hn hn' => ?_
        exact hnew n hn' (mem_names_installed.2 hn)
    | remove names _ => exact (hfree other).filter _
  · rw [hedited.others other hother]
    exact hfree other

/-- The invariant of a run: a change that is made is justified by what the service showed. -/
theorem duplicateFree_next (hS : S.Specified g) {scene : Scene ρ υ}
    (hfree : S.DuplicateFree scene.service) (c : Command υ) :
    S.DuplicateFree (Command.next S g scene c).service := by
  unfold Command.next
  rcases hrun : (c.task S g).runIn scene with ⟨f | _, after⟩
  · rcases (c.ensures_task hS scene.service).of_error (Same.refl _) hrun with
      hsame | ⟨database, names, hjustified, hrefused⟩
    · exact hsame.duplicateFree hfree
    · rcases hrefused.same_or_edited hS with hsame | hedited
      · exact hsame.duplicateFree hfree
      · exact hjustified.duplicateFree hedited hfree
  · obtain ⟨database, names, hjustified, haccepted⟩ :=
      (c.ensures_task hS scene.service).of_ok (Same.refl _) hrun
    exact hjustified.duplicateFree (haccepted.edited hS) hfree

/--
**Databases change as commands say.**  Let a service answer as it is
specified to and make no change that it refuses, and let no database have a
module twice.  Then no database has a module twice after a run of commands, in
either mode, whatever they ask for, whatever the user answers, and whichever
of them fail.  Whatever command comes next, it has done what it settled on in
the one database that it found if it succeeds, and has changed nothing if it
fails.
-/
theorem duplicateFree_after (hS : S.Exact g) (scene : Scene ρ υ)
    (hfree : S.DuplicateFree scene.service) (commands : List (Command υ)) :
    S.DuplicateFree (S.after g scene commands).service ∧
      ∀ c : Command υ, Ends (fun _ after => c.Done S g (S.after g scene commands) after)
        (fun after => S.Same (S.after g scene commands).service after.service)
        ((c.task S g).runIn (S.after g scene commands)) := by
  constructor
  · refine List.foldlRecOn (motive := fun s : Scene ρ υ => S.DuplicateFree s.service) commands _
      hfree fun _ hscene c _ => ?_
    exact duplicateFree_next hS.toSpecified hscene c
  · intro c
    rcases hrun : (c.task S g).runIn (S.after g scene commands) with ⟨f | _, after⟩
    · exact Command.same_of_error hS hrun
    · exact Command.done_of_ok hS.toSpecified hrun

theorem duplicateFree_shopServer : Server.service.DuplicateFree shopServer := by
  intro database
  by_cases hmain : database = "main"
  · subst hmain
    decide
  · rw [modulesOf_shopServer_of_ne hmain]
    exact List.nodup_nil

/-- The shop after its three commands, one of which was refused, and whatever comes next. -/
theorem duplicateFree_after_shopCommands :
    Server.service.Exact localGateway ∧ Server.service.DuplicateFree shopServer ∧
      Server.service.DuplicateFree
        (after Server.service localGateway (Scene.start shopServer ()) shopCommands).service ∧
      ∀ c : Command Unit,
        Ends (fun _ s => c.Done Server.service localGateway
            (after Server.service localGateway (Scene.start shopServer ()) shopCommands) s)
          (fun s => Server.service.Same
            (after Server.service localGateway (Scene.start shopServer ()) shopCommands).service
              s.service)
          ((c.task Server.service localGateway).runIn
            (after Server.service localGateway (Scene.start shopServer ()) shopCommands)) := by
  have hexact : Server.service.Exact localGateway := Server.exact (by decide)
  obtain ⟨hfree, hnext⟩ :=
    duplicateFree_after hexact (Scene.start shopServer ()) duplicateFree_shopServer shopCommands
  exact ⟨hexact, duplicateFree_shopServer, hfree, hnext⟩

end Service

end ModuleKeeper
