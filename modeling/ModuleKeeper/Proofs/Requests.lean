import ModuleKeeper.Keeper
import ModuleKeeper.Proofs.Planning
import ModuleKeeper.Proofs.Running

/-!
# What becomes of a request

A request for an install or a removal names modules or leaves the choice to
the user.  If it is accepted, the names that come of it have been looked up
in what is known and in what is installed, in either case.  This file says
what is known of an accepted install (`Planned`) and of an accepted removal
(`Removable`), and that finding them out does not reach the service.

A request may also halt: there is nothing left for it, or the user selected
nothing.  There is no other halt but one of the user's.

## Main results

* `Keeps.planRequested`: an install that is accepted is planned.
* `Keeps.resolveRequested`: a removal that is accepted is removable.
* `Avoids.planRequested`, `Avoids.resolveRequested`: the halts of a request.
-/

namespace ModuleKeeper

/-! ## Users -/

/-- A user with states `υ`, who answers questions or fails to. -/
structure User (υ : Type) where
  selectMany : Value → List Value → υ → Except Failure (List Int) × υ
  selectOne : Value → List Value → Value → υ → Except Failure Int × υ
  confirm : Value → Value → υ → Except Failure Value × υ

/-- The user of a scene, who can be asked. -/
def User.prompter {ρ υ : Type} (u : User υ) : Prompter (StateM (Scene ρ υ)) where
  selectMany := fun question options => ExceptT.mk (Scene.ask (u.selectMany question options))
  selectOne := fun question options default =>
    ExceptT.mk (Scene.ask (u.selectOne question options default))
  confirm := fun question default => ExceptT.mk (Scene.ask (u.confirm question default))

/-! ## Names -/

/-- A choice keeps the order of the options and takes none twice. -/
theorem choose_sublist {α : Type} (options : List α) (positions : List Int) :
    (Selection.choose options positions).Sublist options := by
  have hsub : (Selection.choose options positions).Sublist (options.zipIdx.map (·.1)) :=
    List.filter_sublist.map _
  rwa [List.zipIdx_map_fst] at hsub

theorem Install.mem_offered {catalog installed : Roster} {n : Text} :
    n ∈ offered catalog installed ↔ n ∈ catalog.names ∧ n ∉ installed.names := by
  simp [offered, Roster.has]

/-- What is chosen from an offer is distinct, known and not installed. -/
theorem Install.eligible_of_sublist {catalog installed : Roster} {names : List Text}
    (h : names.Sublist (offered catalog installed)) :
    names.Nodup ∧ (∀ n ∈ names, n ∈ catalog.names) ∧ ∀ n ∈ names, n ∉ installed.names := by
  have hoffered : ∀ n ∈ names, n ∈ catalog.names ∧ n ∉ installed.names :=
    fun n hn => mem_offered.1 (h.subset hn)
  have hnodup : (offered catalog installed).Nodup := catalog.names_nodup.filter _
  exact ⟨h.nodup hnodup, fun n hn => (hoffered n hn).1, fun n hn => (hoffered n hn).2⟩

namespace Removal

/-- A module that stays needs nothing that goes, if the removal is not refused for it. -/
theorem not_needed_of_check {installed : Roster} {names : List Text}
    (h : check installed names = .ok ()) {m : Module} (hm : m ∈ installed.modules)
    (hstays : m.name ∉ names) {d : Text} (hd : d ∈ m.dependencies) : d ∉ names := by
  intro hgoes
  obtain ⟨found, hfound⟩ := Option.isSome_iff_exists.1
    (dependent?_isSome_iff.2 ⟨m, hm, hstays, d, hd, hgoes⟩)
  unfold check at h
  rw [hfound] at h
  cases h

end Removal

/-! ## Accepted requests -/

/-- An install that was accepted: new names of the catalog, and their completion. -/
structure Planned (catalog installed : Roster) (transitive : Bool) (plan : Install.Plan Text) :
    Prop where
  nodup : plan.requested.Nodup
  known : ∀ n ∈ plan.requested, n ∈ catalog.names
  free : ∀ n ∈ plan.requested, n ∉ installed.names
  completed : Install.complete catalog installed transitive plan.requested = .ok plan

/-- A removal that was accepted: installed names, none of which a module that stays needs. -/
structure Removable (installed : Roster) (names : List Text) : Prop where
  nodup : names.Nodup
  present : ∀ n ∈ names, n ∈ installed.names
  checked : Removal.check installed names = .ok ()

theorem Planned.of_complete {catalog installed : Roster} {transitive : Bool} {names : List Text}
    {plan : Install.Plan Text} (hnodup : names.Nodup) (hknown : ∀ n ∈ names, n ∈ catalog.names)
    (hfree : ∀ n ∈ names, n ∉ installed.names)
    (h : Install.complete catalog installed transitive names = .ok plan) :
    Planned catalog installed transitive plan := by
  have hrequested := Install.complete_requested h
  subst hrequested
  exact ⟨hnodup, hknown, hfree, h⟩

namespace Task.Keeps

variable {ρ υ : Type} {p : ρ → Prop}

theorem selectNames (user : Option (User υ)) (options : List Text) :
    Keeps p (Prompter.selectNames (user.map User.prompter) options)
      fun names => names.Sublist options := by
  unfold Prompter.selectNames Prompter.select
  cases user with
  | none => exact fail _
  | some u =>
      refine bind (ask p _) fun positions _ => ?_
      have hsub := choose_sublist options positions
      split
      · exact fail _
      · rename_i chosen hchosen
        exact pure hsub

/-! ### Installs -/

/-- The end of the planner, once the requested names are known. -/
theorem complete {catalog installed : Roster} {names : List Text} (transitive : Bool)
    (hnodup : names.Nodup) (hknown : ∀ n ∈ names, n ∈ catalog.names)
    (hfree : ∀ n ∈ names, n ∉ installed.names) :
    Keeps (υ := υ) p (do
      Task.report Scene.note (Install.notices catalog installed transitive names)
      Task.ofExcept Failure.fault (Install.complete catalog installed transitive names))
      (Planned catalog installed transitive) := by
  refine bind (report p _) fun _ _ => ?_
  exact ofExcept fun plan hplan => Planned.of_complete hnodup hknown hfree hplan

theorem plan (user : Option (User υ)) (transitive : Bool) (catalog installed : Roster)
    (request : Option (List Text)) :
    Keeps p (Install.plan Scene.note (user.map User.prompter) transitive catalog installed request)
      (Planned catalog installed transitive) := by
  unfold Install.plan
  split
  · exact fail _
  · cases request with
    | none =>
        refine bind (selectNames user _) fun names hsub => ?_
        obtain ⟨hnodup, hknown, hfree⟩ := Install.eligible_of_sublist hsub
        exact complete transitive hnodup hknown hfree
    | some names =>
        refine bind (ofExcept fun _ h => Install.explicit_eq_ok_iff.1 h) fun accepted h => ?_
        obtain ⟨hknown, hfree, rfl⟩ := h
        exact complete transitive (nodup_eraseDups names)
          (fun n hn => hknown n (List.mem_eraseDups.1 hn))
          fun n hn => hfree n (List.mem_eraseDups.1 hn)

theorem planRequested (user : Option (User υ)) (transitive : Bool) (catalog installed : Roster)
    (request : Value) :
    Keeps p (Install.planRequested Scene.note (user.map User.prompter) transitive catalog installed
      request) (Planned catalog installed transitive) := by
  unfold Install.planRequested
  split
  · exact plan user transitive catalog installed none
  · split
    · exact plan user transitive catalog installed (some _)
    · exact fail _

/-! ### Removals -/

/-- The end of the removal's check, once the requested names are known. -/
theorem check {installed : Roster} {names : List Text} (hnodup : names.Nodup)
    (hpresent : ∀ n ∈ names, n ∈ installed.names) :
    Keeps (υ := υ) p (do
      Task.ofExcept Failure.fault (Removal.check installed names)
      Task.report Scene.note [Removal.acceptedNotice names]
      return names)
      (Removable installed) := by
  refine bind (ofExcept fun _ h => h) fun _ hchecked => ?_
  refine bind (report p _) fun _ _ => ?_
  exact pure ⟨hnodup, hpresent, hchecked⟩

theorem resolve (user : Option (User υ)) (catalog installed : Roster)
    (request : Option (List Text)) :
    Keeps p (Removal.resolve Scene.note (user.map User.prompter) catalog installed request)
      (Removable installed) := by
  unfold Removal.resolve
  split
  · exact fail _
  · cases request with
    | none =>
        refine bind (selectNames user _) fun names hsub => ?_
        exact check (hsub.nodup installed.names_nodup) fun n hn => hsub.subset hn
    | some names =>
        refine bind (ofExcept fun _ h => Removal.explicit_eq_ok_iff.1 h) fun accepted h => ?_
        obtain ⟨-, hpresent, rfl⟩ := h
        exact check (nodup_eraseDups names) fun n hn => hpresent n (List.mem_eraseDups.1 hn)

theorem resolveRequested (user : Option (User υ)) (catalog installed : Roster)
    (request : Value) :
    Keeps p (Removal.resolveRequested Scene.note (user.map User.prompter) catalog installed request)
      (Removable installed) := by
  unfold Removal.resolveRequested
  split
  · exact resolve user catalog installed none
  · split
    · exact resolve user catalog installed (some _)
    · exact fail _

end Task.Keeps

/-! ## Halted requests -/

theorem Naming.unhalting_requested (catalog : Roster) (request : Value) :
    Task.Unhalting (requested catalog request) := by
  intro h
  unfold requested
  split
  · nofun
  · split <;> nofun

namespace Task.Avoids

variable {σ : Type} {prompter : Option (Prompter (StateM σ))} {reporter : Reporter (StateM σ)}
  {catalog installed : Roster} {h : Halt}

section Selecting

variable (huser : ∀ p ∈ prompter, ∀ question options,
  Avoids (p.selectMany question options) (.halt h)) (hselected : .nothingSelected ≠ h)

include huser hselected

theorem selectNames (options : List Text) :
    Avoids (Prompter.selectNames prompter options) (.halt h) := by
  unfold Prompter.selectNames Prompter.select
  cases prompter with
  | none => exact fail nofun
  | some p =>
      refine bind (huser p rfl _ _) fun positions => ?_
      split
      · exact fail fun hhalt => hselected (Failure.halt.inj hhalt)
      · exact pure _

/-! ### Halted installs -/

theorem plan (hroom : Install.isExhausted catalog installed = true → .allInstalled ≠ h)
    (transitive : Bool) (request : Option (List Text)) :
    Avoids (Install.plan reporter prompter transitive catalog installed request) (.halt h) := by
  have hcompleted : ∀ names, Avoids (do
      Task.report reporter (Install.notices catalog installed transitive names)
      Task.ofExcept Failure.fault (Install.complete catalog installed transitive names))
        (.halt h) :=
    fun names => bind (report _ _) fun _ => ofExcept fun _ _ => nofun
  unfold Install.plan
  split
  · rename_i hfull
    exact fail fun hhalt => hroom hfull (Failure.halt.inj hhalt)
  · cases request with
    | none => exact bind (selectNames huser hselected _) hcompleted
    | some names => exact bind (ofExcept fun _ _ => nofun) hcompleted

theorem planRequested (hroom : Install.isExhausted catalog installed = true → .allInstalled ≠ h)
    (transitive : Bool) (request : Value) :
    Avoids (Install.planRequested reporter prompter transitive catalog installed request)
      (.halt h) := by
  unfold Install.planRequested
  split
  · exact plan huser hselected hroom transitive none
  · split
    · exact plan huser hselected hroom transitive (some _)
    · rename_i f hf
      split
      · rename_i hfull
        exact fail fun hhalt => hroom hfull (Failure.halt.inj hhalt)
      · exact fail fun hhalt => Naming.unhalting_requested catalog request h (hhalt ▸ hf)

/-! ### Halted removals -/

theorem resolve (hsome : installed.size = 0 → .noneInstalled ≠ h)
    (request : Option (List Text)) :
    Avoids (Removal.resolve reporter prompter catalog installed request) (.halt h) := by
  have hchecked : ∀ names, Avoids (do
      Task.ofExcept Failure.fault (Removal.check installed names)
      Task.report reporter [Removal.acceptedNotice names]
      Pure.pure names) (.halt h) :=
    fun names => bind (ofExcept fun _ _ => nofun) fun _ => bind (report _ _) fun _ => pure _
  unfold Removal.resolve
  split
  · rename_i hnone
    exact fail fun hhalt => hsome hnone (Failure.halt.inj hhalt)
  · cases request with
    | none => exact bind (selectNames huser hselected _) hchecked
    | some names => exact bind (ofExcept fun _ _ => nofun) hchecked

theorem resolveRequested (hsome : installed.size = 0 → .noneInstalled ≠ h) (request : Value) :
    Avoids (Removal.resolveRequested reporter prompter catalog installed request) (.halt h) := by
  unfold Removal.resolveRequested
  split
  · exact resolve huser hselected hsome none
  · split
    · exact resolve huser hselected hsome (some _)
    · rename_i f hf
      split
      · rename_i hnone
        exact fail fun hhalt => hsome hnone (Failure.halt.inj hhalt)
      · exact fail fun hhalt => Naming.unhalting_requested catalog request h (hhalt ▸ hf)

end Selecting

end Task.Avoids

end ModuleKeeper
