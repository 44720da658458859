import ModuleKeeper.Proofs.PlanRulings
import ModuleKeeper.Proofs.Removing

/-!
# Modules that are chosen and modules that are named

Who names no modules is offered some to choose from.  The program looks none of
the chosen names up, and it does not look for repetitions among them.  It need
not: a choice takes options in their order and none twice, whatever positions
the user gives, and the options are such that the look-ups of an install would
let them pass.  For a removal this holds of the names that the catalog knows;
the options are what is installed, and the catalog is not asked.

So a request that is left to the user ends like the request for what the user
chose, and it reports the same on the way.

## Main results

* `sublist_of_selectNames`: what a selection yields.
* `Install.runIn_plan_none`, `Removal.runIn_resolve_none`: what follows a selection.
* `chosen_eq_named`: both ways to ask for an install or a removal agree.
-/

namespace ModuleKeeper

variable {σ : Type} {reporter : Reporter (StateM σ)} {prompter : Option (Prompter (StateM σ))}
  {catalog installed : Roster} {options names : List Text} {s s₁ : σ}

/-! ## Selections -/

/-- A selection yields some of the options, each at its place, or it fails. -/
theorem sublist_of_selectNames
    (h : (Prompter.selectNames prompter options).runIn s = (.ok names, s₁)) :
    names ≠ [] ∧ names.Sublist options := by
  unfold Prompter.selectNames Prompter.select at h
  cases prompter with
  | none => cases h
  | some p =>
      obtain ⟨positions, s₂, -, hchosen⟩ := Task.runIn_bind_eq_ok.1 h
      have hsub := choose_sublist options positions
      split at hchosen
      · cases hchosen
      · rename_i hsome
        cases hchosen
        exact ⟨hsome, hsub⟩

/-! ## Installs -/

namespace Install

theorem offered_eq (catalog installed : Roster) :
    offered catalog installed = catalog.names.filter fun n => n ∉ installed.names := by
  unfold offered
  refine List.filter_congr fun n _ => ?_
  simp [Roster.has]

/-- The look-ups let pass what was chosen from the offer. -/
theorem explicit_of_sublist (h : names.Sublist (offered catalog installed)) :
    explicit catalog installed names = .ok names := by
  obtain ⟨hnodup, hknown, hfree⟩ := eligible_of_sublist h
  exact explicit_eq_ok_iff.2 ⟨hknown, hfree, (eraseDups_of_nodup hnodup).symm⟩

/-- Behind a selection an install goes on as if the chosen names had been requested. -/
theorem runIn_plan_none (hroom : isExhausted catalog installed = false) (transitive : Bool)
    (prompter' : Option (Prompter (StateM σ)))
    (h : (Prompter.selectNames prompter (offered catalog installed)).runIn s = (.ok names, s₁)) :
    (plan reporter prompter transitive catalog installed none).runIn s =
      (plan reporter prompter' transitive catalog installed (some names)).runIn s₁ := by
  have hexplicit := explicit_of_sublist (sublist_of_selectNames h).2
  unfold plan
  rw [hroom, if_neg Bool.false_ne_true, if_neg Bool.false_ne_true]
  dsimp only
  rw [Task.runIn_bind, Task.runIn_bind, h, Task.runIn_ofExcept, hexplicit]
  rfl

/-- The outcome is that of the request for the chosen names, also where nobody comes to be asked. -/
theorem runIn_plan_none_fst (transitive : Bool)
    (h : (Prompter.selectNames prompter (offered catalog installed)).runIn s = (.ok names, s₁)) :
    ((plan reporter prompter transitive catalog installed none).runIn s).1 =
      planFor catalog installed transitive names := by
  cases hroom : isExhausted catalog installed with
  | true =>
      -- The sizes alone end the request, and nobody is asked.
      rw [planFor_eq, if_pos hroom, plan, if_pos hroom]
      rfl
  | false =>
      rw [runIn_plan_none hroom transitive none h, ← planRequested_ofTexts, runIn_planRequested]

end Install

/-! ## Removals -/

namespace Removal

theorem explicit_of_sublist (h : names.Sublist installed.names)
    (hknown : ∀ n ∈ names, n ∈ catalog.names) :
    explicit catalog installed names = .ok names :=
  explicit_eq_ok_iff.2 ⟨hknown, fun _ hn => h.subset hn,
    (eraseDups_of_nodup (h.nodup installed.names_nodup)).symm⟩

/-- Behind a selection a removal goes on as if the chosen names had been requested. -/
theorem runIn_resolve_none (prompter' : Option (Prompter (StateM σ)))
    (h : (Prompter.selectNames prompter installed.names).runIn s = (.ok names, s₁))
    (hknown : ∀ n ∈ names, n ∈ catalog.names) :
    (resolve reporter prompter catalog installed none).runIn s =
      (resolve reporter prompter' catalog installed (some names)).runIn s₁ := by
  obtain ⟨hsome, hsub⟩ := sublist_of_selectNames h
  have hexplicit := explicit_of_sublist hsub hknown
  have hsize : installed.size ≠ 0 := by
    intro hsize
    rw [← Roster.length_names, List.length_eq_zero_iff] at hsize
    rw [hsize] at hsub
    exact hsome (List.sublist_nil.1 hsub)
  unfold resolve
  rw [if_neg hsize, if_neg hsize]
  dsimp only
  rw [Task.runIn_bind, Task.runIn_bind, h, Task.runIn_ofExcept, hexplicit]
  rfl

end Removal

/-! ## Both ways to ask -/

/--
**To choose is to name.**  A user is offered the modules of the catalog that are
not installed, for an install, and those that are installed, for a removal.  If
this yields names, by whatever answer, then the request that was left to the
user ends like the request for these names, in every mode: it has the same
outcome as every run of that request, and it ends in the same state as the run
behind the selection.  For a removal the catalog has to know the chosen names.
-/
theorem chosen_eq_named (reporter : Reporter (StateM σ)) (prompter : Option (Prompter (StateM σ)))
    (catalog installed : Roster) (names : List Text) (s s₁ : σ) :
    ((Prompter.selectNames prompter (catalog.names.filter fun n => n ∉ installed.names)).runIn s =
        (.ok names, s₁) → ∀ transitive prompter',
      (∀ s', ((Install.planRequested reporter prompter transitive catalog installed
          .null).runIn s).1 =
        ((Install.planRequested reporter prompter' transitive catalog installed
          (Naming.ofTexts (some names))).runIn s').1) ∧
      (installed.size ≠ catalog.size →
        (Install.planRequested reporter prompter transitive catalog installed .null).runIn s =
          (Install.planRequested reporter prompter' transitive catalog installed
            (Naming.ofTexts (some names))).runIn s₁)) ∧
    ((Prompter.selectNames prompter installed.names).runIn s = (.ok names, s₁) →
      (∀ n ∈ names, n ∈ catalog.names) → ∀ prompter',
      (∀ s', ((Removal.resolveRequested reporter prompter catalog installed .null).runIn s).1 =
        ((Removal.resolveRequested reporter prompter' catalog installed
          (Naming.ofTexts (some names))).runIn s').1) ∧
      (Removal.resolveRequested reporter prompter catalog installed .null).runIn s =
        (Removal.resolveRequested reporter prompter' catalog installed
          (Naming.ofTexts (some names))).runIn s₁) := by
  constructor
  · intro hselect transitive prompter'
    rw [← Install.offered_eq] at hselect
    refine ⟨fun s' => ?_, fun hsizes => ?_⟩
    · rw [Install.runIn_planRequested]
      exact Install.runIn_plan_none_fst transitive hselect
    · rw [Install.planRequested_ofTexts]
      exact Install.runIn_plan_none (by simpa [Install.isExhausted] using hsizes) transitive
        prompter' hselect
  · intro hselect hknown prompter'
    have hrun : (Removal.resolveRequested reporter prompter catalog installed .null).runIn s =
        (Removal.resolveRequested reporter prompter' catalog installed
          (Naming.ofTexts (some names))).runIn s₁ := by
      rw [Removal.resolveRequested_ofTexts]
      exact Removal.runIn_resolve_none prompter' hselect hknown
    refine ⟨fun s' => ?_, hrun⟩
    rw [hrun, Removal.runIn_resolveRequested, Removal.runIn_resolveRequested]

open Install (shopCatalog mailInstalled)

/-- A user who gives these positions to whatever question. -/
def Prompter.giving (positions : List Int) : Prompter (StateM Unit) where
  selectMany _ _ := pure positions
  selectOne _ _ _ := pure 0
  confirm _ default := pure default

/--
Positions before and behind the options choose nothing, and a position that is
given twice chooses once.  Of what the shop offers beside `mail`, positions 0
and 3 are `orders` and `report`; of the whole shop, they are `orders` and `mail`.
-/
theorem chosen_eq_named_shop :
    (Prompter.selectNames (some (.giving [-1, 3, 7, 0, 3]))
        (shopCatalog.names.filter fun n => n ∉ mailInstalled.names)).runIn () =
      (.ok ["orders", "report"], ()) ∧
    (Install.planRequested (fun _ => pure ()) (some (.giving [-1, 3, 7, 0, 3])) false shopCatalog
        mailInstalled .null).runIn () =
      (Install.planRequested (fun _ => pure ()) none false shopCatalog mailInstalled
        (Naming.ofTexts (some ["orders", "report"]))).runIn () ∧
    (Prompter.selectNames (some (.giving [-1, 3, 7, 0, 3])) shopCatalog.names).runIn () =
      (.ok ["orders", "mail"], ()) ∧
    (Removal.resolveRequested (fun _ => pure ()) (some (.giving [-1, 3, 7, 0, 3])) shopCatalog
        shopCatalog .null).runIn () =
      (Removal.resolveRequested (fun _ => pure ()) none shopCatalog shopCatalog
        (Naming.ofTexts (some ["orders", "mail"]))).runIn () := by
  have hoffered : (Prompter.selectNames (some (.giving [-1, 3, 7, 0, 3]))
      (shopCatalog.names.filter fun n => n ∉ mailInstalled.names)).runIn () =
        (.ok ["orders", "report"], ()) := by rfl
  have hpresent : (Prompter.selectNames (some (.giving [-1, 3, 7, 0, 3]))
      shopCatalog.names).runIn () = (.ok ["orders", "mail"], ()) := by rfl
  have hinstall := (chosen_eq_named (fun _ => pure ()) _ shopCatalog mailInstalled _ () ()).1
    hoffered false none
  have hremoval := (chosen_eq_named (fun _ => pure ()) _ shopCatalog shopCatalog _ () ()).2
    hpresent (by decide) none
  exact ⟨hoffered, hinstall.2 (by decide), hpresent, hremoval.2⟩

end ModuleKeeper
