import ModuleKeeper.Proofs.Requests

/-!
# Removals of explicit requests

What checking a request for texts comes to does not depend on the
surroundings: nobody is asked, and only an accepted removal is reported.
`removalFor` is this outcome, and `run_resolve_some` says that every run of the
check has it.

## Main results

* `check_eq_ok_iff`: the check refuses a removal exactly for a module that
  stays and is recorded with a dependency that goes.
* `run_resolve_some`: every run of the check has the outcome `removalFor`.
* `removalFor_eq_ok_iff`: which requests are accepted.
-/

namespace ModuleKeeper.Removal

/-! ## The check -/

/-- No module that stays is recorded with a dependency that goes. -/
def Unneeded (installed : Roster) (names : List Text) : Prop :=
  ∀ m ∈ installed.modules, m.name ∉ names → ∀ d ∈ m.dependencies, d ∉ names

theorem check_eq_ok_iff {installed : Roster} {names : List Text} :
    check installed names = .ok () ↔ Unneeded installed names := by
  constructor
  · intro h m hm hstays d hd
    exact not_needed_of_check h hm hstays hd
  · intro h
    unfold check
    cases hfound : dependent? installed names with
    | none => rfl
    | some found =>
        obtain ⟨m, hm, hstays, d, hd, hgoes⟩ :=
          dependent?_isSome_iff.1 (Option.isSome_iff_exists.2 ⟨found, hfound⟩)
        exact absurd hgoes (h m hm hstays d hd)

/-- It is all the same how often and in which order names are given. -/
theorem Unneeded.congr {installed : Roster} {names names' : List Text}
    (h : Unneeded installed names) (hnames : ∀ n, n ∈ names' ↔ n ∈ names) :
    Unneeded installed names' := by
  intro m hm hstays d hd hgoes
  exact h m hm (fun hmem => hstays ((hnames _).2 hmem)) d hd ((hnames d).1 hgoes)

/-! ## The outcome of an explicit request -/

/-- What a request for texts comes to. -/
def removalFor (catalog installed : Roster) (request : List Text) : Except Failure (List Text) :=
  if installed.size = 0 then .error (.halt .noneInstalled)
  else ((explicit catalog installed request).bind fun names =>
    (check installed names).map fun _ => names).mapError Failure.fault

/-- Every run of the check on an explicit request comes to the same outcome. -/
theorem run_resolve_some {m : Type → Type} [Monad m] [LawfulMonad m] (reporter : Reporter m)
    (prompter : Option (Prompter m)) (catalog installed : Roster) (request : List Text) :
    (resolve reporter prompter catalog installed (some request)).run =
      match removalFor catalog installed request with
      | .ok names => [acceptedNotice names].forM reporter >>= fun _ => pure (.ok names)
      | .error f => pure (.error f) := by
  unfold resolve removalFor
  split
  · rfl
  · dsimp only
    rw [Task.run_ofExcept_bind]
    cases explicit catalog installed request with
    | error f => rfl
    | ok names =>
        dsimp only
        rw [Task.run_ofExcept_bind]
        cases hcheck : check installed names with
        | error f => simp [Except.bind, Except.map, Except.mapError, hcheck]
        | ok _ =>
            dsimp only
            rw [Task.run_report_bind]
            simp [Except.bind, Except.map, Except.mapError, hcheck]

/-- A run in a state has this outcome too, wherever it starts. -/
theorem runIn_resolveRequested {σ : Type} (reporter : Reporter (StateM σ))
    (prompter : Option (Prompter (StateM σ))) (catalog installed : Roster) (request : List Text)
    (s : σ) :
    ((resolveRequested reporter prompter catalog installed
      (Naming.ofTexts (some request))).runIn s).1 = removalFor catalog installed request := by
  rw [resolveRequested_ofTexts, Task.runIn, run_resolve_some]
  cases removalFor catalog installed request <;> rfl

theorem runIn_resolve_of_removalFor {ρ υ : Type} {catalog installed : Roster}
    {request names : List Text} (h : removalFor catalog installed request = .ok names)
    (prompter : Option (Prompter (StateM (Scene ρ υ)))) (s : Scene ρ υ) :
    ∃ s', (resolve Scene.note prompter catalog installed (some request)).runIn s =
      (.ok names, s') := by
  have hrun := runIn_resolveRequested Scene.note prompter catalog installed request s
  rw [resolveRequested_ofTexts, h] at hrun
  exact ⟨_, Prod.ext hrun rfl⟩

/-- A request is accepted if its names are, and if the check does not refuse them. -/
theorem removalFor_eq_ok_iff_checked {catalog installed : Roster} {request names : List Text} :
    removalFor catalog installed request = .ok names ↔
      installed.size ≠ 0 ∧ explicit catalog installed request = .ok names ∧
        check installed names = .ok () := by
  unfold removalFor
  split
  · rename_i hnone
    simp [hnone]
  · rename_i hsome
    cases hexplicit : explicit catalog installed request with
    | error f => simp [Except.bind, Except.mapError]
    | ok accepted =>
        cases hcheck : check installed accepted with
        | error f =>
            simp only [Except.bind, Except.map, Except.mapError, hcheck, reduceCtorEq, false_iff]
            rintro ⟨-, haccepted, haccept⟩
            obtain rfl : accepted = names := Except.ok.inj haccepted
            cases hcheck.symm.trans haccept
        | ok _ =>
            simp only [Except.bind, Except.map, Except.mapError, hcheck, Except.ok.injEq]
            constructor
            · rintro rfl
              exact ⟨hsome, rfl, hcheck⟩
            · exact fun h => h.2.1

/--
A request is accepted if something is installed, if its names are known and
installed, and if nothing that stays is recorded to need one of them.
-/
theorem removalFor_eq_ok_iff {catalog installed : Roster} {request names : List Text} :
    removalFor catalog installed request = .ok names ↔
      installed.names ≠ [] ∧ (∀ n ∈ request, n ∈ catalog.names) ∧
        (∀ n ∈ request, n ∈ installed.names) ∧ Unneeded installed request ∧
          names = request.eraseDups := by
  have hsize : installed.size ≠ 0 ↔ installed.names ≠ [] := by
    rw [← Roster.length_names, Ne, List.length_eq_zero_iff]
  have hsame : ∀ n, n ∈ request.eraseDups ↔ n ∈ request := fun n => List.mem_eraseDups
  rw [removalFor_eq_ok_iff_checked, hsize, explicit_eq_ok_iff, check_eq_ok_iff]
  constructor
  · rintro ⟨hsome, ⟨hknown, hpresent, rfl⟩, hunneeded⟩
    exact ⟨hsome, hknown, hpresent, hunneeded.congr fun n => (hsame n).symm, rfl⟩
  · rintro ⟨hsome, hknown, hpresent, hunneeded, rfl⟩
    exact ⟨hsome, ⟨hknown, hpresent, rfl⟩, hunneeded.congr hsame⟩

end ModuleKeeper.Removal
