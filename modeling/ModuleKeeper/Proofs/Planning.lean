import Mathlib.Data.List.Perm.Subperm
import ModuleKeeper.Proofs.Cycle
import ModuleKeeper.Proofs.Screening

/-!
# Plans of explicit requests

What planning a request for texts comes to does not depend on the
surroundings: nobody is asked, and notices only go out.  `planFor` is this
outcome, and `run_plan_some` says that every run of the planner has it.

For a request of catalog names that are not installed, a transitive plan is
one list of names, the hull of the request, or a refusal for a cycle inside
the hull (`planFor_verdict`).

## Main results

* `run_plan_some`: every run of the planner has the outcome `planFor`.
* `planFor_verdict`: the outcome of an acceptable transitive request.
* `isExhausted_iff`: among catalog names, equal numbers mean equal sets.
-/

namespace ModuleKeeper.Task

variable {m : Type → Type} [Monad m] [LawfulMonad m] {α β ε : Type}

theorem run_ofExcept_bind (wrap : ε → Failure) (x : Except ε α) (f : α → Task m β) :
    (ofExcept wrap x >>= f).run =
      match x with
      | .ok a => (f a).run
      | .error e => pure (.error (wrap e)) := by
  cases x with
  | ok a => simp [ExceptT.run_bind, Except.mapError]
  | error e => simp [ExceptT.run_bind, Except.mapError]

theorem run_report_bind (reporter : Reporter m) (notices : List Notice) (f : Unit → Task m β) :
    (report reporter notices >>= f).run = notices.forM reporter >>= fun _ => (f ()).run := by
  simp [report, act, ExceptT.run_bind]

end ModuleKeeper.Task

namespace ModuleKeeper.Install

/-! ## The outcome of an explicit request -/

/-- What planning a request for texts comes to, where notices go nowhere. -/
def planFor (catalog installed : Roster) (transitive : Bool) (request : List Text) :
    Except Failure (Plan Text) :=
  (plan (m := Id) (fun _ => pure ()) none transitive catalog installed (some request)).run

/-- The notices that go out before the outcome of an explicit request. -/
def planNotices (catalog installed : Roster) (transitive : Bool) (request : List Text) :
    List Notice :=
  if isExhausted catalog installed then []
  else
    match explicit catalog installed request with
    | .ok names => notices catalog installed transitive names
    | .error _ => []

/-- The planner in steps: the numbers are compared, the names accepted, the notices sent. -/
theorem run_plan_steps {m : Type → Type} [Monad m] [LawfulMonad m] (reporter : Reporter m)
    (prompter : Option (Prompter m)) (transitive : Bool) (catalog installed : Roster)
    (request : List Text) :
    (plan reporter prompter transitive catalog installed (some request)).run =
      (planNotices catalog installed transitive request).forM reporter >>= fun _ =>
        pure (if isExhausted catalog installed then .error (.halt .allInstalled)
          else ((explicit catalog installed request).bind
            (complete catalog installed transitive)).mapError Failure.fault) := by
  unfold plan planNotices
  split
  · simp [Task.fail]
  · dsimp only
    rw [Task.run_ofExcept_bind]
    cases explicit catalog installed request with
    | error f => simp [Except.bind, Except.mapError]
    | ok names =>
        dsimp only
        rw [Task.run_report_bind]
        rfl

theorem planFor_eq (catalog installed : Roster) (transitive : Bool) (request : List Text) :
    planFor catalog installed transitive request =
      if isExhausted catalog installed then .error (.halt .allInstalled)
      else ((explicit catalog installed request).bind
        (complete catalog installed transitive)).mapError Failure.fault := by
  unfold planFor
  rw [run_plan_steps]
  rfl

/-- Every run of the planner on an explicit request comes to the same outcome. -/
theorem run_plan_some {m : Type → Type} [Monad m] [LawfulMonad m] (reporter : Reporter m)
    (prompter : Option (Prompter m)) (transitive : Bool) (catalog installed : Roster)
    (request : List Text) :
    (plan reporter prompter transitive catalog installed (some request)).run =
      (planNotices catalog installed transitive request).forM reporter >>= fun _ =>
        pure (planFor catalog installed transitive request) := by
  rw [run_plan_steps, planFor_eq]

/-! ## Acceptable requests -/

theorem planFor_transitive {catalog installed : Roster} {request : List Text}
    (hroom : isExhausted catalog installed = false) (hcat : ∀ n ∈ request, n ∈ catalog.names)
    (hfree : ∀ n ∈ request, n ∉ installed.names) :
    planFor catalog installed true request =
      match cycle? catalog (hull catalog installed request.eraseDups) with
      | some path => .error (.fault (.cycle path))
      | none => .ok ⟨request.eraseDups, closure catalog installed request.eraseDups⟩ := by
  rw [planFor_eq, hroom, explicit_eq_ok_iff.2 ⟨hcat, hfree, rfl⟩]
  simp only [Except.bind, complete, additions_true]
  cases cycle? catalog (hull catalog installed request.eraseDups) <;> rfl

/-- A plan that a transitive request is completed to consists of the hull of the request. -/
theorem modules_of_complete {catalog installed : Roster} {names : List Text} {plan : Plan Text}
    (h : complete catalog installed true names = .ok plan) :
    plan.modules = hull catalog installed names := by
  unfold complete at h
  cases hadded : additions catalog installed true names with
  | error e =>
      rw [hadded] at h
      cases h
  | ok added =>
      rw [hadded] at h
      obtain rfl := Except.ok.inj h
      rw [eq_closure_of_additions hadded]
      rfl

/--
The outcomes of an acceptable transitive request that comes to the names
`nodes`: a refusal if they contain a cycle, and otherwise a plan of them all.
-/
inductive Verdict (catalog : Roster) (nodes : List Text) : Except Failure (Plan Text) → Prop where
  | refused (path : List Text) (hcyclic : Cyclic catalog nodes) :
      Verdict catalog nodes (.error (.fault (.cycle path)))
  | planned (plan : Plan Text) (hacyclic : ¬Cyclic catalog nodes)
      (hmodules : plan.modules = nodes) : Verdict catalog nodes (.ok plan)

theorem planFor_verdict {catalog installed : Roster} {request : List Text}
    (hroom : isExhausted catalog installed = false) (hcat : ∀ n ∈ request, n ∈ catalog.names)
    (hfree : ∀ n ∈ request, n ∉ installed.names) :
    Verdict catalog (hull catalog installed request.eraseDups)
      (planFor catalog installed true request) := by
  rw [planFor_transitive hroom hcat hfree]
  cases h : cycle? catalog (hull catalog installed request.eraseDups) with
  | some path => exact .refused path (simpleCycle_of_cycle? h).cyclic
  | none => exact .planned _ (not_cyclic_of_cycle? h) rfl

/-- While only names of the catalog are installed, equal numbers mean that all of them are. -/
theorem isExhausted_iff {catalog installed : Roster}
    (h : ∀ n ∈ installed.names, n ∈ catalog.names) :
    isExhausted catalog installed = true ↔ ∀ n ∈ catalog.names, n ∈ installed.names := by
  have hsub : installed.names.Subperm catalog.names :=
    List.subperm_of_subset installed.names_nodup h
  have hsize : isExhausted catalog installed = true ↔
      installed.names.length = catalog.names.length := by
    simp [isExhausted]
  rw [hsize]
  constructor
  · intro hlen n hn
    exact (hsub.perm_of_length_le (Nat.le_of_eq hlen.symm)).mem_iff.2 hn
  · intro hall
    exact Nat.le_antisymm hsub.length_le
      (List.subperm_of_subset catalog.names_nodup hall).length_le

end ModuleKeeper.Install
