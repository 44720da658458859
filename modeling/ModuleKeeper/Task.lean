import ModuleKeeper.Fault
import ModuleKeeper.Notice

/-!
# Tasks

A task runs in some monad of effects and ends with a result or a failure. The
monad is a parameter: the program runs its tasks against a network and a
terminal, a proof runs the same tasks against a state that it can look into.

## Main results

* `run_ofExcept`: a computed outcome is the outcome of its task.
-/

namespace ModuleKeeper

/-- A task with the effects `m` and a result of type `α`. -/
abbrev Task (m : Type → Type) (α : Type) : Type := ExceptT Failure m α

/-- A place to which notices go. -/
abbrev Reporter (m : Type → Type) : Type := Notice → m Unit

namespace Task

variable {m : Type → Type} [Monad m] {α ε : Type}

/-- The task that fails. -/
def fail (f : Failure) : Task m α := ExceptT.mk (pure (.error f))

/-- The task whose outcome is computed already. -/
def ofExcept (wrap : ε → Failure) (x : Except ε α) : Task m α :=
  ExceptT.mk (pure (x.mapError wrap))

/-- The task that only acts. -/
def act (a : m α) : Task m α := ExceptT.lift a

/-- The task that reports notices in order. -/
def report (reporter : Reporter m) (notices : List Notice) : Task m Unit :=
  act (notices.forM reporter)

@[simp] theorem run_ofExcept (wrap : ε → Failure) (x : Except ε α) :
    (ofExcept wrap x : Task m α).run = pure (x.mapError wrap) := rfl

end Task

end ModuleKeeper
