import ModuleKeeper.Scene
import ModuleKeeper.Task

/-!
# Tasks that run in a state

A task whose effects are those of a state takes a state to an outcome and a
state.  `Ensures` says of such a task what holds when it has succeeded and
what holds when it has failed, if something holds before.  A failure does not
undo anything, so each step of a task has to say what it leaves behind.

In a scene only requests reach the service.  `Keeps` is for the tasks that
leave the service as it is, as far as a statement about it goes: reports and
questions do, and so does what is put together of such tasks.

## Main results

* `runIn_bind_eq_ok`, `runIn_bind_eq_error`, `runIn_bind_cases`: how two steps succeed and how
  they fail.
* `Ensures.bind`: two steps, one after the other.
* `Keeps.andThen`: what was found before is known behind.
* `Keeps.ask`: what the user does is no matter of the service.
-/

namespace ModuleKeeper.Task

variable {σ α β ε : Type}

/-- The outcome of a task that starts in a state, and the state after it. -/
def runIn (t : Task (StateM σ) α) (s : σ) : Except Failure α × σ := t.run.run s

/-- What holds at the end of a task: one thing after a success, another one after a failure. -/
def Ends (succeeded : α → σ → Prop) (failed : σ → Prop) : Except Failure α × σ → Prop
  | (.ok a, s) => succeeded a s
  | (.error _, s) => failed s

/-- A task that starts where `before` holds ends as stated. -/
def Ensures (before : σ → Prop) (t : Task (StateM σ) α) (succeeded : α → σ → Prop)
    (failed : σ → Prop) : Prop :=
  ∀ s, before s → Ends succeeded failed (t.runIn s)

theorem runIn_bind (t : Task (StateM σ) α) (f : α → Task (StateM σ) β) (s : σ) :
    runIn (t >>= f) s =
      match t.runIn s with
      | (.ok a, s) => (f a).runIn s
      | (.error e, s) => (.error e, s) := by
  show runIn (ExceptT.bind t f) s = _
  unfold runIn ExceptT.bind
  simp only [ExceptT.run, ExceptT.mk, StateT.run_bind]
  show (match StateT.run t s with | (a, s) => _) = _
  rcases StateT.run t s with ⟨a | a, s⟩ <;> rfl

/-- Behind a success, two steps are what the second one is. -/
theorem runIn_bind_of_eq_ok {t : Task (StateM σ) α} {f : α → Task (StateM σ) β} {s : σ} {a : α}
    (h : (t.runIn s).1 = .ok a) : runIn (t >>= f) s = (f a).runIn (t.runIn s).2 := by
  rw [runIn_bind]
  rcases hrun : t.runIn s with ⟨x, s₁⟩
  rw [hrun] at h
  obtain rfl : x = .ok a := h
  rfl

/-- Two steps succeed if both do. -/
theorem runIn_bind_eq_ok {t : Task (StateM σ) α} {f : α → Task (StateM σ) β} {s s' : σ} {b : β} :
    runIn (t >>= f) s = (.ok b, s') ↔
      ∃ a s₁, t.runIn s = (.ok a, s₁) ∧ (f a).runIn s₁ = (.ok b, s') := by
  rw [runIn_bind]
  rcases t.runIn s with ⟨e | a, s₁⟩
  · simp
  · constructor
    · exact fun h => ⟨a, s₁, rfl, h⟩
    · rintro ⟨_, _, ⟨⟩, h⟩
      exact h

/-- Two steps fail if the first does, or if the second does behind a success of the first. -/
theorem runIn_bind_eq_error {t : Task (StateM σ) α} {f : α → Task (StateM σ) β} {s s' : σ}
    {e : Failure} :
    runIn (t >>= f) s = (.error e, s') ↔
      t.runIn s = (.error e, s') ∨
        ∃ a s₁, t.runIn s = (.ok a, s₁) ∧ (f a).runIn s₁ = (.error e, s') := by
  rw [runIn_bind]
  rcases t.runIn s with ⟨e | a, s₁⟩
  · simp
  · constructor
    · exact fun h => Or.inr ⟨a, s₁, rfl, h⟩
    · rintro (⟨⟨⟩⟩ | ⟨_, _, ⟨⟩, h⟩)
      exact h

/-- Two steps come to what the first comes to if it fails, and else to what the second does. -/
theorem runIn_bind_cases {t : Task (StateM σ) α} {f : α → Task (StateM σ) β} {s s' : σ}
    {o : Except Failure β} (h : runIn (t >>= f) s = (o, s')) :
    (∃ e, t.runIn s = (.error e, s') ∧ o = .error e) ∨
      ∃ a s₁, t.runIn s = (.ok a, s₁) ∧ (f a).runIn s₁ = (o, s') := by
  cases o with
  | ok b => exact Or.inr (runIn_bind_eq_ok.1 h)
  | error e =>
      rcases runIn_bind_eq_error.1 h with hfirst | hsecond
      · exact Or.inl ⟨e, hfirst, rfl⟩
      · exact Or.inr hsecond

/-- A run is known by its result if it has one. -/
theorem runIn_eq_ok {t : Task (StateM σ) α} {s : σ} {a : α}
    (h : (t.runIn s).1.toOption = some a) : t.runIn s = (.ok a, (t.runIn s).2) := by
  rcases hrun : t.runIn s with ⟨e | b, s'⟩
  · rw [hrun] at h
    cases h
  · rw [hrun] at h
    cases h
    rfl

@[simp] theorem runIn_pure (a : α) (s : σ) : runIn (Pure.pure a) s = (.ok a, s) := rfl

@[simp] theorem runIn_fail (f : Failure) (s : σ) : runIn (fail f : Task (StateM σ) α) s =
    (.error f, s) := rfl

@[simp] theorem runIn_ofExcept (wrap : ε → Failure) (x : Except ε α) (s : σ) :
    runIn (ofExcept wrap x : Task (StateM σ) α) s = (x.mapError wrap, s) := rfl

@[simp] theorem runIn_act (a : StateM σ α) (s : σ) :
    runIn (act a) s = (.ok (a.run s).1, (a.run s).2) := rfl

namespace Ensures

variable {before : σ → Prop} {succeeded : α → σ → Prop} {failed : σ → Prop}

theorem of_ok {t : Task (StateM σ) α} (h : Ensures before t succeeded failed) {s s' : σ} {a : α}
    (hs : before s) (hrun : t.runIn s = (.ok a, s')) : succeeded a s' := by
  have hend := h s hs
  rwa [hrun] at hend

theorem of_error {t : Task (StateM σ) α} (h : Ensures before t succeeded failed) {s s' : σ}
    {e : Failure} (hs : before s) (hrun : t.runIn s = (.error e, s')) : failed s' := by
  have hend := h s hs
  rwa [hrun] at hend

theorem pure {a : α} (h : ∀ s, before s → succeeded a s) :
    Ensures before (Pure.pure a) succeeded failed := fun s hs => h s hs

theorem fail {f : Failure} (h : ∀ s, before s → failed s) :
    Ensures before (Task.fail f) succeeded failed := fun s hs => h s hs

theorem bind {t : Task (StateM σ) α} {f : α → Task (StateM σ) β} {between : α → σ → Prop}
    {succeeded : β → σ → Prop} (ht : Ensures before t between failed)
    (hf : ∀ a, Ensures (between a) (f a) succeeded failed) :
    Ensures before (t >>= f) succeeded failed := by
  intro s hs
  rw [runIn_bind]
  rcases hrun : t.runIn s with ⟨e | a, s'⟩
  · exact ht.of_error hs hrun
  · exact hf a s' (ht.of_ok hs hrun)

/-- A computed outcome changes nothing, and what was computed is known behind it. -/
theorem ofExcept {wrap : ε → Failure} {x : Except ε α}
    (hok : ∀ a, x = .ok a → ∀ s, before s → succeeded a s)
    (herror : ∀ s, before s → failed s) :
    Ensures before (Task.ofExcept wrap x) succeeded failed := by
  intro s hs
  cases x with
  | ok a => exact hok a rfl s hs
  | error e => exact herror s hs

theorem act {a : StateM σ α} (h : ∀ s, before s → succeeded (a.run s).1 (a.run s).2) :
    Ensures before (Task.act a) succeeded failed := fun s hs => h s hs

theorem mono {t : Task (StateM σ) α} {before' : σ → Prop} {succeeded' : α → σ → Prop}
    {failed' : σ → Prop} (h : Ensures before t succeeded failed)
    (hbefore : ∀ s, before' s → before s) (hok : ∀ a s, succeeded a s → succeeded' a s)
    (herror : ∀ s, failed s → failed' s) : Ensures before' t succeeded' failed' := by
  intro s hs
  rcases hrun : t.runIn s with ⟨e | a, s'⟩
  · exact herror s' (h.of_error (hbefore s hs) hrun)
  · exact hok a s' (h.of_ok (hbefore s hs) hrun)

end Ensures

/-! ## Failures that do not occur -/

/-- The task never ends with the failure `f`. -/
def Avoids (t : Task (StateM σ) α) (f : Failure) : Prop := ∀ s, (t.runIn s).1 ≠ .error f

/-- Whatever a computation fails with, it is no halt. -/
def Unhalting (x : Except Failure α) : Prop := ∀ h, x ≠ .error (.halt h)

namespace Avoids

variable {f : Failure}

theorem pure (a : α) : Avoids (σ := σ) (Pure.pure a) f := fun _ h => nomatch h

theorem fail {g : Failure} (h : g ≠ f) : Avoids (σ := σ) (α := α) (Task.fail g) f :=
  fun _ hrun => h (Except.error.inj hrun)

theorem ofExcept {wrap : ε → Failure} {x : Except ε α}
    (h : ∀ e, x = .error e → wrap e ≠ f) : Avoids (σ := σ) (Task.ofExcept wrap x) f := by
  intro s hrun
  cases x with
  | ok a => cases hrun
  | error e => exact h e rfl (Except.error.inj hrun)

theorem ofExcept_id {x : Except Failure α} {h : Halt} (hx : Unhalting x) :
    Avoids (σ := σ) (Task.ofExcept id x) (.halt h) :=
  ofExcept fun _ hf hhalt => hx h (hf.trans (congrArg Except.error hhalt))

theorem act (a : StateM σ α) : Avoids (Task.act a) f := fun _ h => nomatch h

/-- What an action gives may be all that keeps the rest from a failure. -/
theorem act_bind {a : StateM σ α} {next : α → Task (StateM σ) β}
    (h : ∀ s, Avoids (next (a.run s).1) f) : Avoids (Task.act a >>= next) f := by
  intro s
  rw [runIn_bind, runIn_act]
  exact h s (a.run s).2

theorem report (reporter : Reporter (StateM σ)) (notices : List Notice) :
    Avoids (Task.report reporter notices) f := act _

theorem bind {t : Task (StateM σ) α} {next : α → Task (StateM σ) β} (ht : Avoids t f)
    (hnext : ∀ a, Avoids (next a) f) : Avoids (t >>= next) f := by
  intro s hrun
  rcases runIn_bind_eq_error.1 (Prod.ext hrun rfl) with hfirst | ⟨a, s₁, -, hsecond⟩
  · exact ht s (by rw [hfirst])
  · exact hnext a s₁ (by rw [hsecond])

end Avoids

/-! ## Scenes -/

section Scenes

variable {ρ υ : Type}

/-- The service of a scene is in a state of which `p` holds. -/
def Served (p : ρ → Prop) (s : Scene ρ υ) : Prop := p s.service

theorem service_forM_note (notices : List Notice) (s : Scene ρ υ) :
    ((notices.forM Scene.note : StateM (Scene ρ υ) Unit).run s).2.service = s.service := by
  induction notices generalizing s with
  | nil => rfl
  | cons n ns ih => exact ih { s with notices := s.notices ++ [n] }

/-- A report never fails. -/
theorem Ensures.report (p : ρ → Prop) (notices : List Notice) {failed : Scene ρ υ → Prop} :
    Ensures (Served p) (Task.report (Scene.note (ρ := ρ) (υ := υ)) notices) (fun _ => Served p)
      failed := by
  refine Ensures.act fun s hs => ?_
  unfold Served
  rw [service_forM_note]
  exact hs

/--
The task leaves the service in a state of which `p` holds, whatever comes of
it, and what it comes to is a result with `good`.
-/
def Keeps (p : ρ → Prop) (t : Task (StateM (Scene ρ υ)) α) (good : α → Prop) : Prop :=
  Ensures (Served p) t (fun a s => good a ∧ Served p s) (Served p)

theorem Avoids.ask {act : υ → Except Failure α × υ} {f : Failure}
    (h : ∀ u, (act u).1 ≠ .error f) :
    Avoids (ExceptT.mk (Scene.ask (ρ := ρ) act)) f := fun s => h s.user

namespace Keeps

variable {p : ρ → Prop} {good : α → Prop}

theorem pure {a : α} (h : good a) : Keeps (υ := υ) p (Pure.pure a) good :=
  Ensures.pure fun _ hs => ⟨h, hs⟩

theorem fail (f : Failure) : Keeps (υ := υ) p (Task.fail f) good :=
  Ensures.fail fun _ hs => hs

theorem ofExcept {wrap : ε → Failure} {x : Except ε α} (h : ∀ a, x = .ok a → good a) :
    Keeps (υ := υ) p (Task.ofExcept wrap x) good :=
  Ensures.ofExcept (fun a ha _ hs => ⟨h a ha, hs⟩) fun _ hs => hs

theorem report (p : ρ → Prop) (notices : List Notice) :
    Keeps p (Task.report (Scene.note (ρ := ρ) (υ := υ)) notices) fun _ => True :=
  (Ensures.report p notices).mono (fun _ hs => hs) (fun _ _ hs => ⟨trivial, hs⟩) fun _ hs => hs

/-- What the user does is no matter of the service. -/
theorem ask (p : ρ → Prop) (act : υ → Except Failure α × υ) :
    Keeps p (ExceptT.mk (Scene.ask (ρ := ρ) act)) fun _ => True := by
  intro s hs
  show Ends _ _ ((act s.user).1, ({ s with user := (act s.user).2 } : Scene ρ υ))
  cases (act s.user).1 with
  | ok a => exact ⟨trivial, hs⟩
  | error f => exact hs

/-- What a first task found is known to whatever comes behind it. -/
theorem andThen {t : Task (StateM (Scene ρ υ)) α} {f : α → Task (StateM (Scene ρ υ)) β}
    {succeeded : β → Scene ρ υ → Prop} {failed : Scene ρ υ → Prop} (ht : Keeps p t good)
    (hfailed : ∀ s, Served p s → failed s)
    (hf : ∀ a, good a → Ensures (Served p) (f a) succeeded failed) :
    Ensures (Served p) (t >>= f) succeeded failed := by
  refine Ensures.bind (ht.mono (fun _ hs => hs) (fun _ _ hs => hs) hfailed) fun a s hs => ?_
  exact hf a hs.1 s hs.2

theorem bind {t : Task (StateM (Scene ρ υ)) α} {f : α → Task (StateM (Scene ρ υ)) β}
    {good' : β → Prop} (ht : Keeps p t good) (hf : ∀ a, good a → Keeps p (f a) good') :
    Keeps p (t >>= f) good' :=
  ht.andThen (fun _ hs => hs) hf

end Keeps

end Scenes

end ModuleKeeper.Task
