import ModuleKeeper.Settings.File

/-!
# The current settings

A program has at most one current record of settings. It is made with the
default settings when it is first asked for, its fields can be changed, and
loading settings replaces it by a new record, all or nothing. Who holds an old
record keeps it.

## Main results

* `get_load`: after loading, the current record holds what was loaded.
* `get_make_of_lt`: a new record leaves the others alone.
-/

namespace ModuleKeeper.Settings

/-- Records of settings by number, and which of them is the current one, if any. -/
structure Store where
  records : List Settings
  current : Option Nat
  current_lt : ∀ n ∈ current, n < records.length

namespace Store

/-- The store without records. -/
def empty : Store := ⟨[], none, by simp⟩

/-- The record of a number. -/
def get (s : Store) (n : Nat) : Settings := s.records.getD n default

/-- Adds a record. -/
def make (s : Store) (x : Settings) : Nat × Store :=
  (s.records.length, ⟨s.records ++ [x], s.current, fun n h => by
    rw [List.length_append]; exact Nat.lt_add_right _ (s.current_lt n h)⟩)

theorem get_make (s : Store) (x : Settings) : (s.make x).2.get (s.make x).1 = x := by
  simp [make, get]

theorem get_make_of_lt {s : Store} {n : Nat} (h : n < s.records.length) (x : Settings) :
    (s.make x).2.get n = s.get n := by
  simp [make, get, List.getElem?_append_left h]

/-- Adds a record and makes it the current one. -/
def install (s : Store) (x : Settings) : Nat × Store :=
  (s.records.length, ⟨s.records ++ [x], some s.records.length, by simp⟩)

theorem get_install (s : Store) (x : Settings) : (s.install x).2.get (s.install x).1 = x := by
  simp [install, get]

/-- The current record, with the default settings if there is none yet. -/
def now (s : Store) : Nat × Store :=
  match s.current with
  | some n => (n, s)
  | none => s.install default

theorem current_now (s : Store) : s.now.2.current = some s.now.1 := by
  unfold now
  split
  · rename_i n h; exact h
  · rfl

/-- Changes fields of the current record. -/
def change (s : Store) (fields : List (Text × Value)) : Nat × Store :=
  let (n, s) := s.now
  (n, ⟨s.records.set n ((s.get n).assign fields), s.current, by
    simpa using s.current_lt⟩)

/-- Loads settings into a new record, which becomes the current one if they are sound. -/
def load (s : Store) (path : Text) (finding : Finding) (env : Environment) :
    List Notice × Except Failure (Nat × Store) :=
  let (notices, result) := Settings.load path finding env
  (notices, result.map s.install)

theorem get_load {s t : Store} {n : Nat} {path : Text} {finding : Finding} {env : Environment}
    (h : (s.load path finding env).2 = .ok (n, t)) :
    (Settings.load path finding env).2 = .ok (t.get n) ∧ t.current = some n := by
  unfold load at h
  dsimp only at h
  cases hl : (Settings.load path finding env).2 with
  | error f => rw [hl] at h; cases h
  | ok x =>
    rw [hl] at h
    simp only [Except.map, Except.ok.injEq] at h
    obtain rfl : (s.install x).1 = n := by rw [h]
    obtain rfl : (s.install x).2 = t := by rw [h]
    exact ⟨by rw [get_install], rfl⟩

end Store

end ModuleKeeper.Settings
