import ModuleKeeper.Roster

/-!
# Install plans

What an install adds: the modules that were asked for and the dependencies
that they imply. By default only the dependencies that the requested modules
declare themselves are implied.

## Main results

* `mem_unseen_iff`: the dependencies still to be added are neither installed nor seen.
* `unseen_nodup`: none of them comes twice.
* `implied_nodup`: the implied dependencies are distinct.
-/

namespace ModuleKeeper.Install

/-- What an install adds, in order; names are of the type `ν`. -/
structure Plan (ν : Type) where
  requested : List ν
  implied : List ν
  deriving DecidableEq, Inhabited

namespace Plan

variable {ν : Type}

/-- All modules of a plan. -/
def modules (p : Plan ν) : List ν := p.requested ++ p.implied

/-- Whether a plan adds nothing. -/
def isEmpty (p : Plan ν) : Bool := p.requested.isEmpty && p.implied.isEmpty

/-- A plan with other names. -/
def map {μ : Type} (f : ν → μ) (p : Plan ν) : Plan μ := ⟨p.requested.map f, p.implied.map f⟩

theorem modules_map {μ : Type} (f : ν → μ) (p : Plan ν) :
    (p.map f).modules = p.modules.map f := by
  simp [map, modules]

theorem isEmpty_iff {p : Plan ν} : p.isEmpty = true ↔ p.modules = [] := by
  simp [isEmpty, modules]

end Plan

/-- The names that are neither installed nor among `seen`, each at its first place. -/
def unseen (installed : Roster) (seen : List Text) : List Text → List Text
  | [] => []
  | d :: ds =>
    if installed.has d ∨ d ∈ seen then unseen installed seen ds
    else d :: unseen installed (d :: seen) ds

theorem mem_unseen_iff {installed : Roster} {seen names : List Text} {d : Text} :
    d ∈ unseen installed seen names ↔ d ∈ names ∧ d ∉ installed.names ∧ d ∉ seen := by
  induction names generalizing seen with
  | nil => simp [unseen]
  | cons x xs ih =>
    rw [unseen]
    by_cases hx : installed.has x = true ∨ x ∈ seen
    · rw [if_pos hx, ih]
      rw [Roster.has_iff] at hx
      constructor
      · rintro ⟨h, hi, hs⟩
        exact ⟨List.mem_cons_of_mem _ h, hi, hs⟩
      · rintro ⟨h, hi, hs⟩
        rcases List.mem_cons.1 h with rfl | h
        · rcases hx with hx | hx
          · exact absurd hx hi
          · exact absurd hx hs
        · exact ⟨h, hi, hs⟩
    · rw [if_neg hx, List.mem_cons, ih]
      rw [Roster.has_iff] at hx
      constructor
      · rintro (rfl | ⟨h, hi, hs⟩)
        · exact ⟨List.mem_cons_self, fun h => hx (Or.inl h), fun h => hx (Or.inr h)⟩
        · exact ⟨List.mem_cons_of_mem _ h, hi, fun h => hs (List.mem_cons_of_mem _ h)⟩
      · rintro ⟨h, hi, hs⟩
        by_cases hd : d = x
        · exact Or.inl hd
        · rcases List.mem_cons.1 h with h | h
          · exact absurd h hd
          · exact Or.inr ⟨h, hi, by simp [hd, hs]⟩

theorem unseen_nodup (installed : Roster) (seen names : List Text) :
    (unseen installed seen names).Nodup := by
  induction names generalizing seen with
  | nil => exact List.nodup_nil
  | cons x xs ih =>
    rw [unseen]
    split
    · exact ih seen
    · rw [List.nodup_cons]
      refine ⟨?_, ih _⟩
      rw [mem_unseen_iff]
      simp

/-- The dependencies that the modules of a list declare and that are still missing. -/
def implied (catalog installed : Roster) (names : List Text) : List Text :=
  unseen installed names (names.flatMap catalog.dependenciesOf)

theorem implied_nodup (catalog installed : Roster) (names : List Text) :
    (implied catalog installed names).Nodup := unseen_nodup _ _ _

end ModuleKeeper.Install
