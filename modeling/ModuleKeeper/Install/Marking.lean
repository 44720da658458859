import ModuleKeeper.Text

/-!
# Marking names

Searches mark the names that they have met. What is left to be met shrinks
with every name that is marked, and this is why the searches end.

## Main results

* `length_unmarked_cons_lt`: marking a name that was left makes fewer names left.
* `length_unmarked_append_add_le`: marking distinct names that were left uses up as many.
-/

namespace ModuleKeeper.Install

/-- The names of a list that are not marked. -/
def unmarked (names marked : List Text) : List Text := names.filter (· ∉ marked)

theorem length_unmarked_cons_le (names marked : List Text) (name : Text) :
    (unmarked names (name :: marked)).length ≤ (unmarked names marked).length := by
  unfold unmarked
  rw [← List.countP_eq_length_filter, ← List.countP_eq_length_filter]
  apply List.countP_mono_left
  intro y _ hy
  simp only [List.mem_cons, not_or, decide_eq_true_eq] at hy ⊢
  exact hy.2

theorem length_unmarked_cons_lt {names marked : List Text} {name : Text} (hn : name ∈ names)
    (hm : name ∉ marked) :
    (unmarked names (name :: marked)).length < (unmarked names marked).length := by
  induction names with
  | nil => cases hn
  | cons x xs ih =>
    by_cases hx : name = x
    · subst hx
      have := length_unmarked_cons_le xs marked name
      simp [unmarked, hm] at this ⊢
      omega
    · have ih := ih ((List.mem_cons.1 hn).resolve_left hx)
      by_cases hxs : x ∈ marked
      · simp [unmarked, hxs] at ih ⊢
        exact ih
      · simp [unmarked, hxs, Ne.symm hx] at ih ⊢
        exact ih

theorem unmarked_append_cons (names marked new : List Text) (name : Text) :
    unmarked names (marked ++ name :: new) = unmarked names ((name :: marked) ++ new) := by
  apply List.filter_congr
  intro x _
  simp only [List.mem_append, List.mem_cons, not_or, decide_eq_decide]
  constructor
  · rintro ⟨h1, h2, h3⟩; exact ⟨⟨h2, h1⟩, h3⟩
  · rintro ⟨⟨h2, h1⟩, h3⟩; exact ⟨h1, h2, h3⟩

theorem length_unmarked_append_add_le {names marked new : List Text} (hn : new.Nodup)
    (hd : ∀ d ∈ new, d ∈ names ∧ d ∉ marked) :
    (unmarked names (marked ++ new)).length + new.length ≤ (unmarked names marked).length := by
  induction new generalizing marked with
  | nil => simp
  | cons d ds ih =>
    have hds := @ih (d :: marked) (List.nodup_cons.1 hn).2 (by
      intro x hx
      refine ⟨(hd x (List.mem_cons_of_mem _ hx)).1, ?_⟩
      simp only [List.mem_cons, not_or]
      exact ⟨fun h => (List.nodup_cons.1 hn).1 (h ▸ hx), (hd x (List.mem_cons_of_mem _ hx)).2⟩)
    have hlt := length_unmarked_cons_lt (hd d List.mem_cons_self).1 (hd d List.mem_cons_self).2
    rw [unmarked_append_cons, List.length_cons]
    omega

end ModuleKeeper.Install
