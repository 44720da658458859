import Mathlib.Data.Fintype.Pigeonhole
import ModuleKeeper.Proofs.Merging
import ModuleKeeper.Yaml.Assembly

/-!
# The text that a mapping stands for

A mapping may name one of its values to stand for it where a text is needed,
and that value may be a mapping again.  Such a chain ends at a scalar or at a
node that names nothing, or it goes round.  The search for the text looks at one
node more than there are, and this is enough: a chain that long goes round.

## Main results

* `exists_of_textOf`: a text that is found is that of a scalar.
* `endless_of_textOf`: a search that goes on for all of the nodes goes on for ever.
-/

namespace ModuleKeeper.Yaml.Assembly

open Node Node.Table

variable {t : Table} {n : Nat}

/-- The node that a mapping names to stand for it. -/
def namedBy? (t : Table) (n : Nat) : Option Nat :=
  ((entries t n).find? fun e => (get t e.1).tag = Tag.value).map (·.2)

/-- The node that stands for a node, which is itself if it names none. -/
def standIn (t : Table) (n : Nat) : Nat := (namedBy? t n).getD n

theorem lt_size_of_namedBy? {m : Nat} (h : namedBy? t n = some m) : n < t.size := by
  obtain ⟨e, he, -⟩ := Option.map_eq_some_iff.1 h
  obtain ⟨tag, hnode⟩ := exists_mapping_of_mem (List.mem_of_find?_eq_some he)
  exact lt_of_get_mapping hnode

/-- The search goes on exactly from a mapping that names a node. -/
theorem textOf_succ_eq_endless_iff {depth : Nat} : textOf t (depth + 1) n = .error .endless ↔
    (namedBy? t n).isSome ∧ textOf t depth (standIn t n) = .error .endless := by
  conv_lhs => rw [textOf]
  unfold standIn namedBy? entries
  cases get t n with
  | scalar tag cs => exact iff_of_false nofun nofun
  | sequence tag ns => exact iff_of_false nofun nofun
  | mapping tag es =>
      dsimp only
      cases es.find? fun e => (get t e.1).tag = Tag.value with
      | none => exact iff_of_false nofun nofun
      | some e => exact (and_iff_right rfl).symm

theorem textOf_eq_endless_iff (depth : Nat) : textOf t depth n = .error .endless ↔
    ∀ k < depth, (namedBy? t ((standIn t)^[k] n)).isSome := by
  induction depth generalizing n with
  | zero => exact iff_of_true rfl nofun
  | succ depth ih =>
      rw [textOf_succ_eq_endless_iff, ih]
      constructor
      · rintro ⟨hfirst, hrest⟩ k hk
        cases k with
        | zero => exact hfirst
        | succ k => exact hrest k (Nat.lt_of_succ_lt_succ hk)
      · intro h
        exact ⟨h 0 (Nat.succ_pos _), fun k hk => h (k + 1) (Nat.succ_lt_succ hk)⟩

/-- A chain that is longer than there are nodes comes to a node twice. -/
theorem exists_repetition (h : ∀ k < t.size + 1, (namedBy? t ((standIn t)^[k] n)).isSome) :
    ∃ i j, i < j ∧ j < t.size + 1 ∧ (standIn t)^[i] n = (standIn t)^[j] n := by
  have hmem : ∀ k ∈ Finset.range (t.size + 1), (standIn t)^[k] n ∈ Finset.range t.size := by
    intro k hk
    obtain ⟨m, hm⟩ := Option.isSome_iff_exists.1 (h k (Finset.mem_range.1 hk))
    exact Finset.mem_range.2 (lt_size_of_namedBy? hm)
  have hcard : (Finset.range t.size).card < (Finset.range (t.size + 1)).card := by
    rw [Finset.card_range, Finset.card_range]
    exact Nat.lt_succ_self _
  obtain ⟨i, hi, j, hj, hne, heq⟩ := Finset.exists_ne_map_eq_of_card_lt_of_maps_to hcard hmem
  rw [Finset.mem_range] at hi hj
  rcases Nat.lt_or_gt_of_ne hne with hlt | hlt
  · exact ⟨i, j, hlt, hj, heq⟩
  · exact ⟨j, i, hlt, hi, heq.symm⟩

/-- A chain that comes to a node twice has no other nodes than those on the way. -/
theorem named_of_repetition {f : Nat → Nat} {p : Nat → Prop} {i j : Nat} (hij : i < j)
    (hrepeat : f^[i] n = f^[j] n) (h : ∀ k < j, p (f^[k] n)) (k : Nat) : p (f^[k] n) := by
  induction k using Nat.strong_induction_on with
  | _ k ih =>
      by_cases hk : k < j
      · exact h k hk
      · -- Behind the repetition the chain is where it was one round before.
        have hback : f^[k] n = f^[k - j + i] n := by
          rw [Function.iterate_add_apply, hrepeat, ← Function.iterate_add_apply,
            Nat.sub_add_cancel (Nat.le_of_not_lt hk)]
        rw [hback]
        exact ih _ (by omega)

/-- A search for a text that looks at one node more than there are never ends. -/
theorem endless_of_textOf (h : textOf t (t.size + 1) n = .error .endless) (depth : Nat) :
    textOf t depth n = .error .endless := by
  rw [textOf_eq_endless_iff] at h ⊢
  obtain ⟨i, j, hij, hj, hrepeat⟩ := exists_repetition h
  intro k hk
  exact named_of_repetition (p := fun m => (namedBy? t m).isSome) hij hrepeat
    (fun k hk => h k (Nat.lt_trans hk hj)) k

theorem textOf_error {depth : Nat} {x : Trouble} (h : textOf t depth n = .error x) :
    x = .malformed ∨ x = .endless := by
  induction depth generalizing n with
  | zero => exact .inr (Except.error.inj h).symm
  | succ depth ih =>
      unfold textOf at h
      split at h
      · cases h
      · split at h
        · exact ih h
        · exact .inl (Except.error.inj h).symm
      · exact .inl (Except.error.inj h).symm

/-- A text that is found is that of a scalar: of the node itself unless that is a mapping. -/
theorem exists_of_textOf {depth : Nat} {cs : List CodePoint} (h : textOf t depth n = .ok cs) :
    ∃ m tag, get t m = .scalar tag cs ∧ (m = n ∨ ∃ tag es, get t n = .mapping tag es) := by
  induction depth generalizing n with
  | zero => cases h
  | succ depth ih =>
      unfold textOf at h
      split at h
      · rename_i tag text hnode
        cases h
        exact ⟨n, tag, hnode, .inl rfl⟩
      · rename_i tag es hnode
        split at h
        · obtain ⟨m, tag', hscalar, -⟩ := ih h
          exact ⟨m, tag', hscalar, .inr ⟨tag, es, hnode⟩⟩
        · cases h
      · cases h

end ModuleKeeper.Yaml.Assembly
