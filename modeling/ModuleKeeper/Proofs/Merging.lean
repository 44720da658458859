import Mathlib.Algebra.BigOperators.Group.Finset.Basic
import Mathlib.Data.List.TakeWhile
import ModuleKeeper.Proofs.Firsts
import ModuleKeeper.Yaml.Merge

/-!
# What merging does to the nodes of a document

Merging changes nodes while they are merged, and a mapping may ask for its own
entries, so it is not plain that merging ends.  It does: every step takes one of
the entries away that ask for merging, and what is put in their place has none
of them left, because it comes from mappings that are merged already.

Little happens to the nodes on the way.  Scalars keep their text, nodes stay of
the kind that they are, and a tag changes only where the sign for a value
becomes a text.

## Main results

* `Kept.trans`, `kept_set`: what a node keeps.
* `mergeCount_eq_sum`: the entries that ask for merging, counted node by node.
* `merges_dropMerge`: a step of merging takes one of them away.
* `merged_mergeFrom`: merging ends, and then nothing is left to merge.
-/

namespace ModuleKeeper.Yaml.Node

/-! ## What a node keeps -/

/-- The tag of a node after merging: only the sign for a value may have become a text. -/
def TagKept (old new : Text) : Prop := new = old ∨ old = Tag.value ∧ new = Tag.str

/-- A node after merging: of its kind, with its text or its items. -/
inductive Kept : Node → Node → Prop
  | scalar {old new : Text} {cs : List CodePoint} (h : TagKept old new) :
      Kept (.scalar old cs) (.scalar new cs)
  | sequence {old new : Text} {ns : List Nat} (h : TagKept old new) :
      Kept (.sequence old ns) (.sequence new ns)
  | mapping {old new : Text} {es es' : List (Nat × Nat)} (h : TagKept old new) :
      Kept (.mapping old es) (.mapping new es')

theorem value_ne_str : Tag.value ≠ Tag.str := by decide

theorem TagKept.trans {a b c : Text} (h : TagKept a b) (h' : TagKept b c) : TagKept a c := by
  rcases h with rfl | ⟨rfl, rfl⟩
  · exact h'
  · rcases h' with rfl | ⟨hvalue, -⟩
    · exact .inr ⟨rfl, rfl⟩
    · exact absurd hvalue.symm value_ne_str

/-- A tag that is no sign for a value and no text is the same before and behind. -/
theorem TagKept.iff {old new tag : Text} (h : TagKept old new) (hvalue : tag ≠ Tag.value)
    (hstr : tag ≠ Tag.str) : new = tag ↔ old = tag := by
  rcases h with rfl | ⟨rfl, rfl⟩
  · exact Iff.rfl
  · exact iff_of_false hstr.symm hvalue.symm

namespace Kept

variable {a b c : Node}

protected theorem refl (a : Node) : Kept a a := by
  cases a with
  | scalar tag cs => exact .scalar (.inl rfl)
  | sequence tag ns => exact .sequence (.inl rfl)
  | mapping tag es => exact .mapping (.inl rfl)

protected theorem trans (h : Kept a b) (h' : Kept b c) : Kept a c := by
  cases h with
  | scalar h =>
      cases h' with
      | scalar h' => exact .scalar (h.trans h')
  | sequence h =>
      cases h' with
      | sequence h' => exact .sequence (h.trans h')
  | mapping h =>
      cases h' with
      | mapping h' => exact .mapping (h.trans h')

theorem tag (h : Kept a b) : TagKept a.tag b.tag := by
  cases h with
  | scalar h => exact h
  | sequence h => exact h
  | mapping h => exact h

/-- The sign for a value becomes a text. -/
theorem withTag_str (h : a.tag = Tag.value) : Kept a (a.withTag Tag.str) := by
  cases a with
  | scalar tag cs => exact .scalar (.inr ⟨h, rfl⟩)
  | sequence tag ns => exact .sequence (.inr ⟨h, rfl⟩)
  | mapping tag es => exact .mapping (.inr ⟨h, rfl⟩)

end Kept

namespace Table

variable {t t' u : Table} {n m k : Nat}

/-! ## Changed nodes -/

theorem get_set_of_ne (h : m ≠ n) (node : Node) : get (set t n node) m = get t m := by
  simp [get, set, Array.getD_eq_getD_getElem?, Ne.symm h]

theorem set_of_size_le (h : t.size ≤ n) (node : Node) : set t n node = t :=
  Array.setIfInBounds_eq_of_size_le h

theorem size_set (t : Table) (n : Nat) (node : Node) : (set t n node).size = t.size :=
  Array.size_setIfInBounds

theorem lt_of_get_mapping {tag : Text} {es : List (Nat × Nat)} (h : get t n = .mapping tag es) :
    n < t.size := by
  by_contra hge
  have hblank : get t n = blank := by
    simp [get, Array.getD_eq_getD_getElem?, Array.getElem?_eq_none (Nat.le_of_not_lt hge)]
  rw [hblank] at h
  cases h

theorem kept_set {node : Node} (h : Kept (get t n) node) (m : Nat) :
    Kept (get t m) (get (set t n node) m) := by
  by_cases hsize : n < t.size
  · by_cases hm : m = n
    · subst hm
      rw [get_set hsize]
      exact h
    · rw [get_set_of_ne hm]
      exact .refl _
  · rw [set_of_size_le (Nat.le_of_not_lt hsize)]
    exact .refl _

theorem entries_set_of_ne (h : m ≠ n) (node : Node) : entries (set t n node) m = entries t m := by
  unfold entries
  rw [get_set_of_ne h]

/-- Only a mapping has entries. -/
theorem exists_mapping_of_mem {e : Nat × Nat} (h : e ∈ entries t n) :
    ∃ tag, get t n = .mapping tag (entries t n) := by
  unfold entries at h ⊢
  cases hnode : get t n with
  | scalar tag cs =>
      rw [hnode] at h
      cases h
  | sequence tag ns =>
      rw [hnode] at h
      cases h
  | mapping tag es => exact ⟨tag, rfl⟩

/-! ## Entries that ask for merging -/

/-- What asks for merging does so as long as nodes are kept. -/
theorem isMerge_congr (h : ∀ n, Kept (get t n) (get t' n)) (e : Nat × Nat) :
    isMerge t' e = isMerge t e := by
  have htag : (get t' e.1).tag = Tag.merge ↔ (get t e.1).tag = Tag.merge :=
    (h e.1).tag.iff (by decide) (by decide)
  unfold isMerge
  by_cases hold : (get t e.1).tag = Tag.merge
  · rw [decide_eq_true hold, decide_eq_true (htag.2 hold)]
  · rw [decide_eq_false hold, decide_eq_false fun hnew => hold (htag.1 hnew)]

/-- The number of entries of a mapping that ask for merging. -/
def mergesIn (t : Table) (n : Nat) : Nat := ((entries t n).filter (isMerge t)).length

theorem mergeCount_eq_sum (t : Table) : mergeCount t = ∑ n ∈ Finset.range t.size, mergesIn t n := by
  have hfold : ∀ size, (List.range size).foldl (fun k n => k + mergesIn t n) 0 =
      ∑ n ∈ Finset.range size, mergesIn t n := by
    intro size
    induction size with
    | zero => rfl
    | succ size ih =>
        rw [List.range_succ, List.foldl_append, ih, Finset.sum_range_succ]
        rfl
  exact hfold t.size

/-- Entries of which none asks for merging. -/
def Plain (t : Table) (es : List (Nat × Nat)) : Prop := ∀ e ∈ es, isMerge t e = false

theorem Plain.append {es fs : List (Nat × Nat)} (h : Plain t es) (h' : Plain t fs) :
    Plain t (es ++ fs) := by
  intro e he
  rcases List.mem_append.1 he with he | he
  · exact h e he
  · exact h' e he

/-! ## Merging -/

/-- What merging may do to nodes.  Entries that were passed do not ask for merging again. -/
structure Merges (t t' : Table) : Prop where
  size : t'.size = t.size
  kept : ∀ n, Kept (get t n) (get t' n)
  passed : ∀ n p, Plain t ((entries t n).take p) → Plain t' ((entries t' n).take p)
  count : mergeCount t' ≤ mergeCount t

namespace Merges

protected theorem refl (t : Table) : Merges t t :=
  ⟨rfl, fun _ => .refl _, fun _ _ h => h, Nat.le_refl _⟩

protected theorem trans (h : Merges t t') (h' : Merges t' u) : Merges t u :=
  { size := h'.size.trans h.size
    kept := fun n => (h.kept n).trans (h'.kept n)
    passed := fun n p hp => h'.passed n p (h.passed n p hp)
    count := Nat.le_trans h'.count h.count }

theorem plain (h : Merges t t') {es : List (Nat × Nat)} (hes : Plain t es) : Plain t' es := by
  intro e he
  rw [isMerge_congr h.kept]
  exact hes e he

theorem mapping (h : Merges t t') {tag : Text} {es : List (Nat × Nat)}
    (hnode : get t n = .mapping tag es) : ∃ tag es, get t' n = .mapping tag es := by
  have hkept := h.kept n
  rw [hnode] at hkept
  generalize get t' n = node at hkept
  cases hkept with
  | mapping htag => exact ⟨_, _, rfl⟩

/-- Nodes that keep their entries are merged as far as they were. -/
theorem of_entries (hsize : t'.size = t.size) (hkept : ∀ n, Kept (get t n) (get t' n))
    (hentries : ∀ n, entries t' n = entries t n) : Merges t t' := by
  have hmerge : isMerge t' = isMerge t := funext fun e => isMerge_congr hkept e
  refine ⟨hsize, hkept, ?_, ?_⟩
  · intro n p hp e he
    rw [hentries] at he
    rw [hmerge]
    exact hp e he
  · rw [mergeCount_eq_sum, mergeCount_eq_sum, hsize]
    refine Nat.le_of_eq (Finset.sum_congr rfl ?_)
    intro n hn
    rw [mergesIn, mergesIn, hentries, hmerge]

end Merges

/-! ### Keys -/

theorem entries_countKey (t : Table) (k n : Nat) : entries (countKey t k) n = entries t n := by
  unfold countKey
  split
  · by_cases hsize : k < t.size
    · by_cases hn : n = k
      · subst hn
        unfold entries
        rw [get_set hsize]
        cases get t n <;> rfl
      · exact entries_set_of_ne hn _
    · rw [set_of_size_le (Nat.le_of_not_lt hsize)]
  · rfl

theorem merges_countKey (t : Table) (k : Nat) : Merges t (countKey t k) := by
  refine .of_entries ?_ ?_ fun n => entries_countKey t k n
  · unfold countKey
    split
    · exact size_set t k _
    · rfl
  · intro n
    unfold countKey
    split
    · rename_i hvalue
      exact kept_set (Kept.withTag_str hvalue) n
    · exact .refl _

theorem merges_countKeys (t : Table) (es : List (Nat × Nat)) :
    Merges t (es.foldl (fun t e => countKey t e.1) t) := by
  induction es generalizing t with
  | nil => exact .refl t
  | cons e es ih => exact (merges_countKey t e.1).trans (ih (countKey t e.1))

theorem entries_countKeys (t : Table) (es : List (Nat × Nat)) (n : Nat) :
    entries (es.foldl (fun t e => countKey t e.1) t) n = entries t n := by
  induction es generalizing t with
  | nil => rfl
  | cons e es ih => exact (ih (countKey t e.1)).trans (entries_countKey t e.1 n)

/-! ### Entries -/

theorem kept_withEntries {tag : Text} {fs : List (Nat × Nat)} (hnode : get t n = .mapping tag fs)
    (es : List (Nat × Nat)) (m : Nat) : Kept (get t m) (get (withEntries t n es) m) := by
  apply kept_set
  rw [hnode]
  exact .mapping (.inl rfl)

theorem entries_withEntries_of_ne (h : m ≠ n) (es : List (Nat × Nat)) :
    entries (withEntries t n es) m = entries t m := entries_set_of_ne h _

/-- New entries of one mapping change the count by what they ask for. -/
theorem mergeCount_withEntries {tag : Text} {fs : List (Nat × Nat)}
    (hnode : get t n = .mapping tag fs) (es : List (Nat × Nat)) :
    mergeCount (withEntries t n es) + mergesIn t n =
      mergeCount t + (es.filter (isMerge t)).length := by
  have hsize := lt_of_get_mapping hnode
  have hmerge : isMerge (withEntries t n es) = isMerge t :=
    funext fun e => isMerge_congr (kept_withEntries hnode es) e
  have hself : mergesIn (withEntries t n es) n = (es.filter (isMerge t)).length := by
    rw [mergesIn, entries_withEntries hsize, hmerge]
  have hothers : ∑ m ∈ (Finset.range t.size).erase n, mergesIn (withEntries t n es) m =
      ∑ m ∈ (Finset.range t.size).erase n, mergesIn t m := by
    refine Finset.sum_congr rfl ?_
    intro m hm
    rw [mergesIn, mergesIn, entries_withEntries_of_ne (Finset.ne_of_mem_erase hm), hmerge]
  have hn : n ∈ Finset.range t.size := Finset.mem_range.2 hsize
  have hnew := Finset.add_sum_erase _ (fun m => mergesIn (withEntries t n es) m) hn
  have hold := Finset.add_sum_erase _ (fun m => mergesIn t m) hn
  rw [mergeCount_eq_sum, mergeCount_eq_sum, withEntries, size_set, ← withEntries]
  omega

/-- A mapping gets entries of which none asks for merging. -/
theorem merges_withEntries_of_plain {tag : Text} {fs : List (Nat × Nat)}
    (hnode : get t n = .mapping tag fs) {es : List (Nat × Nat)} (hes : Plain t es) :
    Merges t (withEntries t n es) := by
  have hkept := kept_withEntries hnode es
  have hplain : Plain (withEntries t n es) es := by
    intro e he
    rw [isMerge_congr hkept]
    exact hes e he
  refine ⟨size_set t n _, hkept, ?_, ?_⟩
  · intro m p hp e he
    by_cases hm : m = n
    · subst hm
      rw [entries_withEntries (lt_of_get_mapping hnode)] at he
      exact hplain e (List.mem_of_mem_take he)
    · rw [entries_withEntries_of_ne hm] at he
      rw [isMerge_congr hkept]
      exact hp e he
  · have hcount := mergeCount_withEntries hnode es
    have hnone : es.filter (isMerge t) = [] := by
      rw [List.filter_eq_nil_iff]
      intro e he
      rw [hes e he]
      exact Bool.false_ne_true
    rw [hnone, List.length_nil] at hcount
    omega

section DropMerge

variable {place : Nat} {e : Nat × Nat}

/-- An entry that asks for merging is taken away: nothing that was passed is touched. -/
theorem merges_dropMerge (he : (entries t n)[place]? = some e) (hmerge : isMerge t e = true) :
    Merges t (withEntries t n ((entries t n).eraseIdx place)) ∧
      mergeCount (withEntries t n ((entries t n).eraseIdx place)) < mergeCount t := by
  obtain ⟨tag, hnode⟩ := exists_mapping_of_mem (List.mem_of_getElem? he)
  have hkept := kept_withEntries hnode ((entries t n).eraseIdx place)
  have hlt : place < (entries t n).length := (List.getElem?_eq_some_iff.1 he).1
  have hsplit : (entries t n).filter (isMerge t) =
      ((entries t n).take place).filter (isMerge t) ++
        e :: ((entries t n).drop (place + 1)).filter (isMerge t) := by
    have hwhole : entries t n =
        (entries t n).take place ++ e :: (entries t n).drop (place + 1) := by
      have hdrop : (entries t n).drop place = e :: (entries t n).drop (place + 1) := by
        rw [List.drop_eq_getElem_cons hlt, (List.getElem?_eq_some_iff.1 he).2]
      rw [← hdrop, List.take_append_drop]
    conv_lhs => rw [hwhole]
    rw [List.filter_append, List.filter_cons_of_pos hmerge]
  have hcount : mergeCount (withEntries t n ((entries t n).eraseIdx place)) < mergeCount t := by
    have hsum := mergeCount_withEntries hnode ((entries t n).eraseIdx place)
    rw [mergesIn, hsplit, List.eraseIdx_eq_take_drop_succ, List.filter_append] at hsum
    simp only [List.length_append, List.length_cons] at hsum
    rw [List.eraseIdx_eq_take_drop_succ]
    omega
  refine ⟨⟨size_set t n _, hkept, ?_, Nat.le_of_lt hcount⟩, hcount⟩
  intro m p hp f hf
  rw [isMerge_congr hkept]
  by_cases hm : m = n
  · subst hm
    rw [entries_withEntries (lt_of_get_mapping hnode)] at hf
    by_cases hpassed : p ≤ place
    · rw [List.take_eraseIdx_eq_take_of_le _ _ _ hpassed] at hf
      exact hp f hf
    · have hmem : e ∈ (entries t m).take p := by
        apply List.mem_of_getElem? (i := place)
        rw [List.getElem?_take_of_lt (by omega)]
        exact he
      rw [hp e hmem] at hmerge
      cases hmerge
  · rw [entries_withEntries_of_ne hm] at hf
    exact hp f hf

/-- So it is behind keys that were counted on the way to the entry. -/
theorem merges_dropMerge_of_merges (hkeys : Merges t t') (hentries : entries t' n = entries t n)
    (he : (entries t n)[place]? = some e) (hmerge : isMerge t e = true) :
    Merges t (withEntries t' n ((entries t n).eraseIdx place)) ∧
      mergeCount (withEntries t' n ((entries t n).eraseIdx place)) < mergeCount t := by
  rw [← hentries] at he ⊢
  rw [← isMerge_congr hkeys.kept] at hmerge
  obtain ⟨hdrop, hless⟩ := merges_dropMerge he hmerge
  exact ⟨hkeys.trans hdrop, Nat.lt_of_lt_of_le hless hkeys.count⟩

end DropMerge

/-! ### The walk -/

/-- Merging ends: with nothing left to merge in a node, or with what is no document. -/
abbrev Merged (t : Table) (n : Nat) (outcome : Except Trouble Table) : Prop :=
  Comes (· = .malformed) (fun t' => Merges t t' ∧ Plain t' (entries t' n)) outcome

/-- Collecting ends: with entries that have nothing to merge, or with what is no document. -/
abbrev Collected (t : Table) (outcome : Except Trouble (List (Nat × Nat) × Table)) : Prop :=
  Comes (· = .malformed) (fun found => Merges t found.2 ∧ Plain found.2 found.1) outcome

theorem Merges.merged {outcome : Except Trouble Table} (h : Merges t t')
    (h' : Merged t' n outcome) : Merged t n outcome :=
  h'.imp (fun _ => id) fun _ hu => ⟨h.trans hu.1, hu.2⟩

theorem Merges.collected {outcome : Except Trouble (List (Nat × Nat) × Table)} (h : Merges t t')
    (h' : Collected t' outcome) : Collected t outcome :=
  h'.imp (fun _ => id) fun _ hfound => ⟨h.trans hfound.1, hfound.2⟩

/-- The entries of mappings are collected when these are merged. -/
theorem collected_collect {fuel : Nat} {merge : Table → Nat → Except Trouble Table}
    (hmerge : ∀ t n, mergeCount t < fuel → Merged t n (merge t n)) (ns : List Nat) :
    ∀ (done : List (Nat × Nat)) (t : Table), mergeCount t < fuel → Plain t done →
      Collected t (collect merge done t ns) := by
  induction ns with
  | nil =>
      intro done t hcount hdone
      exact ⟨.refl t, hdone⟩
  | cons n ns ih =>
      intro done t hcount hdone
      unfold collect
      cases get t n with
      | mapping tag es =>
          dsimp only
          refine (hmerge t n hcount).elim (fun _ => id) fun t' hstep => ?_
          obtain ⟨hmerges, hplain⟩ := hstep
          exact hmerges.collected (ih (entries t' n ++ done) t'
            (Nat.lt_of_le_of_lt hmerges.count hcount) (hplain.append (hmerges.plain hdone)))
      | _ => rfl

theorem isMerge_of_getElem?_takeWhile {es : List (Nat × Nat)} {e : Nat × Nat}
    (h : es[(es.takeWhile fun e => !isMerge t e).length]? = some e) : isMerge t e = true := by
  have hhead : (es.dropWhile fun e => !isMerge t e).head? = some e := by
    have hsplit : es = es.takeWhile (fun e => !isMerge t e) ++ es.dropWhile fun e => !isMerge t e :=
      List.takeWhile_append_dropWhile.symm
    generalize es.takeWhile (fun e => !isMerge t e) = front at h hsplit
    rw [hsplit, List.getElem?_append_right (Nat.le_refl _), Nat.sub_self,
      ← List.head?_eq_getElem?] at h
    exact h
  have hnot := List.head?_dropWhile_not (fun e => !isMerge t e) es
  rw [hhead] at hnot
  simpa using hnot

/-- What stands behind the entries that are passed asks for merging. -/
theorem isMerge_of_passed {start : Nat} {e : Nat × Nat}
    (h : (entries t n)[start +
      (((entries t n).drop start).takeWhile fun e => !isMerge t e).length]? = some e) :
    isMerge t e = true := by
  rw [← List.getElem?_drop] at h
  exact isMerge_of_getElem?_takeWhile h

/-- What is passed from a place on, together with what was passed before it. -/
theorem plain_take_passed {start : Nat} (h : Plain t ((entries t n).take start)) :
    Plain t ((entries t n).take
      (start + (((entries t n).drop start).takeWhile fun e => !isMerge t e).length)) := by
  rw [List.take_add]
  refine h.append ?_
  intro e he
  rw [← List.prefix_iff_eq_take.1 (List.takeWhile_prefix _)] at he
  have hnot := List.mem_takeWhile_imp he
  simpa using hnot

/-- Where nothing is left to merge, the collected entries are put before the others. -/
theorem merged_of_plain {done : List (Nat × Nat)} (hkeys : Merges t t')
    (hentries : entries t' n = entries t n) (hplain : Plain t (entries t n)) (hdone : Plain t done)
    (hmapping : done ≠ [] → ∃ tag es, get t n = .mapping tag es) :
    Merged t n (.ok (if done.isEmpty then t' else withEntries t' n (done ++ entries t n))) := by
  split
  · refine ⟨hkeys, ?_⟩
    rw [hentries]
    exact hkeys.plain hplain
  · rename_i hsome
    obtain ⟨tag, es, hnode⟩ := hmapping (by simpa using hsome)
    obtain ⟨tag', es', hnode'⟩ := hkeys.mapping hnode
    have hall : Plain t' (done ++ entries t n) := (hkeys.plain hdone).append (hkeys.plain hplain)
    have hset := merges_withEntries_of_plain hnode' hall
    refine ⟨hkeys.trans hset, ?_⟩
    rw [entries_withEntries (lt_of_get_mapping hnode')]
    exact hset.plain hall

/-- The steps are enough if there are more of them than entries that ask for merging. -/
theorem merged_mergeFrom (fuel : Nat) :
    ∀ (start : Nat) (done : List (Nat × Nat)) (t : Table) (n : Nat), mergeCount t < fuel →
      Plain t ((entries t n).take start) → Plain t done →
      (done ≠ [] → ∃ tag es, get t n = .mapping tag es) →
      Merged t n (mergeFrom fuel start done t n) := by
  -- Every step down takes an entry away that asks for merging, so the count stays below the fuel.
  induction fuel with
  | zero =>
      intro start done t n hcount
      exact absurd hcount (Nat.not_lt_zero _)
  | succ fuel ih =>
      intro start done t n hcount hbefore hdone hmapping
      have hfront := plain_take_passed hbefore
      unfold mergeFrom
      dsimp only
      generalize hpassed : ((entries t n).drop start).takeWhile (fun e => !isMerge t e) = passed
        at hfront ⊢
      have hkeys := merges_countKeys t passed
      have hentries : entries (passed.foldl (fun t e => countKey t e.1) t) n = entries t n :=
        entries_countKeys t passed n
      generalize passed.foldl (fun t e => countKey t e.1) t = t₁ at hkeys hentries ⊢
      cases hplace : (entries t n)[start + passed.length]? with
      | none =>
          rw [List.take_of_length_le (List.getElem?_eq_none_iff.1 hplace)] at hfront
          exact merged_of_plain hkeys hentries hfront hdone hmapping
      | some e =>
          have hmerge : isMerge t e = true := by
            rw [← hpassed] at hplace
            exact isMerge_of_passed hplace
          obtain ⟨tag, hnode⟩ := exists_mapping_of_mem (List.mem_of_getElem? hplace)
          obtain ⟨hstep, hdrop⟩ := merges_dropMerge_of_merges hkeys hentries hplace hmerge
          have hless := Nat.lt_of_lt_of_le hdrop (Nat.le_of_lt_succ hcount)
          dsimp only
          generalize withEntries t₁ n ((entries t n).eraseIdx (start + passed.length)) = t₂
            at hstep hless ⊢
          -- Whatever is found below the key, the walk goes on behind the place of the entry.
          have hrest : ∀ more u, Merges t₂ u → Plain u more →
              Merged t n (mergeFrom fuel (start + passed.length) (done ++ more) u n) := by
            intro more u hmerges hmore
            have hall := hstep.trans hmerges
            exact hall.merged (ih _ _ _ n (Nat.lt_of_le_of_lt hmerges.count hless)
              (hall.passed n _ hfront) ((hall.plain hdone).append hmore) fun _ =>
                hall.mapping hnode)
          have hfound : ∀ ns,
              Collected t₂ (collect (fun t n => mergeFrom fuel 0 [] t n) [] t₂ ns) := by
            intro ns
            refine collected_collect ?_ ns [] t₂ hless (by simp [Plain])
            intro t n hcount
            exact ih 0 [] t n hcount (by simp [Plain]) (by simp [Plain]) (by simp)
          cases get t₂ e.2 with
          | scalar tag cs => rfl
          | mapping tag es =>
              dsimp only
              exact (hfound [e.2]).elim (fun _ => id) fun found hone => hrest _ _ hone.1 hone.2
          | sequence tag ns =>
              dsimp only
              exact (hfound ns).elim (fun _ => id) fun found hmany => hrest _ _ hmany.1 hmany.2

/-- Merging always ends, also where a mapping asks for itself. -/
theorem merged_merged (t : Table) (n : Nat) : Merged t n (merged t n) := by
  unfold merged
  split
  · exact merged_mergeFrom _ 0 [] t n (Nat.lt_succ_self _) (by simp [Plain]) (by simp [Plain])
      (by simp)
  · rename_i hnone
    have hplain : Plain t (entries t n) := by
      intro e he
      by_contra hmerge
      exact hnone (List.any_eq_true.2 ⟨e, he, by simpa using hmerge⟩)
    have hkeys := merges_countKeys t (entries t n)
    refine ⟨hkeys, ?_⟩
    rw [entries_countKeys]
    exact hkeys.plain hplain

end Table

end ModuleKeeper.Yaml.Node
