import Mathlib.Data.List.Forall2
import Mathlib.Data.List.Lex
import Mathlib.Data.List.Nodup
import ModuleKeeper.Text

/-!
# What comes first

Where something has to be decided about several names, it is decided by what
comes first: the first name that is wrong, each name at its first place, the
first module by name.  And of several computations in order the first one that
fails decides what all of them come to.  This file says what these firsts are, apart from the
searches that find them.

## Main results

* `Text.notAfter_iff`: texts are ordered by the numbers of their code points.
* `isFirst_iff_find?`: a search finds the first item with a property.
* `Comes.elim`, `Comes.bind`: what computations in order come to.
* `mapM_eq_ok_iff`, `mapM_eq_error_iff`: what computations on the items of a list come to.
* `firsts_iff`: a list without its repetitions has each item at its first place.
* `find?_eraseDups`: repetitions do not matter for what comes first.
-/

namespace ModuleKeeper

/-! ## The order of texts -/

namespace Text

/-- The numbers of the code points of a text. -/
def numbers (t : Text) : List Nat := t.toList.map CodePoint.toNat

theorem toNat_injective : Function.Injective CodePoint.toNat := fun c d h => by
  rw [← CodePoint.ofNat_toNat c, h, CodePoint.ofNat_toNat]

theorem numbers_injective : Function.Injective numbers := by
  rintro ⟨cs⟩ ⟨ds⟩ h
  exact congrArg ofList (List.map_injective_iff.2 toNat_injective h)

theorem listNotAfter_iff (cs ds : List CodePoint) :
    listNotAfter cs ds = true ↔ cs.map CodePoint.toNat ≤ ds.map CodePoint.toNat := by
  induction cs generalizing ds with
  | nil =>
      cases ds with
      | nil => simp [listNotAfter]
      | cons d ds => exact iff_of_true rfl (le_of_lt List.Lex.nil)
  | cons c cs ih =>
      cases ds with
      | nil => exact iff_of_false Bool.false_ne_true (not_le_of_gt List.Lex.nil)
      | cons d ds =>
          rw [listNotAfter, List.map_cons, List.map_cons, le_iff_lt_or_eq, List.cons_lt_cons_iff,
            List.cons.injEq]
          by_cases h : c = d
          · subst h
            simp [ih, le_iff_lt_or_eq]
          · have hne : c.toNat ≠ d.toNat := fun he => h (toNat_injective he)
            simp only [if_neg h, decide_eq_true_iff, hne, false_and, or_false]
            exact Iff.rfl

/-- Texts are ordered as the lists of their numbers are. -/
theorem notAfter_iff {s t : Text} : s.notAfter t = true ↔ s.numbers ≤ t.numbers :=
  listNotAfter_iff s.toList t.toList

end Text

section Lists

variable {α : Type} {p : α → Prop} {items firsts : List α} {a b : α}

/-! ## The first item with a property -/

/-- An item with a property, before which no item of the list has it. -/
def IsFirst (p : α → Prop) (items : List α) (a : α) : Prop :=
  p a ∧ ∃ before behind, items = before ++ a :: behind ∧ ∀ b ∈ before, ¬p b

theorem isFirst_iff_find? {q : α → Bool} (hq : ∀ a, q a = true ↔ p a) :
    IsFirst p items a ↔ items.find? q = some a := by
  simp [IsFirst, List.find?_eq_some_iff_append, ← hq]

theorem IsFirst.mem (h : IsFirst p items a) : a ∈ items := by
  obtain ⟨-, before, behind, rfl, -⟩ := h
  simp

theorem IsFirst.unique (h : IsFirst p items a) (h' : IsFirst p items b) : a = b := by
  classical
  have hp : ∀ a, decide (p a) = true ↔ p a := fun a => decide_eq_true_iff
  rw [isFirst_iff_find? hp] at h h'
  exact Option.some.inj (h.symm.trans h')

theorem IsFirst.congr {q : α → Prop} (h : IsFirst p items a) (hpq : ∀ a, p a ↔ q a) :
    IsFirst q items a := by
  simpa only [IsFirst, hpq] using h

theorem exists_isFirst (h : ∃ a ∈ items, p a) : ∃ a, IsFirst p items a := by
  classical
  have hp : ∀ a, decide (p a) = true ↔ p a := fun a => decide_eq_true_iff
  obtain ⟨a, ha, hpa⟩ := h
  have hsome : (items.find? fun a => decide (p a)).isSome = true :=
    List.find?_isSome.2 ⟨a, ha, (hp a).2 hpa⟩
  obtain ⟨b, hb⟩ := Option.isSome_iff_exists.1 hsome
  exact ⟨b, (isFirst_iff_find? hp).2 hb⟩

theorem isFirst_cons_of_pos (h : p b) : IsFirst p (b :: items) a ↔ a = b := by
  constructor
  · exact fun ha => ha.unique ⟨h, [], items, rfl, by simp⟩
  · rintro rfl
    exact ⟨h, [], items, rfl, by simp⟩

theorem isFirst_cons_of_neg (h : ¬p b) : IsFirst p (b :: items) a ↔ IsFirst p items a := by
  constructor
  · rintro ⟨ha, before, behind, hsplit, hbefore⟩
    cases before with
    | nil =>
        obtain ⟨rfl, -⟩ := List.cons.inj hsplit
        exact absurd ha h
    | cons c before =>
        obtain ⟨-, htail⟩ := List.cons.inj hsplit
        exact ⟨ha, before, behind, htail, fun d hd => hbefore d (by simp [hd])⟩
  · rintro ⟨ha, before, behind, rfl, hbefore⟩
    refine ⟨ha, b :: before, behind, rfl, fun d hd => ?_⟩
    rcases List.mem_cons.1 hd with rfl | hd
    · exact h
    · exact hbefore d hd

/-! ## Computations in order -/

section Computations

variable {β γ ε ε' : Type} {f : α → Except ε β} {x : Except ε β} {g : β → Except ε γ} {e : ε}

/-- A computation behind another one succeeds if both do. -/
theorem bind_eq_ok_iff {c : γ} : (x >>= g) = .ok c ↔ ∃ b, x = .ok b ∧ g b = .ok c := by
  cases x <;> simp [bind, Except.bind]

/-- It fails if one of them does. -/
theorem bind_eq_error_iff :
    (x >>= g) = .error e ↔ x = .error e ∨ ∃ b, x = .ok b ∧ g b = .error e := by
  cases x <;> simp [bind, Except.bind]

theorem mapError_eq_ok_iff {wrap : ε → ε'} {b : β} : x.mapError wrap = .ok b ↔ x = .ok b := by
  cases x <;> simp [Except.mapError]

theorem mapError_eq_error_iff {wrap : ε → ε'} {e' : ε'} :
    x.mapError wrap = .error e' ↔ ∃ cause, x = .error cause ∧ wrap cause = e' := by
  cases x <;> simp [Except.mapError]

/-- What a computation comes to: a result of one kind, or a failure of another. -/
def Comes (bad : ε → Prop) (good : β → Prop) : Except ε β → Prop
  | .ok b => good b
  | .error e => bad e

namespace Comes

variable {bad bad' : ε → Prop} {good good' : β → Prop} {better : γ → Prop}

/-- What holds of the failures of one kind and of the results of another holds of a computation. -/
@[elab_as_elim]
theorem elim {motive : Except ε β → Prop} (h : Comes bad good x)
    (error : ∀ e, bad e → motive (.error e)) (ok : ∀ b, good b → motive (.ok b)) : motive x := by
  cases x with
  | ok b => exact ok b h
  | error e => exact error e h

theorem imp (h : Comes bad good x) (hbad : ∀ e, bad e → bad' e) (hgood : ∀ b, good b → good' b) :
    Comes bad' good' x := by
  cases x with
  | ok b => exact hgood b h
  | error e => exact hbad e h

theorem bind (h : Comes bad good x) (hg : ∀ b, good b → Comes bad better (g b)) :
    Comes bad better (x >>= g) := by
  cases x with
  | ok b => exact hg b h
  | error e => exact h

theorem map {k : β → γ} (h : Comes bad good x) (hk : ∀ b, good b → better (k b)) :
    Comes bad better (x.map k) := by
  cases x with
  | ok b => exact hk b h
  | error e => exact h

theorem ite {p : Prop} [Decidable p] {y : Except ε β} (hx : Comes bad good x)
    (hy : Comes bad good y) : Comes bad good (if p then x else y) := by
  split
  · exact hx
  · exact hy

theorem of_ok {b : β} (h : Comes bad good x) (hx : x = .ok b) : good b := by
  rw [hx] at h
  exact h

theorem of_error {e : ε} (h : Comes bad good x) (hx : x = .error e) : bad e := by
  rw [hx] at h
  exact h

end Comes

/-- Items are related to others one by one if each of them is related to something. -/
theorem exists_forall₂_iff {related : α → β → Prop} :
    (∃ results, List.Forall₂ related items results) ↔ ∀ a ∈ items, ∃ b, related a b := by
  induction items with
  | nil => exact ⟨fun _ a ha => absurd ha List.not_mem_nil, fun _ => ⟨[], .nil⟩⟩
  | cons a items ih =>
      constructor
      · rintro ⟨_, ha | ⟨ha, hitems⟩⟩
        intro a' ha'
        rcases List.mem_cons.1 ha' with rfl | ha'
        · exact ⟨_, ha⟩
        · exact ih.1 ⟨_, hitems⟩ a' ha'
      · intro h
        obtain ⟨b, hb⟩ := h a (by simp)
        obtain ⟨results, hresults⟩ := ih.2 fun a' ha' => h a' (by simp [ha'])
        exact ⟨b :: results, .cons hb hresults⟩

theorem exists_mem_of_forall₂ {related : α → β → Prop} {results : List β}
    (h : List.Forall₂ related items results) (ha : a ∈ items) : ∃ b ∈ results, related a b := by
  induction h with
  | nil => cases ha
  | @cons a' b items results hab _ ih =>
      rcases List.mem_cons.1 ha with rfl | ha
      · exact ⟨b, by simp, hab⟩
      · obtain ⟨b', hb', hrelated⟩ := ih ha
        exact ⟨b', by simp [hb'], hrelated⟩

/-- Computations on the items of a list succeed together if each of them does. -/
theorem mapM_eq_ok_iff {results : List β} :
    items.mapM f = .ok results ↔ List.Forall₂ (fun a b => f a = .ok b) items results := by
  induction items generalizing results with
  | nil =>
      rw [List.mapM_nil, List.forall₂_nil_left_iff]
      show Except.ok [] = Except.ok results ↔ _
      rw [Except.ok.injEq, eq_comm]
  | cons a items ih =>
      rw [List.mapM_cons, bind_eq_ok_iff, List.forall₂_cons_left_iff]
      refine exists_congr fun b => ?_
      rw [bind_eq_ok_iff, exists_and_left]
      refine and_congr_right fun _ => exists_congr fun bs => and_congr ih ?_
      show Except.ok (b :: bs) = Except.ok results ↔ _
      rw [Except.ok.injEq, eq_comm]

/-- Otherwise they fail like the first one that fails. -/
theorem mapM_eq_error_iff : items.mapM f = .error e ↔
    ∃ a, IsFirst (fun a => ¬∃ b, f a = .ok b) items a ∧ f a = .error e := by
  induction items with
  | nil =>
      constructor
      · exact fun h => nomatch h
      · rintro ⟨a, ha, -⟩
        cases ha.mem
  | cons a items ih =>
      rw [List.mapM_cons]
      cases ha : f a with
      | error e' =>
          have hfirst : ¬∃ b, f a = .ok b := by simp [ha]
          simp only [isFirst_cons_of_pos (p := fun a => ¬∃ b, f a = .ok b) hfirst,
            exists_eq_left, ha]
          show (Except.error e' : Except ε (List β)) = .error e ↔ _
          rw [Except.error.injEq, Except.error.injEq]
      | ok b =>
          have hpass : ¬¬∃ b, f a = .ok b := not_not.2 ⟨b, ha⟩
          simp only [isFirst_cons_of_neg (p := fun a => ¬∃ b, f a = .ok b) hpass, ← ih]
          show (items.mapM f >>= fun bs => pure (b :: bs)) = .error e ↔ _
          rw [bind_eq_error_iff]
          exact or_iff_left fun ⟨_, _, hnone⟩ => nomatch hnone

end Computations

/-! ## Each item at its first place -/

variable [DecidableEq α]

/-- The items of a list, each once, in the order in which they come first in it. -/
structure Firsts (items firsts : List α) : Prop where
  mem_iff : ∀ a, a ∈ firsts ↔ a ∈ items
  ordered : firsts.Pairwise fun a b => items.idxOf a < items.idxOf b

theorem Firsts.nodup (h : Firsts items firsts) : firsts.Nodup := by
  refine h.ordered.imp ?_
  rintro a _ hlt rfl
  exact Nat.lt_irrefl _ hlt

theorem Firsts.unique {firsts' : List α} (h : Firsts items firsts) (h' : Firsts items firsts') :
    firsts = firsts' := by
  have hperm : firsts.Perm firsts' := (List.perm_ext_iff_of_nodup h.nodup h'.nodup).2
    fun a => (h.mem_iff a).trans (h'.mem_iff a).symm
  exact hperm.eq_of_pairwise (fun a b _ _ hab hba => absurd hab (Nat.lt_asymm hba))
    h.ordered h'.ordered

/--
An induction that follows the dropping of repetitions: behind the first item of
a list comes what is left of the others without the repetitions of this item.
-/
theorem eraseDups_induction {motive : List α → Prop} (nil : motive [])
    (cons : ∀ x xs, motive (xs.filter fun b => !b == x) → motive (x :: xs)) :
    ∀ items, motive items
  | [] => nil
  | x :: xs => cons x xs (eraseDups_induction nil cons _)
termination_by items => items.length
decreasing_by exact Nat.lt_succ_of_le (List.length_filter_le _ _)

/-- Leaving items out does not change which of two others comes first. -/
theorem idxOf_lt_of_filter {q : α → Bool} (hb : q b = true)
    (h : (items.filter q).idxOf a < (items.filter q).idxOf b) :
    items.idxOf a < items.idxOf b := by
  induction items with
  | nil => exact absurd h (Nat.lt_irrefl _)
  | cons x xs ih =>
      by_cases hxa : x = a
      · have hab : a ≠ b := by
          rintro rfl
          exact Nat.lt_irrefl _ h
        simp [hxa, hab]
      · by_cases hxb : x = b
        · simp [hxb, hb] at h
        · by_cases hx : q x = true
          · simp only [List.filter_cons_of_pos hx, List.idxOf_cons_ne _ hxa,
              List.idxOf_cons_ne _ hxb, Nat.succ_lt_succ_iff] at h ⊢
            exact ih h
          · simp only [List.filter_cons_of_neg hx, List.idxOf_cons_ne _ hxa,
              List.idxOf_cons_ne _ hxb, Nat.succ_lt_succ_iff] at h ⊢
            exact ih h

theorem firsts_eraseDups (items : List α) : Firsts items items.eraseDups := by
  refine ⟨fun a => List.mem_eraseDups, ?_⟩
  induction items using eraseDups_induction with
  | nil => exact List.Pairwise.nil
  | cons x xs ih =>
      have hother : ∀ b ∈ (xs.filter fun b => !b == x).eraseDups, b ≠ x := by
        intro b hb
        simpa using (List.mem_filter.1 (List.mem_eraseDups.1 hb)).2
      rw [List.eraseDups_cons, List.pairwise_cons]
      refine ⟨fun b hb => ?_, ih.imp_of_mem fun {a b} ha hb hlt => ?_⟩
      · rw [List.idxOf_cons_self, List.idxOf_cons_ne _ (hother b hb).symm]
        exact Nat.succ_pos _
      · rw [List.idxOf_cons_ne _ (hother a ha).symm, List.idxOf_cons_ne _ (hother b hb).symm,
          Nat.succ_lt_succ_iff]
        exact idxOf_lt_of_filter (by simpa using hother b hb) hlt

/-- A list without its repetitions is the only one with each item at its first place. -/
theorem firsts_iff : Firsts items firsts ↔ firsts = items.eraseDups :=
  ⟨fun h => h.unique (firsts_eraseDups items), fun h => h ▸ firsts_eraseDups items⟩

theorem nodup_eraseDups (items : List α) : items.eraseDups.Nodup := (firsts_eraseDups items).nodup

theorem eraseDups_of_nodup (h : items.Nodup) : items.eraseDups = items := by
  induction items with
  | nil => rfl
  | cons x xs ih =>
      obtain ⟨hx, hxs⟩ := List.nodup_cons.1 h
      have hrest : (xs.filter fun b => !b == x) = xs := by
        rw [List.filter_eq_self]
        intro b hb
        have hne : b ≠ x := fun he => hx (he ▸ hb)
        simpa using hne
      rw [List.eraseDups_cons, hrest, ih hxs]

/-- Repetitions do not matter for what comes first. -/
theorem find?_eraseDups (q : α → Bool) (items : List α) :
    items.eraseDups.find? q = items.find? q := by
  induction items using eraseDups_induction with
  | nil => rfl
  | cons x xs ih =>
      rw [List.eraseDups_cons, List.find?_cons, List.find?_cons]
      cases hx : q x with
      | true => rfl
      | false =>
          dsimp only
          rw [ih, List.find?_filter]
          congr 1
          funext b
          by_cases hb : b = x
          · simp [hb, hx]
          · simp [hb]

end Lists

end ModuleKeeper
