import Mathlib.Data.List.Sort
import ModuleKeeper.Proofs.Choosing
import ModuleKeeper.Proofs.SelectionGrammar

/-!
# Options at positions

A user answers with positions, in any order and as often as wanted, and also
with positions at which there is nothing.  What counts is which places of the
options occur among them.  A negative position is no place, and two options with
the same text have two places.

So the text in which a selection is typed does not matter beyond the numbers
that it stands for: not their order, not repetitions, and not whether a range is
written out.

## Main results

* `chosen_iff`: a choice has the options at the places that occur.
* `stands_iff`: an accepted text stands for the numbers of what it picks.
* `selectNames_at_positions`: what a selection comes to.
-/

namespace ModuleKeeper

namespace Selection

open ModuleKeeper.Numeral

/-! ## Choices -/

section Choices

variable {α : Type} {options chosen : List α} {positions positions' : List Int}

/-- The options at the places that occur among positions, in the order of the options. -/
def Chosen (options : List α) (positions : List Int) (chosen : List α) : Prop :=
  ∃ places : List (Fin options.length), places.Pairwise (· < ·) ∧
    (∀ i, i ∈ places ↔ ((i : Nat) : Int) ∈ positions) ∧ chosen = places.map options.get

/-- The places of options that occur among positions, in their order. -/
def placesIn (options : List α) (positions : List Int) : List (Fin options.length) :=
  (List.finRange options.length).filter fun i : Fin options.length =>
    decide (((i : Nat) : Int) ∈ positions)

theorem mem_placesIn (i : Fin options.length) :
    i ∈ placesIn options positions ↔ ((i : Nat) : Int) ∈ positions := by
  simp [placesIn]

theorem pairwise_placesIn (options : List α) (positions : List Int) :
    (placesIn options positions).Pairwise (· < ·) :=
  (List.pairwise_lt_finRange options.length).filter _

theorem zipIdx_eq_map_finRange (options : List α) :
    options.zipIdx = (List.finRange options.length).map fun i => (options.get i, (i : Nat)) := by
  refine List.ext_getElem (by simp) fun i hi _ => ?_
  simp

theorem choose_eq_map_placesIn (options : List α) (positions : List Int) :
    choose options positions = (placesIn options positions).map options.get := by
  rw [choose, zipIdx_eq_map_finRange, List.filter_map, List.map_map]
  congr 1
  refine List.filter_congr fun i _ => ?_
  simp

/-- A choice has the options at the places that occur. -/
theorem chosen_iff : Chosen options positions chosen ↔ chosen = choose options positions := by
  rw [choose_eq_map_placesIn]
  constructor
  · rintro ⟨places, hordered, hoccur, rfl⟩
    have hsame : ∀ i, i ∈ places ↔ i ∈ placesIn options positions :=
      fun i => (hoccur i).trans (mem_placesIn i).symm
    rw [hordered.eq_of_mem_iff (pairwise_placesIn options positions) hsame]
  · exact fun h => ⟨_, pairwise_placesIn options positions, mem_placesIn, h⟩

theorem choose_eq_nil_iff : choose options positions = [] ↔
    ∀ i : Fin options.length, ((i : Nat) : Int) ∉ positions := by
  rw [choose_eq_map_placesIn, List.map_eq_nil_iff, List.eq_nil_iff_forall_not_mem]
  simp only [mem_placesIn]

/-- Only which positions occur decides a choice. -/
theorem choose_congr (h : ∀ k, k ∈ positions ↔ k ∈ positions') :
    choose options positions = choose options positions' := by
  simp only [choose_eq_map_placesIn, placesIn, h]

end Choices

/-! ## What a text stands for -/

variable {text text' : List CodePoint} {count : Int} {indexes indexes' : List Nat}

/-- A number is among those that the tokens of a text stand for. -/
def Stands (text : List CodePoint) (n : Nat) : Prop :=
  ∃ token ∈ pieces text, ∃ s, Means Reads token s ∧ s.first ≤ n ∧ n ≤ s.last

/-- An accepted text stands for the numbers of the options that it picks. -/
theorem stands_iff (h : parse text count = .ok indexes) (n : Nat) :
    Stands text n ↔ ∃ i ∈ indexes, n = i + 1 := by
  obtain ⟨spans, hpicks, rfl⟩ := parse_eq_ok_iff.1 h
  simp only [List.mem_eraseDups, List.mem_flatMap]
  constructor
  · rintro ⟨token, htoken, s, hmeans, hfirst, hlast⟩
    obtain ⟨s', hs', hspan⟩ := exists_mem_of_forall₂ hpicks htoken
    -- A token stands for one span only, because it is read in one way only.
    have hread : spanOf token = .ok s := spanOf_eq_ok_iff.2 ⟨hmeans, hfirst.trans hlast⟩
    have hread' : spanOf token = .ok s' := spanOf_eq_ok_iff.2 ⟨hspan.means, hspan.ordered⟩
    obtain rfl : s = s' := Except.ok.inj (hread.symm.trans hread')
    have hpositive := hspan.positive
    have hnumber : n = n - 1 + 1 := by omega
    exact ⟨n - 1, ⟨s, hs', (Span.mem_indexes_iff hpositive).2 ⟨by omega, by omega⟩⟩, hnumber⟩
  · rintro ⟨i, ⟨s, hs, hi⟩, rfl⟩
    obtain ⟨token, htoken, hspan⟩ := exists_mem_of_forall₂ hpicks.flip hs
    obtain ⟨hfirst, hlast⟩ := (Span.mem_indexes_iff hspan.positive).1 hi
    exact ⟨token, htoken, s, hspan.means, hfirst, hlast⟩

/-- Texts that stand for the same numbers choose the same options. -/
theorem choose_parse_congr {α : Type} (options : List α) (h : parse text count = .ok indexes)
    (h' : parse text' count = .ok indexes') (hsame : ∀ n, Stands text n ↔ Stands text' n) :
    choose options (indexes.map Int.ofNat) = choose options (indexes'.map Int.ofNat) := by
  have hmem : ∀ i, i ∈ indexes ↔ i ∈ indexes' := by
    intro i
    have hnumbers := hsame (i + 1)
    rw [stands_iff h, stands_iff h'] at hnumbers
    simpa using hnumbers
  refine choose_congr fun k => ?_
  simp only [List.mem_map, hmem]

end Selection

namespace Prompter

open Selection

variable {σ : Type}

theorem runIn_selectNames {p : Prompter (StateM σ)} {options : List Text} {positions : List Int}
    {s s₁ : σ}
    (h : (p.selectMany (.str selectionPrompt) (options.map .str)).runIn s = (.ok positions, s₁)) :
    (selectNames (some p) options).runIn s =
      (if choose options positions = [] then .error (.halt .nothingSelected)
        else .ok (choose options positions), s₁) := by
  unfold selectNames select
  show Task.runIn (p.selectMany _ _ >>= _) s = _
  rw [Task.runIn_bind, h]
  dsimp only
  cases choose options positions with
  | nil => rfl
  | cons option chosen => rfl

/--
**What a selection comes to.**  Whatever positions a user gives, a selection has
exactly the options at the places that occur among them, in the order of the
options, and it is given up exactly if no place occurs.  So two texts that are
accepted for the same options, and stand for the same numbers, choose the same.
-/
theorem selectNames_at_positions {p : Prompter (StateM σ)} {options : List Text}
    {positions : List Int} {s s₁ : σ}
    (h : (p.selectMany (.str selectionPrompt) (options.map .str)).runIn s = (.ok positions, s₁)) :
    (∀ chosen, (selectNames (some p) options).runIn s = (.ok chosen, s₁) ↔
      chosen ≠ [] ∧ Chosen options positions chosen) ∧
    ((selectNames (some p) options).runIn s = (.error (.halt .nothingSelected), s₁) ↔
      ∀ i : Fin options.length, ((i : Nat) : Int) ∉ positions) ∧
    (∀ (text text' : List CodePoint) (indexes indexes' : List Nat),
      parse text options.length = .ok indexes → parse text' options.length = .ok indexes' →
      (∀ n, Stands text n ↔ Stands text' n) → positions = indexes.map Int.ofNat →
      ∀ (p' : Prompter (StateM σ)) (t t₁ : σ),
        (p'.selectMany (.str selectionPrompt) (options.map .str)).runIn t =
          (.ok (indexes'.map Int.ofNat), t₁) →
        ((selectNames (some p') options).runIn t).1 =
          ((selectNames (some p) options).runIn s).1) := by
  refine ⟨fun chosen => ?_, ?_, ?_⟩
  · rw [runIn_selectNames h, chosen_iff]
    by_cases hnone : choose options positions = []
    · rw [if_pos hnone, hnone]
      simp +contextual
    · rw [if_neg hnone]
      constructor
      · intro hrun
        obtain rfl : choose options positions = chosen := Except.ok.inj (congrArg Prod.fst hrun)
        exact ⟨hnone, rfl⟩
      · rintro ⟨-, rfl⟩
        rfl
  · rw [runIn_selectNames h, ← choose_eq_nil_iff]
    by_cases hnone : choose options positions = []
    · rw [if_pos hnone]
      simp [hnone]
    · rw [if_neg hnone]
      simp [hnone]
  · rintro text text' indexes indexes' hparse hparse' hsame rfl p' t t₁ h'
    rw [runIn_selectNames h, runIn_selectNames h', choose_parse_congr options hparse hparse' hsame]

/--
Of four options, two of which have the same text, `4 1-2` and `01,2 1,4` choose
the first two and the last one.  Positions before and behind the options are no
places.
-/
theorem selectNames_at_positions_four :
    (selectNames (some (.giving [3, 0, 1])) ["mail", "shop", "mail", "chat"]).runIn () =
        (.ok ["mail", "shop", "chat"], ()) ∧
      ((selectNames (some (.giving [0, 1, 3])) ["mail", "shop", "mail", "chat"]).runIn ()).1 =
        ((selectNames (some (.giving [3, 0, 1])) ["mail", "shop", "mail", "chat"]).runIn ()).1 ∧
      (selectNames (some (.giving [-1, 4])) ["mail", "shop", "mail", "chat"]).runIn () =
        (.error (.halt .nothingSelected), ()) := by
  have hparse : parse "4 1-2" (["mail", "shop", "mail", "chat"] : List Text).length =
      .ok [3, 0, 1] := by decide
  have hparse' : parse "01,2 1,4" (["mail", "shop", "mail", "chat"] : List Text).length =
      .ok [0, 1, 3] := by decide
  have hsame : ∀ n, Stands "4 1-2" n ↔ Stands "01,2 1,4" n := by
    intro n
    rw [stands_iff hparse, stands_iff hparse']
    simp only [List.mem_cons, List.not_mem_nil, or_false, exists_eq_or_imp, exists_eq_left]
    omega
  refine ⟨?_, ?_, ?_⟩
  · refine ((selectNames_at_positions (p := .giving [3, 0, 1]) (s := ()) rfl).1 _).2 ⟨by decide, ?_⟩
    exact ⟨[0, 1, 3], by decide, by decide, rfl⟩
  · exact (selectNames_at_positions (p := .giving [3, 0, 1]) (s := ()) rfl).2.2 _ _ _ _ hparse
      hparse' hsame rfl (.giving [0, 1, 3]) () () rfl
  · exact (selectNames_at_positions (p := .giving [-1, 4]) (s := ()) rfl).2.1.2 (by decide)

end Prompter

end ModuleKeeper
