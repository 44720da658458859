import ModuleKeeper.Proofs.SelectionGrammar
import ModuleKeeper.Terminal.Menu

/-!
# Selections that break the question

A selection that is refused is asked for again.  For this the program has to
see by itself what is wrong, and it looks first: a token has to be made of
digits before they are read.  But not every digit has a value, and a number may
not have too many of them.  Such a token passes and is not read, and then the
question ends instead of being asked again.

## Main results

* `unreadable_iff`: the tokens that pass and are not read.
* `parse_endings`: a selection is accepted, refused, or broken by such a token.
* `parse_superscript`: one character is enough.
-/

namespace ModuleKeeper.Selection

open ModuleKeeper.Text ModuleKeeper.Numeral

/-! ## Tokens without a value -/

/-- Digits of which one is only the sign of a digit, or of which there are more than 4300. -/
def Valueless (digits : List CodePoint) : Prop :=
  4300 < digits.length ∨ ∃ c ∈ digits, decimalValue? c = none

/-- A token that passes for a number or a range and has no value. -/
inductive Unreadable : List CodePoint → Prop
  | number {token : List CodePoint} (hdigits : isDigits token = true) (h : Valueless token) :
      Unreadable token
  | range {front back : List CodePoint} (hfront : isDigits front = true)
      (hback : isDigits back = true) (h : Valueless front ∨ Valueless back) :
      Unreadable (front ++ .char '-' :: back)

variable {token text digits front back : List CodePoint} {count : Int} {n : Nat} {s : Span}

theorem valueless_iff (h : isDigits digits = true) : Valueless digits ↔ ¬∃ n, Reads digits n :=
  (not_reads_iff (isDigits_iff.1 h).1).symm

theorem means_digits (h : isDigits token = true) (hs : Means Reads token s) :
    ∃ n, Reads token n := by
  cases hs with
  | number hreads => exact ⟨_, hreads⟩
  | range _ _ => exact absurd (by simp) (dash_not_mem_of_isDigits h)

/-- A range is divided at its only dash. -/
theorem means_range (hfront : isDigits front = true) (hback : isDigits back = true)
    (hs : Means Reads (front ++ .char '-' :: back) s) :
    (∃ n, Reads front n) ∧ ∃ n, Reads back n := by
  have hparts : ∀ {digits : List CodePoint}, digits = front ++ .char '-' :: back →
      isDigits digits = true → False := by
    rintro _ rfl hdigits
    exact dash_not_mem_of_isDigits hdigits (by simp)
  generalize htoken : front ++ CodePoint.char '-' :: back = token at hs
  cases hs with
  | number hreads => exact (hparts htoken.symm hreads.isDigits).elim
  | range hfirst hlast =>
      obtain ⟨rfl, -, rfl⟩ := (List.append_cons_inj_of_notMem (dash_not_mem_of_isDigits hfront)
        (dash_not_mem_of_isDigits hback)).1 htoken
      exact ⟨⟨_, hfirst⟩, ⟨_, hlast⟩⟩

/-- What is not read are the tokens that have their shape and no meaning. -/
theorem unreadable_iff : Unreadable token ↔ Shaped token ∧ ¬∃ s, Means Reads token s := by
  constructor
  · intro h
    cases h with
    | number hdigits h =>
        refine ⟨⟨⟨0, 0⟩, .number hdigits⟩, fun ⟨s, hs⟩ => ?_⟩
        exact (valueless_iff hdigits).1 h (means_digits hdigits hs)
    | range hfront hback h =>
        refine ⟨⟨⟨0, 0⟩, .range hfront hback⟩, fun ⟨s, hs⟩ => ?_⟩
        obtain ⟨hfirst, hlast⟩ := means_range hfront hback hs
        rcases h with h | h
        · exact (valueless_iff hfront).1 h hfirst
        · exact (valueless_iff hback).1 h hlast
  · rintro ⟨⟨s, hs⟩, hmeans⟩
    cases hs with
    | number hdigits =>
        exact .number hdigits ((valueless_iff hdigits).2 fun ⟨n, hn⟩ => hmeans ⟨_, .number hn⟩)
    | @range front back _ _ hfront hback =>
        refine .range hfront hback ?_
        by_cases hfirst : ∃ n, Reads front n
        · obtain ⟨first, hfirst⟩ := hfirst
          exact .inr ((valueless_iff hback).2 fun ⟨n, hn⟩ => hmeans ⟨_, .range hfirst hn⟩)
        · exact .inl ((valueless_iff hfront).2 hfirst)

/-! ## Endings -/

/-- The first token that is not accepted passes for a number or a range, and is not read. -/
def Breaks (count : Int) (text : List CodePoint) : Prop :=
  ∃ token, IsFirst (fun token => ¬∃ s, Picks Reads count token s) (pieces text) token ∧
    Unreadable token

theorem parse_eq_unreadable_iff :
    (∃ token, parse text count = .error (.unreadable token)) ↔ Breaks count text := by
  simp only [parse_eq_error_iff, spanWithin_eq_unreadable_iff, Breaks, unreadable_iff]
  constructor
  · rintro ⟨token, _, hfirst, rfl, hrest⟩
    exact ⟨token, hfirst, hrest⟩
  · rintro ⟨token, hfirst, hrest⟩
    exact ⟨token, token, hfirst, rfl, hrest⟩

theorem lt_of_parse {indexes : List Nat} (h : parse text count = .ok indexes) :
    ∀ i ∈ indexes, (i : Int) < count := by
  obtain ⟨spans, hpicks, rfl⟩ := parse_eq_ok_iff.1 h
  intro i hi
  obtain ⟨s, hs, hi⟩ := List.mem_flatMap.1 (List.mem_eraseDups.1 hi)
  obtain ⟨token, htoken⟩ := exists_forall₂_iff.1 ⟨_, hpicks.flip⟩ s hs
  have hlast := ((Span.mem_indexes_iff htoken.positive).1 hi).2
  have hcount := htoken.within
  omega

/-- A question is broken by the selections that are not read, and by nothing else. -/
theorem judge_eq_broken_iff (prompt : Value) (options : Nat) :
    (Menu.selection prompt options).judge text = .broken .badValue ↔
      ∃ token, parse text options = .error (.unreadable token) := by
  rw [Menu.selection]
  dsimp only
  cases parse text options with
  | ok indexes => simp
  | error fault => cases fault <;> simp [Menu.refuse]

/--
**How a selection ends.**  Every text is accepted with indexes of options, or
refused so that the question is asked again, unless its first token that is not
accepted passes for a number or a range, while its digits have no value: one of
them is only the sign of a digit, or there are more than 4300 of them.  Then,
and only then, the text is neither accepted nor refused, and a question about
options is broken by it.
-/
theorem parse_endings (text : List CodePoint) (count : Int) :
    (((∃ indexes, parse text count = .ok indexes ∧ ∀ i ∈ indexes, (i : Int) < count) ∨
        ∃ fault, parse text count = .error fault ∧ fault.IsRefusal) ↔ ¬Breaks count text) ∧
    ((∃ token, parse text count = .error (.unreadable token)) ↔ Breaks count text) ∧
    (∀ (prompt : Value) (options : Nat),
      (Menu.selection prompt options).judge text = .broken .badValue ↔ Breaks options text) := by
  refine ⟨⟨?_, fun hwhole => ?_⟩, parse_eq_unreadable_iff, fun prompt options => ?_⟩
  · rintro hgood hbreaks
    obtain ⟨token, htoken⟩ := parse_eq_unreadable_iff.2 hbreaks
    rw [htoken] at hgood
    rcases hgood with ⟨indexes, hparse, -⟩ | ⟨fault, hparse, hrefusal⟩
    · cases hparse
    · exact hrefusal token (Except.error.inj hparse).symm
  · cases hparse : parse text count with
    | ok indexes => exact .inl ⟨indexes, rfl, lt_of_parse hparse⟩
    | error fault =>
        refine .inr ⟨fault, rfl, fun token hfault => ?_⟩
        exact hwhole (parse_eq_unreadable_iff.1 ⟨token, by rw [hparse, hfault]⟩)
  · rw [judge_eq_broken_iff, parse_eq_unreadable_iff]

/-- A superscript two passes for a number of three options, and the question is not asked again. -/
theorem parse_superscript :
    ¬((∃ indexes, parse "²" 3 = .ok indexes) ∨
        ∃ fault, parse "²" 3 = .error fault ∧ fault.IsRefusal) ∧
      (Menu.selection (.str "?") 3).judge "²" = .broken .badValue := by
  have hrun : parse "²" 3 = .error (.unreadable "²") := by decide
  refine ⟨?_, by rfl⟩
  rintro (⟨indexes, hparse⟩ | ⟨fault, hparse, hrefusal⟩)
  · rw [hrun] at hparse
    cases hparse
  · rw [hrun] at hparse
    exact hrefusal "²" (Except.error.inj hparse).symm

end ModuleKeeper.Selection
