import Mathlib.Data.List.Basic
import ModuleKeeper.Selection

/-!
# The tokens of a selection

A selection is read token by token, and a token is what stands between two
separators.  The program turns commas into blanks and takes the words of the
result; here commas and blanks are separators alike, and the text is split at
each of them.  Two separators next to each other have nothing between them, and
nothing is no token.

## Main results

* `tokens_eq_pieces`: the tokens are what is left between separators.
* `infix_of_mem_pieces`: every token stands in the text as it is.
* `pieces_of_joined`: words with separators between them are the tokens.
-/

namespace ModuleKeeper.Selection

open ModuleKeeper.Text

/-- What separates tokens: commas and blanks. -/
def isSeparator (c : CodePoint) : Bool := c == .char ',' || isBlank c

/-- What stands between the separators of a text, as far as it is something. -/
def pieces (text : List CodePoint) : List (List CodePoint) :=
  (text.splitOnP isSeparator).filter (· ≠ [])

/-! ## Words and pieces -/

/-- The words behind a word that has been begun are the pieces behind it. -/
theorem wordsFrom_eq_splitOnP (text word : List CodePoint) :
    wordsFrom word (text.map fun c => if c = CodePoint.char ',' then ' ' else c) =
      (text.splitOnPPrepend isSeparator word).filter (· ≠ []) := by
  induction text generalizing word with
  | nil =>
      rw [List.map_nil, wordsFrom, List.splitOnPPrepend_nil]
      cases word with
      | nil => rfl
      | cons c word => simp
  | cons c text ih =>
      rw [List.map_cons, wordsFrom, List.splitOnPPrepend_cons_eq_if]
      have hblank : isBlank (if c = CodePoint.char ',' then ' ' else c) = isSeparator c := by
        by_cases hcomma : c = .char ','
        · rw [hcomma]
          rfl
        · simp [isSeparator, hcomma]
      rw [hblank]
      by_cases hseparator : isSeparator c = true
      · rw [if_pos hseparator, if_pos hseparator, ih, List.splitOnPPrepend_nil_right]
        cases word with
        | nil => rfl
        | cons d word => simp
      · have hother : c ≠ .char ',' := by
          rintro rfl
          exact hseparator rfl
        rw [if_neg hseparator, if_neg hseparator, if_neg hother, ih]

theorem tokens_eq_pieces (text : List CodePoint) : tokens text = pieces text := by
  rw [tokens, words, wordsFrom_eq_splitOnP, List.splitOnPPrepend_nil_right, pieces]

theorem infix_of_mem_splitOnPPrepend {text word w : List CodePoint}
    (h : w ∈ text.splitOnPPrepend isSeparator word) : w <:+: word.reverse ++ text := by
  induction text generalizing word with
  | nil =>
      rw [List.splitOnPPrepend_nil, List.mem_singleton] at h
      rw [h]
      exact (List.prefix_append word.reverse []).isInfix
  | cons c text ih =>
      rw [List.splitOnPPrepend_cons_eq_if] at h
      split at h
      · rcases List.mem_cons.1 h with rfl | hrest
        · exact (List.prefix_append _ _).isInfix
        · rw [← List.splitOnPPrepend_nil_right] at hrest
          have hbehind : w <:+: text := ih hrest
          exact hbehind.trans ((List.suffix_cons c text).trans (List.suffix_append _ _)).isInfix
      · have hgrown := ih h
        rwa [List.reverse_cons, List.append_assoc, List.singleton_append] at hgrown

theorem infix_of_mem_pieces {text token : List CodePoint} (h : token ∈ pieces text) :
    token <:+: text := by
  have hmem := List.mem_of_mem_filter h
  rw [← List.splitOnPPrepend_nil_right] at hmem
  exact infix_of_mem_splitOnPPrepend hmem

/-! ## Joined words -/

/-- Words in order, with some separators between each two of them. -/
inductive Joined : List (List CodePoint) → List CodePoint → Prop
  | nil : Joined [] []
  | single (word : List CodePoint) : Joined [word] word
  | cons (word : List CodePoint) {gap : List CodePoint} {words : List (List CodePoint)}
      {text : List CodePoint} (hgap : gap ≠ []) (hseparators : ∀ c ∈ gap, isSeparator c = true)
      (hmore : words ≠ []) (hrest : Joined words text) :
      Joined (word :: words) (word ++ gap ++ text)

theorem pieces_append_cons {c : CodePoint} (h : isSeparator c = true)
    (front back : List CodePoint) :
    pieces (front ++ c :: back) = pieces front ++ pieces back := by
  rw [pieces, List.splitOnP_append_cons front back h, List.filter_append]
  rfl

theorem pieces_separators_append {gap : List CodePoint} (h : ∀ c ∈ gap, isSeparator c = true)
    (text : List CodePoint) : pieces (gap ++ text) = pieces text := by
  induction gap with
  | nil => rfl
  | cons c gap ih =>
      have hfront := pieces_append_cons (h c (by simp)) [] (gap ++ text)
      rw [List.nil_append] at hfront
      rw [List.cons_append, hfront, ih fun d hd => h d (by simp [hd])]
      rfl

theorem pieces_word {word : List CodePoint} (hne : word ≠ [])
    (h : ∀ c ∈ word, isSeparator c = false) : pieces word = [word] := by
  rw [pieces, List.splitOnP_eq_singleton h]
  simp [hne]

/-- A text of words with separators between them has these words for tokens. -/
theorem pieces_of_joined {words : List (List CodePoint)} {text : List CodePoint}
    (h : Joined words text)
    (hwords : ∀ w ∈ words, w ≠ [] ∧ ∀ c ∈ w, isSeparator c = false) : pieces text = words := by
  induction h with
  | nil => rfl
  | single word =>
      obtain ⟨hne, hplain⟩ := hwords word (by simp)
      exact pieces_word hne hplain
  | @cons word gap words text hgap hseparators _ _ ih =>
      obtain ⟨hne, hplain⟩ := hwords word (by simp)
      obtain ⟨c, gap, rfl⟩ := List.exists_cons_of_ne_nil hgap
      have hrest : pieces text = words := ih fun w hw => hwords w (by simp [hw])
      rw [List.append_assoc, List.cons_append, pieces_append_cons (hseparators c (by simp)),
        pieces_word hne hplain, pieces_separators_append fun d hd => hseparators d (by simp [hd]),
        hrest]
      rfl

end ModuleKeeper.Selection
