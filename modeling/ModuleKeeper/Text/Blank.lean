import ModuleKeeper.Text

/-!
# Blank characters

Which characters separate words, and how a text loses them at its ends.
The class is the one of Unicode texts: the ASCII blanks, the four
information separators, the no-break and ideographic spaces, but neither
the zero width space nor the byte order mark.

## Main results

* `isBlank_of_isWhitespace`: every blank of the ASCII class is one here.
* `strip_eq_nil_iff`: a text strips to nothing exactly when it is all blank.
* `words_ne_nil`: no word is empty.
-/

namespace ModuleKeeper.Text

/-- Ranges of blank code points, both ends included. -/
def blankRanges : List (Nat × Nat) :=
  [
    (0x0009, 0x000d), (0x001c, 0x0020), (0x0085, 0x0085), (0x00a0, 0x00a0),
    (0x1680, 0x1680), (0x2000, 0x200a), (0x2028, 0x2029), (0x202f, 0x202f),
    (0x205f, 0x205f), (0x3000, 0x3000)]

/-- Whether `n` lies in one of the ranges. -/
def inRanges (ranges : List (Nat × Nat)) (n : Nat) : Bool :=
  ranges.any fun r => decide (r.1 ≤ n) && decide (n ≤ r.2)

/-- Whether a character is blank. -/
def isBlank (c : CodePoint) : Bool := inRanges blankRanges c.toNat

theorem isBlank_of_isWhitespace {c : Char} (h : c.isWhitespace = true) : isBlank c = true := by
  simp only [Char.isWhitespace, Bool.or_eq_true, decide_eq_true_eq] at h
  rcases h with ((rfl | rfl) | rfl) | rfl <;> rfl

/-! ## Stripping -/

/-- The text without its leading blanks. -/
def stripLeft (cs : List CodePoint) : List CodePoint := cs.dropWhile isBlank

/-- The text without the characters of a class at its end. -/
def trimEndBy (p : CodePoint → Bool) (cs : List CodePoint) : List CodePoint :=
  (cs.reverse.dropWhile p).reverse

/-- The text without the characters of a class at both ends. -/
def trimBy (p : CodePoint → Bool) (cs : List CodePoint) : List CodePoint :=
  trimEndBy p (cs.dropWhile p)

/-- The text without blanks at both ends. -/
def strip (cs : List CodePoint) : List CodePoint := trimBy isBlank cs

theorem dropWhile_eq_nil_iff {p : CodePoint → Bool} {cs : List CodePoint} :
    cs.dropWhile p = [] ↔ ∀ c ∈ cs, p c = true := by
  induction cs with
  | nil => simp
  | cons c cs ih => by_cases h : p c = true <;> simp [h, ih]

theorem trimEndBy_eq_nil_iff {p : CodePoint → Bool} {cs : List CodePoint} :
    trimEndBy p cs = [] ↔ ∀ c ∈ cs, p c = true := by
  rw [trimEndBy, List.reverse_eq_nil_iff, dropWhile_eq_nil_iff]
  simp

theorem strip_eq_nil_iff {cs : List CodePoint} :
    strip cs = [] ↔ ∀ c ∈ cs, isBlank c = true := by
  induction cs with
  | nil => simp [strip, trimBy, trimEndBy]
  | cons c cs ih =>
    by_cases h : isBlank c = true
    · simpa [strip, trimBy, List.dropWhile_cons, h] using ih
    · constructor
      · intro hs
        rw [strip, trimBy, List.dropWhile_cons, if_neg h, trimEndBy_eq_nil_iff] at hs
        exact hs
      · intro hs
        exact absurd (hs c (by simp)) h

/-! ## Words -/

/--
The words of a text: what stands between blanks. `word` holds the current
word backwards, so that each character is looked at once.
-/
def wordsFrom (word : List CodePoint) : List CodePoint → List (List CodePoint)
  | [] => if word.isEmpty then [] else [word.reverse]
  | c :: cs =>
    if isBlank c then
      if word.isEmpty then wordsFrom [] cs else word.reverse :: wordsFrom [] cs
    else wordsFrom (c :: word) cs

/-- The maximal runs of characters that are not blank, in order. -/
def words (cs : List CodePoint) : List (List CodePoint) := wordsFrom [] cs

theorem ne_nil_of_mem_wordsFrom {word cs w : List CodePoint} (h : w ∈ wordsFrom word cs) :
    w ≠ [] := by
  induction cs generalizing word with
  | nil =>
    cases word with
    | nil => simp [wordsFrom] at h
    | cons a t => simp only [wordsFrom, List.isEmpty_cons] at h; simp_all
  | cons c cs ih =>
    rw [wordsFrom] at h
    by_cases hb : isBlank c = true
    · rw [if_pos hb] at h
      cases word with
      | nil => exact ih h
      | cons a t =>
        rw [if_neg (by simp)] at h
        rcases List.mem_cons.1 h with rfl | h
        · simp
        · exact ih h
    · rw [if_neg hb] at h
      exact ih h

theorem words_ne_nil {cs w : List CodePoint} (h : w ∈ words cs) : w ≠ [] :=
  ne_nil_of_mem_wordsFrom h

end ModuleKeeper.Text
