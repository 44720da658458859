import Mathlib.Data.List.Basic
import Mathlib.Data.Nat.Digits.Defs
import ModuleKeeper.Decimal.Reading
import ModuleKeeper.Text.Column

/-!
# Digits that are read

Before a text is read as a number it is asked whether it consists of digits,
and the two questions are not the same.  A digit is neither blank nor a sign
nor an underscore, so of a text of digits nothing is stripped and nothing is
skipped.  What is left to go wrong is that a digit is only the sign of one,
without a value, or that there are too many of them.

## Main results

* `isBlank_of_isDigit`: no digit is blank.
* `readInt?_eq_some_iff`: which number digits are read as.
* `not_reads_iff`: when digits are not read.
* `reads_iff_spells`: among ASCII digits only their number matters.
-/

namespace ModuleKeeper

namespace Text

/-! ## Classes of characters as ranges -/

/-- The ranges of everything that counts as a digit. -/
def digitRanges : List (Nat × Nat) := zeros.map (fun z => (z, z + 9)) ++ digitSigns

theorem isDigit_eq_inRanges (c : CodePoint) : isDigit c = inRanges digitRanges c.toNat := by
  have hdecimal : (decimalValue? c).isSome =
      inRanges (zeros.map fun z => (z, z + 9)) c.toNat := by
    rw [Bool.eq_iff_iff, decimalValue?, Option.isSome_map, List.find?_isSome, inRanges,
      List.any_map, List.any_eq_true]
    refine exists_congr fun z => and_congr_right fun _ => ?_
    simp only [Function.comp_apply, Bool.and_eq_true, decide_eq_true_eq]
    omega
  rw [isDigit, hdecimal]
  simp only [inRanges, digitRanges, List.any_append]

/-- Ranges of which each ends before the other begins have nothing in common. -/
theorem inRanges_eq_false {ranges others : List (Nat × Nat)} {n : Nat}
    (hapart : ∀ r ∈ ranges, ∀ o ∈ others, r.2 < o.1 ∨ o.2 < r.1)
    (h : inRanges ranges n = true) : inRanges others n = false := by
  simp only [inRanges, List.any_eq_true, Bool.and_eq_true, decide_eq_true_eq] at h
  obtain ⟨r, hr, hlow, hhigh⟩ := h
  rw [inRanges, List.any_eq_false]
  intro o ho hn
  simp only [Bool.and_eq_true, decide_eq_true_eq] at hn
  have hside := hapart r hr o ho
  omega

theorem isBlank_of_isDigit {c : CodePoint} (h : isDigit c = true) : isBlank c = false := by
  rw [isDigit_eq_inRanges] at h
  exact inRanges_eq_false (by decide +kernel) h

theorem decimalValue?_char {c : Char} (h : c.isDigit = true) :
    decimalValue? (.char c) = some (c.toNat - '0'.toNat) := by
  have hrange : 48 ≤ c.toNat ∧ c.toNat ≤ 57 := by
    simpa [Char.isDigit, UInt32.le_iff_toNat_le] using h
  have hfirst : (decide (0x30 ≤ c.toNat) && decide (c.toNat < 0x30 + 10)) = true := by
    simp only [Bool.and_eq_true, decide_eq_true_eq]
    omega
  rw [decimalValue?, zeros, List.find?_cons]
  show Option.map _ (match decide (0x30 ≤ c.toNat) && decide (c.toNat < 0x30 + 10) with
    | true => some 0x30
    | false => _) = _
  rw [hfirst]
  rfl

theorem isDigit_of_isDigit {c : CodePoint} (h : c.isDigit = true) : isDigit c = true := by
  cases c with
  | char c => exact isDigit_of_decimalValue? (decimalValue?_char h)
  | surrogate half => cases h

end Text

namespace Numeral

open ModuleKeeper.Text

/-! ## Runs of digits -/

theorem trimBy_eq_self {p : CodePoint → Bool} {cs : List CodePoint} (h : ∀ c ∈ cs, p c = false) :
    trimBy p cs = cs := by
  have hfront : ∀ ds : List CodePoint, (∀ c ∈ ds, p c = false) → ds.dropWhile p = ds := by
    intro ds hds
    cases ds with
    | nil => rfl
    | cons d ds => rw [List.dropWhile_cons, if_neg (by simp [hds d (by simp)])]
  have hback : ∀ c ∈ cs.reverse, p c = false := fun c hc => h c (List.mem_reverse.1 hc)
  rw [trimBy, trimEndBy, hfront cs h, hfront cs.reverse hback, List.reverse_reverse]

theorem splitSign_eq {cs : List CodePoint} (h : ∀ c ∈ cs, isDigit c = true) :
    splitSign cs = (false, cs) := by
  have hminus : isDigit '-' = false := by decide
  have hplus : isDigit '+' = false := by decide
  unfold splitSign
  split
  · have hhead := h (.char '-') (by simp)
    rw [hminus] at hhead
    cases hhead
  · have hhead := h (.char '+') (by simp)
    rw [hplus] at hhead
    cases hhead
  · rfl

theorem digitRunFrom_eq_some_iff {value : CodePoint → Option Nat} {cs : List CodePoint}
    (h : ∀ c ∈ cs, c ≠ '_') (after : Bool) (done ds : List Nat) :
    digitRunFrom value after done cs = some ds ↔
      (after = true ∨ cs ≠ []) ∧ ∃ values, cs.map value = values.map some ∧
        ds = done.reverse ++ values := by
  induction cs generalizing after done with
  | nil =>
      cases after with
      | false => simp [digitRunFrom]
      | true =>
          show some done.reverse = some ds ↔ _
          simp [eq_comm (a := ds)]
  | cons c cs ih =>
      rw [digitRunFrom, if_neg (h c (by simp))]
      cases hvalue : value c with
      | none =>
          constructor
          · exact fun hnone => nomatch hnone
          · rintro ⟨-, values, hvalues, -⟩
            rw [List.map_cons, hvalue] at hvalues
            cases values <;> cases hvalues
      | some d =>
          have hrest := ih (fun c' hc' => h c' (by simp [hc'])) true (d :: done)
          simp only [true_or, true_and, List.reverse_cons, List.append_assoc,
            List.singleton_append] at hrest
          show digitRunFrom value true (d :: done) cs = some ds ↔ _
          rw [hrest]
          constructor
          · rintro ⟨values, hvalues, rfl⟩
            exact ⟨.inr (by simp), d :: values, by simp [hvalue, hvalues], rfl⟩
          · rintro ⟨-, values, hvalues, rfl⟩
            cases values with
            | nil => cases hvalues
            | cons e values =>
                rw [List.map_cons, List.map_cons, hvalue] at hvalues
                obtain ⟨hhead, htail⟩ := List.cons.inj hvalues
                exact ⟨values, htail, by rw [Option.some.inj hhead]⟩

/-! ## What digits are read as -/

/--
Decimal digits, of whatever script, make a number.  There is at least one, and
there are not too many.
-/
def Reads (digits : List CodePoint) (n : Nat) : Prop :=
  digits ≠ [] ∧ digits.length ≤ digitLimit ∧
    ∃ values : List Nat, digits.map decimalValue? = values.map some ∧
      Nat.ofDigits 10 values.reverse = n

/-- The digits of ASCII spell a number. -/
def Spells (digits : List CodePoint) (n : Nat) : Prop :=
  ∃ cs : List Char, digits = cs.map CodePoint.char ∧ cs ≠ [] ∧ (∀ c ∈ cs, c.isDigit = true) ∧
    Nat.ofDigitChars 10 cs 0 = n

theorem valueOf_eq_ofDigits (values : List Nat) :
    valueOf 10 0 values = Nat.ofDigits 10 values.reverse := by
  rw [Nat.ofDigits_eq_foldr, List.foldr_reverse, valueOf]
  congr 1
  funext n d
  show n * 10 + d = d + 10 * n
  omega

variable {digits : List CodePoint} {n : Nat}

theorem isDigits_iff : isDigits digits = true ↔ digits ≠ [] ∧ ∀ c ∈ digits, isDigit c = true := by
  simp [isDigits]

/-- Digits are read as the number that their values make. -/
theorem readInt?_eq_some_iff (h : isDigits digits = true) {k : Int} :
    readInt? digits = some k ↔ ∃ n, Reads digits n ∧ k = n := by
  obtain ⟨hne, hall⟩ := isDigits_iff.1 h
  have hblank : ∀ c ∈ digits, isOuterBlank c = false := by
    intro c hc
    rw [isOuterBlank, isBlank_of_isDigit (hall c hc), Bool.false_and]
  have hunderscore : ∀ c ∈ digits, c ≠ '_' := by
    rintro c hc rfl
    exact absurd (hall _ hc) (by decide)
  have hrun : ∀ ds, digitRun? decimalValue? digits = some ds ↔
      digits.map decimalValue? = ds.map some := by
    intro ds
    rw [digitRun?, digitRunFrom_eq_some_iff hunderscore]
    simp [hne]
  rw [readInt?, trimBy_eq_self hblank, splitSign_eq hall]
  dsimp only
  constructor
  · intro hread
    split at hread
    · rename_i ds hds
      have hvalues := (hrun ds).1 hds
      have hlength : digits.length = ds.length := by
        simpa using congrArg List.length hvalues
      split at hread
      · rename_i hshort
        refine ⟨valueOf 10 0 ds, ⟨hne, by omega, ds, hvalues, (valueOf_eq_ofDigits ds).symm⟩, ?_⟩
        exact (Option.some.inj hread).symm
      · cases hread
    · cases hread
  · rintro ⟨n, ⟨-, hshort, ds, hvalues, rfl⟩, rfl⟩
    have hlength : digits.length = ds.length := by
      simpa using congrArg List.length hvalues
    rw [(hrun ds).2 hvalues]
    show (if ds.length ≤ digitLimit then _ else _) = _
    rw [if_pos (by omega), valueOf_eq_ofDigits]
    rfl

/-- Digits are not read if one of them has no value or if there are too many. -/
theorem not_reads_iff (hne : digits ≠ []) :
    (¬∃ n, Reads digits n) ↔ digitLimit < digits.length ∨ ∃ c ∈ digits, decimalValue? c = none := by
  constructor
  · intro h
    by_cases hshort : digits.length ≤ digitLimit
    · right
      by_contra hvalues
      have hsome : ∀ c ∈ digits, (decimalValue? c).isSome = true := by
        intro c hc
        by_contra hnone
        exact hvalues ⟨c, hc, by simpa using hnone⟩
      refine h ⟨_, hne, hshort, digits.map fun c => (decimalValue? c).getD 0, ?_, rfl⟩
      rw [List.map_map]
      refine List.map_congr_left fun c hc => ?_
      obtain ⟨d, hd⟩ := Option.isSome_iff_exists.1 (hsome c hc)
      simp [hd]
    · exact .inl (Nat.lt_of_not_le hshort)
  · rintro (hlong | ⟨c, hc, hnone⟩) ⟨n, -, hshort, values, hvalues, -⟩
    · omega
    · have hmem : decimalValue? c ∈ values.map some := hvalues ▸ List.mem_map_of_mem hc
      rw [hnone] at hmem
      obtain ⟨d, -, hd⟩ := List.mem_map.1 hmem
      cases hd

theorem Reads.isDigits (h : Reads digits n) : isDigits digits = true := by
  obtain ⟨hne, -, values, hvalues, -⟩ := h
  refine isDigits_iff.2 ⟨hne, fun c hc => ?_⟩
  have hmem : decimalValue? c ∈ values.map some := hvalues ▸ List.mem_map_of_mem hc
  obtain ⟨d, -, hd⟩ := List.mem_map.1 hmem
  exact isDigit_of_decimalValue? hd.symm

/-! ## The digits of ASCII -/

theorem exists_chars_of_isDigit (h : ∀ c ∈ digits, c.isDigit = true) :
    ∃ cs : List Char, digits = cs.map CodePoint.char ∧ ∀ c ∈ cs, c.isDigit = true := by
  induction digits with
  | nil => exact ⟨[], rfl, by simp⟩
  | cons d digits ih =>
      obtain ⟨cs, rfl, hcs⟩ := ih fun c hc => h c (by simp [hc])
      have hd := h d (by simp)
      cases d with
      | char c =>
          refine ⟨c :: cs, rfl, fun c' hc' => ?_⟩
          rcases List.mem_cons.1 hc' with rfl | hc'
          · exact hd
          · exact hcs c' hc'
      | surrogate half => cases hd

/-- The values of ASCII digits make the number that the digits spell. -/
theorem ofDigits_values (cs : List Char) :
    Nat.ofDigits 10 (cs.map fun c => c.toNat - '0'.toNat).reverse = Nat.ofDigitChars 10 cs 0 := by
  rw [Nat.ofDigits_eq_foldr, List.foldr_reverse, List.foldl_map, Nat.ofDigitChars_eq_foldl]
  congr 1
  funext n c
  exact Nat.add_comm _ _

/-- Of ASCII digits every run is read that is not too long. -/
theorem reads_iff_spells (hplain : ∀ c ∈ digits, isDigit c = true → c.isDigit = true)
    (hshort : (∀ c ∈ digits, c.isDigit = true) → digits.length ≤ digitLimit) :
    Reads digits n ↔ Spells digits n := by
  have hvalues : ∀ cs : List Char, (∀ c ∈ cs, c.isDigit = true) →
      (cs.map CodePoint.char).map decimalValue? =
        (cs.map fun c => c.toNat - '0'.toNat).map some := by
    intro cs hcs
    rw [List.map_map, List.map_map]
    exact List.map_congr_left fun c hc => decimalValue?_char (hcs c hc)
  constructor
  · intro h
    have hall := (isDigits_iff.1 h.isDigits).2
    obtain ⟨cs, rfl, hcs⟩ := exists_chars_of_isDigit fun c hc => hplain c hc (hall c hc)
    obtain ⟨hne, -, values, hread, rfl⟩ := h
    have hsame : values = cs.map fun c => c.toNat - '0'.toNat :=
      List.map_injective_iff.2 (Option.some_injective Nat) (hread.symm.trans (hvalues cs hcs))
    exact ⟨cs, rfl, by simpa using hne, hcs, by rw [hsame, ofDigits_values]⟩
  · rintro ⟨cs, rfl, hne, hcs, rfl⟩
    have hdigits : ∀ c ∈ cs.map CodePoint.char, c.isDigit = true := by
      intro c hc
      obtain ⟨d, hd, rfl⟩ := List.mem_map.1 hc
      exact hcs d hd
    exact ⟨by simpa using hne, hshort hdigits, _, hvalues cs hcs, ofDigits_values cs⟩

theorem exists_reads (h : isDigits digits = true)
    (hplain : ∀ c ∈ digits, isDigit c = true → c.isDigit = true)
    (hshort : (∀ c ∈ digits, c.isDigit = true) → digits.length ≤ digitLimit) :
    ∃ n, Reads digits n := by
  obtain ⟨hne, hall⟩ := isDigits_iff.1 h
  obtain ⟨cs, rfl, hcs⟩ := exists_chars_of_isDigit fun c hc => hplain c hc (hall c hc)
  exact ⟨_, (reads_iff_spells hplain hshort).2 ⟨cs, rfl, by simpa using hne, hcs, rfl⟩⟩

/-- A number is spelled by its decimal digits. -/
theorem spells_decimal (n : Nat) : Spells (decimal n) n :=
  ⟨Nat.toDigits 10 n, rfl, Nat.toDigits_ne_nil,
    fun _ hc => Nat.isDigit_of_mem_toDigits (by decide) (by decide) hc,
    Nat.ofDigitChars_ten_toDigits⟩

end Numeral

end ModuleKeeper
