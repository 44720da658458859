import ModuleKeeper.Yaml.Scalar

/-!
# Scalars that are not what their tags say

A tag says what a scalar is, and the text of the scalar need not agree.  Most
disagreements make the document malformed or a value in it bad.  Some do not:
they come to light in a step of reading that was not made for them.  These are
told apart here, tag by tag, with the texts that lead to them.

## Main results

* `sixtieths_eq_error_iff`: groups of sixty are too many from the 175th on.
* `foreseen_or_of_read`, `fails_iff`: the texts that lead to a trouble of this kind.
-/

namespace ModuleKeeper.Yaml

/-- The troubles that every document may have; those who read documents are ready for them. -/
def Trouble.Foreseen (t : Trouble) : Prop := t = .malformed ∨ t = .badValue ∨ t = .badEncoding

theorem Trouble.foreseen_malformed : Trouble.malformed.Foreseen := .inl rfl

theorem Trouble.foreseen_badValue : Trouble.badValue.Foreseen := .inr (.inl rfl)

namespace Scalar

variable {tag : Text} {cs : List CodePoint} {t : Trouble}

/-! ## Groups of sixty -/

/-- The number of groups of sixty that a number with a point has room for. -/
def groupLimit : Nat := 174

theorem isFinite_weight : ∀ k < groupLimit, (Double.ofInt (Int.pow 60 k)).isFinite = true := by
  decide +kernel

theorem weight_groupLimit : Double.ofInt (Int.pow 60 groupLimit) = .infinite false := by
  decide +kernel

/-- Below the limit the weight of a group is a number, and the next group is added. -/
theorem sixtieths_cons {k : Nat} (h : k < groupLimit) (d : Double) (ds : List Double)
    (sum : Double) : sixtieths (Int.pow 60 k) (d :: ds) sum =
      sixtieths (Int.pow 60 (k + 1)) ds (sum.add (d.mul (Double.ofInt (Int.pow 60 k)))) := by
  have hfinite := isFinite_weight k h
  rw [sixtieths]
  split
  · rename_i negative hinfinite
    rw [hinfinite] at hfinite
    cases hfinite
  · rfl

theorem sixtieths_eq_error_iff (ds : List Double) {k : Nat} (hk : k ≤ groupLimit) (sum : Double) :
    sixtieths (Int.pow 60 k) ds sum = .error t ↔ t = .overflow ∧ groupLimit < k + ds.length := by
  induction ds generalizing k sum with
  | nil =>
      refine iff_of_false nofun ?_
      rintro ⟨-, hlong⟩
      exact absurd hlong (Nat.not_lt.2 hk)
  | cons d ds ih =>
      by_cases hlast : k = groupLimit
      · subst hlast
        have herror : sixtieths (Int.pow 60 groupLimit) (d :: ds) sum = .error .overflow := by
          unfold sixtieths
          rw [weight_groupLimit]
        rw [herror, List.length_cons]
        constructor
        · intro h
          exact ⟨(Except.error.inj h).symm, by omega⟩
        · rintro ⟨rfl, -⟩
          rfl
      · have hless : k < groupLimit := by omega
        rw [sixtieths_cons hless, ih hless, List.length_cons, Nat.succ_add_eq_add_succ]

theorem colonPartsFrom_of_not_mem (h : CodePoint.char ':' ∉ cs) (part : List CodePoint)
    (done : List (List CodePoint)) :
    colonPartsFrom part done cs = (((cs.reverse ++ part).reverse) :: done).reverse := by
  induction cs generalizing part with
  | nil => rfl
  | cons c cs ih =>
      rw [List.mem_cons, not_or] at h
      unfold colonPartsFrom
      have hreverse : (c :: cs).reverse ++ part = cs.reverse ++ c :: part := by
        rw [List.reverse_cons, List.append_assoc, List.singleton_append]
      rw [if_neg (Ne.symm h.1), ih h.2, hreverse]

/-- A text of more than one part has a colon. -/
theorem mem_colon_of_colonParts (h : 1 < (colonParts cs).length) : CodePoint.char ':' ∈ cs := by
  refine Decidable.byContradiction fun hnone => ?_
  rw [colonParts, colonPartsFrom_of_not_mem hnone] at h
  exact Nat.lt_irrefl 1 h

/-! ## Tags and texts that do not agree -/

/-- The scalars that lead to a trouble for which no reader of documents is ready. -/
inductive Fails : Text → List CodePoint → Trouble → Prop
  /-- A truth value that is no word for one. -/
  | unknownWord {cs : List CodePoint}
      (h : ∀ w ∈ boolWords, w.1 ≠ Text.ofList (cs.map CodePoint.toLower)) :
      Fails Tag.bool cs .missingKey
  /-- A whole number of which nothing but a sign and underscores is written. -/
  | noDigits {cs : List CodePoint} (h : unsigned (withoutUnderscores cs) = []) :
      Fails Tag.int cs .outOfRange
  /-- A number with a point of which nothing but underscores is written. -/
  | nothing {cs : List CodePoint} (h : withoutUnderscores cs = []) : Fails Tag.float cs .outOfRange
  /-- A number with a point in too many groups of sixty. -/
  | manyGroups {cs : List CodePoint} {groups : List Double}
      (h : (colonParts (unsigned (floatText cs))).mapM Numeral.readDouble? = some groups)
      (hlong : groupLimit < groups.length) : Fails Tag.float cs .overflow
  /-- A point in time that does not have the form of one. -/
  | noTime {cs : List CodePoint} (h : Stamp.ofText? (withoutFinalBreak cs) = none) :
      Fails Tag.timestamp cs .missingAttribute

theorem Fails.not_foreseen (h : Fails tag cs t) : ¬t.Foreseen := by
  cases h <;> simp [Trouble.Foreseen]

/-- No text fails to be a text. -/
theorem Fails.ne_str (h : Fails tag cs t) : tag ≠ Tag.str := by
  cases h <;> decide

/-! ### Numbers with a point -/

theorem length_of_mapM {α β : Type} {f : α → Option β} {xs : List α} {ys : List β}
    (h : xs.mapM f = some ys) : ys.length = xs.length := by
  induction xs generalizing ys with
  | nil =>
      cases h
      rfl
  | cons x xs ih =>
      rw [List.mapM_cons, Option.bind_eq_bind, Option.bind_eq_some_iff] at h
      obtain ⟨y, -, h⟩ := h
      rw [Option.bind_eq_bind, Option.bind_eq_some_iff] at h
      obtain ⟨zs, hzs, h⟩ := h
      cases h
      exact congrArg (· + 1) (ih hzs)

theorem absolute_eq_overflow {groups : List Double}
    (h : (colonParts cs).mapM Numeral.readDouble? = some groups)
    (hlong : groupLimit < groups.length) : absolute cs = .error .overflow := by
  have hparts : 1 < (colonParts cs).length := by
    rw [← length_of_mapM h]
    exact Nat.lt_trans (by decide) hlong
  have hcolon := mem_colon_of_colonParts hparts
  unfold absolute
  rw [if_neg (by rintro rfl; revert hcolon; decide), if_neg (by rintro rfl; revert hcolon; decide),
    if_pos (List.contains_iff_mem.2 hcolon), h]
  have hweight := (sixtieths_eq_error_iff (t := .overflow) groups.reverse (k := 0)
    (Nat.zero_le _) (Double.zero false)).2 ⟨rfl, by rwa [List.length_reverse, Nat.zero_add]⟩
  exact hweight

theorem foreseen_or_of_absolute (h : absolute cs = .error t) :
    t.Foreseen ∨ t = .overflow ∧ ∃ groups : List Double,
      (colonParts cs).mapM Numeral.readDouble? = some groups ∧ groupLimit < groups.length := by
  unfold absolute at h
  split at h
  · cases h
  · split at h
    · cases h
    · split at h
      · split at h
        · rename_i groups hgroups
          obtain ⟨rfl, hlong⟩ := (sixtieths_eq_error_iff groups.reverse (k := 0)
            (Nat.zero_le _) (Double.zero false)).1 h
          rw [List.length_reverse, Nat.zero_add] at hlong
          exact .inr ⟨rfl, groups, hgroups, hlong⟩
        · cases h
          exact .inl Trouble.foreseen_badValue
      · split at h
        · cases h
        · cases h
          exact .inl Trouble.foreseen_badValue

theorem floatText_eq_nil_iff : floatText cs = [] ↔ withoutUnderscores cs = [] := List.map_eq_nil_iff

/-! ### All scalars -/

theorem fails_of_readBool (h : readBool cs = .error t) : Fails Tag.bool cs t := by
  unfold readBool at h
  split at h
  · cases h
  · rename_i hnone
    cases h
    refine .unknownWord ?_
    intro w hw heq
    exact absurd (beq_iff_eq.2 heq) (List.find?_eq_none.1 hnone w hw)

theorem foreseen_or_of_readInt (h : readInt cs = .error t) : t.Foreseen ∨ Fails Tag.int cs t := by
  unfold readInt at h
  dsimp only at h
  split at h
  · rename_i hempty
    cases h
    exact .inr (.noDigits (List.isEmpty_iff.1 hempty))
  · split at h
    · cases h
    · cases h
      exact .inl Trouble.foreseen_badValue

theorem foreseen_or_of_readFloat (h : readFloat cs = .error t) :
    t.Foreseen ∨ Fails Tag.float cs t := by
  unfold readFloat at h
  dsimp only at h
  split at h
  · rename_i hempty
    cases h
    exact .inr (.nothing (floatText_eq_nil_iff.1 (List.isEmpty_iff.1 hempty)))
  · cases habsolute : absolute (unsigned (floatText cs)) with
    | ok x =>
        rw [habsolute] at h
        cases h
    | error u =>
        rw [habsolute] at h
        cases h
        rcases foreseen_or_of_absolute habsolute with hforeseen | ⟨rfl, groups, hgroups, hlong⟩
        · exact .inl hforeseen
        · exact .inr (.manyGroups hgroups hlong)

theorem foreseen_or_of_readTimestamp (h : readTimestamp cs = .error t) :
    t.Foreseen ∨ Fails Tag.timestamp cs t := by
  unfold readTimestamp at h
  split at h
  · rename_i hnone
    cases h
    exact .inr (.noTime hnone)
  · split at h
    · cases h
    · cases h
      exact .inl Trouble.foreseen_badValue

/-- A scalar that cannot be read leads to a trouble of documents, unless it is one of these. -/
theorem foreseen_or_of_read (h : read tag cs = .error t) : t.Foreseen ∨ Fails tag cs t := by
  unfold read at h
  by_cases hnull : tag = Tag.null
  · rw [if_pos hnull] at h
    cases h
  rw [if_neg hnull] at h
  by_cases hbool : tag = Tag.bool
  · rw [if_pos hbool] at h
    subst hbool
    exact .inr (fails_of_readBool h)
  rw [if_neg hbool] at h
  by_cases hint : tag = Tag.int
  · rw [if_pos hint] at h
    subst hint
    exact foreseen_or_of_readInt h
  rw [if_neg hint] at h
  by_cases hfloat : tag = Tag.float
  · rw [if_pos hfloat] at h
    subst hfloat
    exact foreseen_or_of_readFloat h
  rw [if_neg hfloat] at h
  by_cases hbinary : tag = Tag.binary
  · rw [if_pos hbinary] at h
    unfold readBinary at h
    split at h
    · cases h
    · cases h
      exact .inl Trouble.foreseen_malformed
  rw [if_neg hbinary] at h
  by_cases htime : tag = Tag.timestamp
  · rw [if_pos htime] at h
    subst htime
    exact foreseen_or_of_readTimestamp h
  rw [if_neg htime] at h
  by_cases hstr : tag = Tag.str
  · rw [if_pos hstr] at h
    cases h
  rw [if_neg hstr] at h
  cases h
  exact .inl Trouble.foreseen_malformed

/-- These scalars do lead to their troubles. -/
theorem Fails.read (h : Fails tag cs t) : read tag cs = .error t := by
  cases h with
  | unknownWord h =>
      show readBool cs = _
      unfold readBool
      rw [List.find?_eq_none.2 fun w hw heq => h w hw (beq_iff_eq.1 heq)]
  | noDigits h =>
      show readInt cs = _
      unfold readInt
      dsimp only
      rw [h]
      rfl
  | nothing h =>
      show readFloat cs = _
      unfold readFloat
      rw [floatText_eq_nil_iff.2 h]
      rfl
  | manyGroups h hlong =>
      show readFloat cs = _
      have hne : floatText cs ≠ [] := by
        intro hnil
        rw [hnil] at h
        have hlength := length_of_mapM h
        simp [groupLimit, unsigned, colonParts, colonPartsFrom] at hlength hlong
        omega
      unfold readFloat
      dsimp only
      rw [if_neg (fun hempty => hne (List.isEmpty_iff.1 hempty)), absolute_eq_overflow h hlong]
      rfl
  | noTime h =>
      show readTimestamp cs = _
      unfold readTimestamp
      rw [h]

/-- The scalars that fail in a way that is not foreseen are exactly these. -/
theorem fails_iff : Fails tag cs t ↔ Scalar.read tag cs = .error t ∧ ¬t.Foreseen := by
  constructor
  · exact fun h => ⟨h.read, h.not_foreseen⟩
  · rintro ⟨hread, hunforeseen⟩
    exact (foreseen_or_of_read hread).resolve_left hunforeseen

/-! ## What scalars are not -/

theorem readFloat_ne_map (entries : List (Value × Value)) : readFloat cs ≠ .ok (.map entries) := by
  unfold readFloat
  dsimp only
  split
  · nofun
  · cases absolute (unsigned (floatText cs)) <;> nofun

theorem readTimestamp_ne_map (entries : List (Value × Value)) :
    readTimestamp cs ≠ .ok (.map entries) := by
  intro h
  unfold readTimestamp at h
  split at h
  · cases h
  · split at h
    · rename_i v hvalue
      obtain rfl := Except.ok.inj h
      unfold Stamp.value? at hvalue
      dsimp only at hvalue
      repeat' split at hvalue
      all_goals cases hvalue
    · cases h

/-- No scalar is a map. -/
theorem read_ne_map (entries : List (Value × Value)) : read tag cs ≠ .ok (.map entries) := by
  intro h
  unfold read at h
  split at h
  · cases h
  split at h
  · unfold readBool at h
    split at h <;> cases h
  split at h
  · unfold readInt at h
    dsimp only at h
    repeat' split at h
    all_goals cases h
  split at h
  · exact readFloat_ne_map entries h
  split at h
  · unfold readBinary at h
    split at h <;> cases h
  split at h
  · exact readTimestamp_ne_map entries h
  split at h <;> cases h

end Scalar

end ModuleKeeper.Yaml
