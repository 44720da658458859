import Mathlib.Data.List.Nodup
import Mathlib.Data.List.TakeWhile
import ModuleKeeper.Json.Reader
import ModuleKeeper.Proofs.Numerals

/-!
# What JSON spells

A text that is read as JSON gives a value of few kinds: no dates and no bytes,
and maps only with texts for keys, none of which comes twice.  This file says
which values these are, apart from the reader (`IsData`), and follows the
reader once to see that it gives no others.

The reader stops at a text that is malformed.  It also stops at a whole number
with too many digits, which is not a matter of form.  The same walk shows that
such a number stands in the text (`HasLongRun`).

## Main results

* `sound_valueAt`: each step gives data, or it stops at a long number of its text.
* `isData_of_read`: what a text spells is data.
* `hasLongRun_of_read`: only a long run of digits is too long.
-/

namespace ModuleKeeper.Json

open ModuleKeeper.Text

/-! ## Data -/

/--
The values that a text can spell.  A whole number has as many digits as are read at most,
and the keys of a map are texts of which none comes twice.
-/
inductive IsData : Value → Prop
  | null : IsData .null
  | bool (b : Bool) : IsData (.bool b)
  | int {n : Int} (hshort : n.natAbs < Nat.pow 10 Numeral.digitLimit) : IsData (.int n)
  | float (x : Double) : IsData (.float x)
  | str (s : Text) : IsData (.str s)
  | list {items : List Value} (hitems : ∀ v ∈ items, IsData v) : IsData (.list items)
  | map {entries : List (Value × Value)} (hkeys : ∀ e ∈ entries, ∃ s, e.1 = .str s)
      (hdistinct : (entries.map Prod.fst).Nodup) (hvalues : ∀ e ∈ entries, IsData e.2) :
      IsData (.map entries)

/-- The entries of a map that is data. -/
structure AreData (entries : List (Value × Value)) : Prop where
  keys : ∀ e ∈ entries, ∃ s, e.1 = .str s
  distinct : (entries.map Prod.fst).Nodup
  values : ∀ e ∈ entries, IsData e.2

theorem AreData.isData {entries : List (Value × Value)} (h : AreData entries) :
    IsData (.map entries) := .map h.keys h.distinct h.values

theorem areData_nil : AreData [] := ⟨by simp, by simp, by simp⟩

/-- An entry that is put under a text keeps its place, or it comes last under a new key. -/
theorem map_fst_put {α : Type} (name : Text) (v : α) {entries : List (Value × α)}
    (hkeys : ∀ e ∈ entries, ∃ s, e.1 = .str s) :
    (Value.put (.str name) v entries).map Prod.fst = entries.map Prod.fst ∨
      .str name ∉ entries.map Prod.fst ∧
        (Value.put (.str name) v entries).map Prod.fst = entries.map Prod.fst ++ [.str name] := by
  induction entries with
  | nil => exact .inr ⟨by simp, rfl⟩
  | cons e es ih =>
      obtain ⟨s, hs⟩ := hkeys e (by simp)
      have hkey : Value.sameKey e.1 (.str name) = (s == name) := by rw [hs, Value.sameKey]
      rw [Value.put, hkey]
      by_cases hname : s = name
      · exact .inl (by simp [hname])
      · rw [if_neg (by simpa using hname), List.map_cons, List.map_cons, hs]
        refine (ih fun f hf => hkeys f (by simp [hf])).imp (congrArg (Value.str s :: ·)) ?_
        rintro ⟨hnew, hlast⟩
        refine ⟨?_, congrArg (Value.str s :: ·) hlast⟩
        rw [List.mem_cons, not_or]
        exact ⟨fun h => hname (Value.str.inj h).symm, hnew⟩

theorem mem_put {α : Type} {key : Value} {v : α} {entries : List (Value × α)} {e : Value × α}
    (h : e ∈ Value.put key v entries) : e ∈ entries ∨ e.2 = v := by
  induction entries with
  | nil => exact .inr (by rw [List.mem_singleton.1 h])
  | cons d ds ih =>
      rw [Value.put] at h
      split at h
      · rcases List.mem_cons.1 h with rfl | h
        · exact .inr rfl
        · exact .inl (.tail _ h)
      · rcases List.mem_cons.1 h with rfl | h
        · exact .inl (.head _)
        · exact (ih h).imp_left (.tail _)

theorem AreData.put {entries : List (Value × Value)} (h : AreData entries) (name : Text)
    {v : Value} (hv : IsData v) : AreData (Value.put (.str name) v entries) := by
  have hold : ∀ k ∈ entries.map Prod.fst, ∃ s, k = .str s := by
    intro k hk
    obtain ⟨e, he, rfl⟩ := List.mem_map.1 hk
    exact h.keys e he
  have hvalues : ∀ e ∈ Value.put (.str name) v entries, IsData e.2 := fun e he =>
    (mem_put he).elim (h.values e) fun hnew => hnew ▸ hv
  rcases map_fst_put name v h.keys with hfst | ⟨hnew, hfst⟩
  · refine ⟨fun e he => hold e.1 ?_, hfst ▸ h.distinct, hvalues⟩
    exact hfst ▸ List.mem_map_of_mem he
  · refine ⟨fun e he => ?_, ?_, hvalues⟩
    · have hkey : e.1 ∈ entries.map Prod.fst ++ [.str name] := hfst ▸ List.mem_map_of_mem he
      rcases List.mem_append.1 hkey with hkey | hkey
      · exact hold e.1 hkey
      · exact ⟨name, List.mem_singleton.1 hkey⟩
    · rw [hfst, List.nodup_append]
      refine ⟨h.distinct, List.nodup_singleton _, fun a ha b hb => ?_⟩
      rintro rfl
      exact hnew (List.mem_singleton.1 hb ▸ ha)

/-! ## Numbers -/

theorem digit_lt {c : CodePoint} (h : c.isDigit = true) : c.toNat - '0'.toNat < 10 := by
  cases c with
  | char c =>
      have hrange : 48 ≤ c.toNat ∧ c.toNat ≤ 57 := by
        simpa [CodePoint.isDigit, CodePoint.isCharWith, Char.isDigit, UInt32.le_iff_toNat_le]
          using h
      show c.toNat - 48 < 10
      omega
  | surrogate half => cases h

theorem digitsValue_lt {ds : List CodePoint} {n : Nat} (h : ∀ d ∈ ds, d.isDigit = true)
    (hlen : ds.length ≤ n) : digitsValue ds < Nat.pow 10 n := by
  have hdigits : ∀ k ∈ ds.map (fun d => d.toNat - '0'.toNat), k < 10 := by
    intro k hk
    obtain ⟨d, hd, rfl⟩ := List.mem_map.1 hk
    exact digit_lt (h d hd)
  have hlt := Nat.ofDigits_lt_base_pow_length (b := 10) (by decide)
    fun k hk => hdigits k (List.mem_reverse.1 hk)
  rw [List.length_reverse, List.length_map] at hlt
  rw [digitsValue, Numeral.valueOf_eq_ofDigits]
  exact hlt.trans_le (Nat.pow_le_pow_right (by decide) hlen)

theorem isDigit_of_mem_wholeDigits {cs : List CodePoint} {d : CodePoint}
    (h : d ∈ wholeDigits cs) : d.isDigit = true := by
  unfold wholeDigits at h
  split at h
  · rw [List.mem_singleton.1 h]
    rfl
  · exact List.mem_takeWhile_imp h

theorem wholeDigits_isPrefix (cs : List CodePoint) : wholeDigits cs <+: cs := by
  unfold wholeDigits
  split
  · exact ⟨_, rfl⟩
  · exact List.takeWhile_prefix _

/-! ## The walk of the reader -/

/-- A text in which more digits stand side by side than a whole number may have. -/
def HasLongRun (cs : List CodePoint) : Prop :=
  ∃ digits, digits <:+: cs ∧ (∀ d ∈ digits, d.isDigit = true) ∧ Numeral.digitLimit < digits.length

theorem HasLongRun.of_isInfix {cs part : List CodePoint} (h : HasLongRun part)
    (hpart : part <:+: cs) : HasLongRun cs := by
  obtain ⟨digits, hin, hdigits, hlong⟩ := h
  exact ⟨digits, hin.trans hpart, hdigits, hlong⟩

/--
A step leaves a rest of its text behind something good.  If a number stops it, this number
stands in the text.
-/
def Sound {α : Type} (good : α → Prop) (cs : List CodePoint) : Step α → Prop
  | .ok (a, rest) => good a ∧ rest <:+ cs
  | .error (.at _ _) => True
  | .error .tooManyDigits => HasLongRun cs

namespace Sound

variable {α : Type} {good : α → Prop} {cs rest : List CodePoint} {step : Step α}

theorem of_suffix (h : Sound good rest step) (hrest : rest <:+ cs) : Sound good cs step := by
  unfold Sound at h ⊢
  split
  · exact ⟨h.1, h.2.trans hrest⟩
  · trivial
  · exact h.of_isInfix hrest.isInfix

theorem error {β : Type} {good' : β → Prop} {o : Obstacle}
    (h : Sound good cs (.error o : Step α)) : Sound good' cs (.error o : Step β) := by
  cases o with
  | «at» reason left => trivial
  | tooManyDigits => exact h

theorem of_ok {a : α} (h : Sound good cs step) (hstep : step = .ok (a, rest)) :
    good a ∧ rest <:+ cs := by
  rw [hstep] at h
  exact h

theorem map {β : Type} {good' : β → Prop} {f : α → β} (h : Sound good cs step)
    (hf : ∀ a, good a → good' (f a)) :
    Sound good' cs (step.map fun (a, rest) => (f a, rest)) := by
  cases step with
  | error o => exact h.error
  | ok p => exact ⟨hf p.1 h.1, h.2⟩

end Sound

/-! ### Texts -/

theorem sound_textFrom (opening : Nat) (done cs : List CodePoint) :
    Sound (fun _ => True) cs (textFrom opening done cs) := by
  fun_induction textFrom opening done cs
  case case2 => exact ⟨trivial, List.suffix_cons _ _⟩
  case case6 | case7 | case8 | case9 | case11 | case14 =>
    refine Sound.of_suffix ‹_› ?_
    simp only [List.suffix_cons_iff, List.suffix_refl, or_true]
  all_goals trivial

/-! ### Numbers and words -/

theorem places_suffix (cs : List CodePoint) : (places cs).2 <:+ cs := by
  unfold places
  split
  · dsimp only
    split
    · exact List.suffix_refl _
    · exact (List.dropWhile_suffix _).trans (List.suffix_cons _ _)
  · exact List.suffix_refl _

theorem splitSign_suffix (cs : List CodePoint) : (Numeral.splitSign cs).2 <:+ cs := by
  unfold Numeral.splitSign
  split
  · exact List.suffix_cons _ _
  · exact List.suffix_cons _ _
  · exact List.suffix_refl _

theorem exponent?_suffix {cs ds rest : List CodePoint} {below : Bool}
    (h : exponent? cs = some (below, ds, rest)) : rest <:+ cs := by
  unfold exponent? at h
  split at h
  · split at h
    · dsimp only at h
      split at h
      · cases h
      · cases h
        exact ((List.dropWhile_suffix _).trans (splitSign_suffix _)).trans (List.suffix_cons _ _)
    · cases h
  · cases h

theorem isData_signed (negative : Bool) {n : Nat} (h : n < Nat.pow 10 Numeral.digitLimit) :
    IsData (.int (Numeral.signed negative n)) := by
  refine .int ?_
  cases negative with
  | false => exact h
  | true => rwa [Numeral.signed, if_pos rfl, Int.natAbs_neg]

theorem sound_numberAfterSign {negative : Bool} {cs : List CodePoint} {step : Step Value}
    (h : numberAfterSign negative cs = some step) : Sound IsData cs step := by
  have hwhole : ∀ d ∈ wholeDigits cs, d.isDigit = true := fun _ => isDigit_of_mem_wholeDigits
  have hbehind : (places (cs.drop (wholeDigits cs).length)).2 <:+ cs :=
    (places_suffix _).trans (List.drop_suffix _ _)
  unfold numberAfterSign at h
  dsimp only at h
  split at h
  · cases h
  split at h
  · rename_i hexponent
    cases h
    exact ⟨.float _, (exponent?_suffix hexponent).trans hbehind⟩
  · split at h
    · split at h
      · rename_i hlong
        cases h
        exact ⟨wholeDigits cs, (wholeDigits_isPrefix cs).isInfix, hwhole, hlong⟩
      · rename_i hshort
        cases h
        exact ⟨isData_signed negative (digitsValue_lt hwhole (Nat.le_of_not_lt hshort)), hbehind⟩
    · cases h
      exact ⟨.float _, hbehind⟩

theorem sound_number (cs : List CodePoint) : Sound IsData cs (number cs) := by
  unfold number
  dsimp only
  split
  · rename_i rest
    cases hstep : numberAfterSign true rest with
    | none => trivial
    | some step => exact (sound_numberAfterSign hstep).of_suffix (List.suffix_cons _ _)
  · cases hstep : numberAfterSign false cs with
    | none => trivial
    | some step => exact sound_numberAfterSign hstep

theorem isData_of_mem_constants {w : List CodePoint × Value} (h : w ∈ constants) : IsData w.2 := by
  simp only [constants, List.mem_cons, List.not_mem_nil, or_false] at h
  rcases h with rfl | rfl | rfl | rfl | rfl | rfl
  · exact .null
  · exact .bool true
  · exact .bool false
  · exact .float _
  · exact .float _
  · exact .float _

theorem sound_scalar (cs : List CodePoint) : Sound IsData cs (scalar cs) := by
  unfold scalar
  split
  · rename_i w hw
    exact ⟨isData_of_mem_constants (List.mem_of_find?_eq_some hw), List.drop_suffix _ _⟩
  · exact sound_number cs

/-! ### Values -/

theorem skip_suffix (cs : List CodePoint) : skip cs <:+ cs := List.dropWhile_suffix _

theorem suffix_of_skip {cs rest : List CodePoint} {c : CodePoint} (h : skip cs = c :: rest) :
    rest <:+ cs := (List.suffix_cons c rest).trans (h ▸ skip_suffix cs)

mutual

/-- Every step of the reader gives data, or it stops at a long number of its text. -/
theorem sound_valueAt (fuel : Nat) (cs : List CodePoint) : Sound IsData cs (valueAt fuel cs) := by
  cases fuel with
  | zero => trivial
  | succ fuel =>
      unfold valueAt
      split
      · rename_i rest
        have htext := sound_textFrom (CodePoint.char '"' :: rest).length [] rest
        exact (htext.map fun s _ => .str s).of_suffix (List.suffix_cons _ _)
      · rename_i rest
        split
        · rename_i behind hskip
          exact ⟨.list (by simp), (suffix_of_skip hskip).trans (List.suffix_cons _ _)⟩
        · exact (sound_itemsFrom fuel (by simp) _).of_suffix
            ((skip_suffix rest).trans (List.suffix_cons _ _))
      · rename_i rest
        split
        · rename_i behind hskip
          exact ⟨areData_nil.isData, (suffix_of_skip hskip).trans (List.suffix_cons _ _)⟩
        · exact (sound_entriesFrom fuel areData_nil _).of_suffix
            ((skip_suffix rest).trans (List.suffix_cons _ _))
      · exact sound_scalar cs
termination_by fuel

/-- Items that are data behind others are a list that is. -/
theorem sound_itemsFrom (fuel : Nat) {done : List Value} (hdone : ∀ v ∈ done, IsData v)
    (cs : List CodePoint) : Sound IsData cs (itemsFrom fuel done cs) := by
  cases fuel with
  | zero => trivial
  | succ fuel =>
      have hvalue := sound_valueAt fuel cs
      unfold itemsFrom
      split
      · rename_i o ho
        exact (ho ▸ hvalue).error
      · rename_i v rest hok
        obtain ⟨hv, hrest⟩ := hvalue.of_ok hok
        have hmore : ∀ w ∈ v :: done, IsData w := List.forall_mem_cons.2 ⟨hv, hdone⟩
        split
        · rename_i behind hskip
          refine ⟨.list fun w hw => hmore w (List.mem_reverse.1 hw), ?_⟩
          exact (suffix_of_skip hskip).trans hrest
        · rename_i behind hskip
          exact (sound_itemsFrom fuel hmore (skip behind)).of_suffix
            (((skip_suffix _).trans (suffix_of_skip hskip)).trans hrest)
        · trivial
termination_by fuel

/-- Entries that are data behind others are a map that is. -/
theorem sound_entriesFrom (fuel : Nat) {done : List (Value × Value)} (hdone : AreData done)
    (cs : List CodePoint) : Sound IsData cs (entriesFrom fuel done cs) := by
  cases fuel with
  | zero => trivial
  | succ fuel =>
      unfold entriesFrom
      split
      · rename_i rest
        have hname := sound_textFrom (CodePoint.char '"' :: rest).length [] rest
        split
        · rename_i o ho
          exact ((ho ▸ hname).error).of_suffix (List.suffix_cons _ _)
        · rename_i name behindName hok
          obtain ⟨-, hbehindName⟩ := hname.of_ok hok
          have hrest : behindName <:+ .char '"' :: rest := hbehindName.trans (List.suffix_cons _ _)
          split
          · rename_i behindColon hcolon
            have hvalue := sound_valueAt fuel (skip behindColon)
            have hfrom : skip behindColon <:+ .char '"' :: rest :=
              ((skip_suffix _).trans (suffix_of_skip hcolon)).trans hrest
            split
            · rename_i o ho
              exact ((ho ▸ hvalue).error).of_suffix hfrom
            · rename_i v behind hv
              obtain ⟨hdata, hbehind⟩ := hvalue.of_ok hv
              have hmore := hdone.put name hdata
              dsimp only
              split
              · rename_i last hlast
                exact ⟨hmore.isData, ((suffix_of_skip hlast).trans hbehind).trans hfrom⟩
              · rename_i next hnext
                exact (sound_entriesFrom fuel hmore (skip next)).of_suffix
                  ((((skip_suffix _).trans (suffix_of_skip hnext)).trans hbehind).trans hfrom)
              · trivial
          · trivial
      · trivial
termination_by fuel

end

/-! ## Whole texts -/

theorem isData_of_read {cs : List CodePoint} {v : Value} (h : read cs = .ok v) : IsData v := by
  unfold read at h
  dsimp only at h
  split at h
  · cases h
  · split at h
    · cases h
    · cases h
    · rename_i w rest hstep
      obtain ⟨hdata, -⟩ := (sound_valueAt _ _).of_ok hstep
      split at h
      · cases h
        exact hdata
      · cases h

/-- Only a long run of digits is too long. -/
theorem hasLongRun_of_read {cs : List CodePoint} (h : read cs = .error .tooManyDigits) :
    HasLongRun cs := by
  unfold read at h
  dsimp only at h
  split at h
  · cases h
  · split at h
    · cases h
    · rename_i hstep
      have hvalue := sound_valueAt (2 * cs.length + 1) (skip cs)
      rw [hstep] at hvalue
      exact hvalue.of_suffix (skip_suffix cs)
    · split at h <;> cases h

end ModuleKeeper.Json
