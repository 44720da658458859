import Mathlib.Data.List.Intervals
import ModuleKeeper.Proofs.Firsts
import ModuleKeeper.Proofs.Numerals
import ModuleKeeper.Proofs.Tokens

/-!
# The grammar of selections

A token is a number, or two numbers with a dash between them, and it stands for
the numbers from the first to the last.  What a number looks like is left open
here (`Means`): the program reads digits of every script, a user thinks of those
of ASCII.

A token can go wrong in three ways.  It may not have the shape of a number or
of a range (`Shaped`).  It may have the shape, but its digits are not read.  Or
it is read, and its numbers do not fit.

## Main results

* `spanOf_cases`: what a token comes to.
* `spanWithin_eq_ok_iff`: which tokens are accepted.
* `parse_eq_ok_iff`: which selections are accepted, and what they pick.
* `parse_plain`: selections in the digits of ASCII.
-/

namespace ModuleKeeper.Selection

open ModuleKeeper.Text ModuleKeeper.Numeral

/-! ## Tokens -/

/-- A token is a number, or two numbers with a dash between them. -/
inductive Means (spells : List CodePoint → Nat → Prop) : List CodePoint → Span → Prop
  | number {digits : List CodePoint} {n : Nat} (h : spells digits n) : Means spells digits ⟨n, n⟩
  | range {front back : List CodePoint} {first last : Nat} (hfront : spells front first)
      (hback : spells back last) : Means spells (front ++ .char '-' :: back) ⟨first, last⟩

/-- A token that looks like a number or like a range. -/
def Shaped (token : List CodePoint) : Prop :=
  ∃ s, Means (fun digits _ => isDigits digits = true) token s

/-- A token stands for numbers of some of `count` options. -/
structure Picks (spells : List CodePoint → Nat → Prop) (count : Int) (token : List CodePoint)
    (s : Span) : Prop where
  means : Means spells token s
  positive : 1 ≤ s.first
  ordered : s.first ≤ s.last
  within : (s.last : Int) ≤ count

variable {spells spells' : List CodePoint → Nat → Prop} {token digits front back : List CodePoint}
  {count : Int} {n : Nat} {s : Span}

theorem Means.imp (h : Means spells token s)
    (hspells : ∀ digits n, digits <:+: token → spells digits n → spells' digits n) :
    Means spells' token s := by
  cases h with
  | number h => exact .number (hspells _ _ List.infix_rfl h)
  | range hfront hback =>
      refine .range (hspells _ _ (List.prefix_append _ _).isInfix hfront) ?_
      exact hspells _ _ ((List.suffix_cons _ _).trans (List.suffix_append _ _)).isInfix hback

theorem dash_not_mem_of_isDigits (h : isDigits digits = true) : CodePoint.char '-' ∉ digits :=
  fun hmem => absurd ((isDigits_iff.1 h).2 _ hmem) (by decide)

/-! ## Reading a token -/

theorem numberOf_of_reads (h : Reads digits n) : numberOf token digits = .ok n := by
  have hread : readInt? digits = some (n : Int) :=
    (readInt?_eq_some_iff h.isDigits).2 ⟨n, h, rfl⟩
  rw [numberOf, hread]
  rfl

theorem numberOf_of_not_reads (h : isDigits digits = true) (hreads : ¬∃ n, Reads digits n) :
    numberOf token digits = .error (.unreadable token) := by
  have hnone : readInt? digits = none := by
    cases hread : readInt? digits with
    | none => rfl
    | some k =>
        obtain ⟨n, hn, -⟩ := (readInt?_eq_some_iff h).1 hread
        exact absurd ⟨n, hn⟩ hreads
  rw [numberOf, hnone]

theorem spanOf_number (h : isDigits token = true) :
    spanOf token = (do let n ← numberOf token token; .ok ⟨n, n⟩) := by
  have hdash : token.contains (CodePoint.char '-') = false := by
    simpa using dash_not_mem_of_isDigits h
  rw [spanOf, hdash, if_neg Bool.false_ne_true, if_pos h]

/-- A dash without a dash before it divides a token. -/
theorem spanOf_dash (h : CodePoint.char '-' ∉ front) :
    spanOf (front ++ .char '-' :: back) =
      if (isDigits front && isDigits back) = true then do
        let first ← numberOf (front ++ .char '-' :: back) front
        let last ← numberOf (front ++ .char '-' :: back) back
        if last < first then .error (.descending (front ++ .char '-' :: back))
        else .ok ⟨first, last⟩
      else .error (.badRange (front ++ .char '-' :: back)) := by
  have hdash : (front ++ CodePoint.char '-' :: back).contains (CodePoint.char '-') = true := by
    simp
  have hbefore : ∀ c ∈ front, (c != CodePoint.char '-') = true := by
    rintro c hc
    rw [bne_iff_ne]
    rintro rfl
    exact h hc
  have htake : (front ++ CodePoint.char '-' :: back).takeWhile (· != .char '-') = front := by
    rw [List.takeWhile_append_of_pos hbefore, List.takeWhile_cons_of_neg (by simp), List.append_nil]
  have hdrop : (front ++ CodePoint.char '-' :: back).dropWhile (· != .char '-') =
      .char '-' :: back := by
    rw [List.dropWhile_append_of_pos hbefore, List.dropWhile_cons_of_neg (by simp)]
  rw [spanOf, if_pos hdash, htake, hdrop]
  rfl

theorem spanOf_range (hfront : isDigits front = true) (hback : isDigits back = true) :
    spanOf (front ++ .char '-' :: back) = (do
      let first ← numberOf (front ++ .char '-' :: back) front
      let last ← numberOf (front ++ .char '-' :: back) back
      if last < first then .error (.descending (front ++ .char '-' :: back))
      else .ok ⟨first, last⟩) := by
  rw [spanOf_dash (dash_not_mem_of_isDigits hfront), if_pos (by rw [hfront, hback]; rfl)]

/-- Without the shape of a number or a range a token is refused. -/
theorem spanOf_of_not_shaped (h : ¬Shaped token) :
    spanOf token = .error (.badRange token) ∨ spanOf token = .error (.badNumber token) := by
  by_cases hdash : CodePoint.char '-' ∈ token
  · left
    obtain ⟨front, back, rfl, hfirst⟩ := List.eq_append_cons_of_mem hdash
    have hparts : ¬(isDigits front && isDigits back) = true := by
      intro hdigits
      obtain ⟨hfront, hback⟩ := Bool.and_eq_true_iff.1 hdigits
      exact h ⟨⟨0, 0⟩, .range hfront hback⟩
    rw [spanOf_dash hfirst, if_neg hparts]
  · right
    have hdigits : ¬isDigits token = true := fun hdigits => h ⟨⟨0, 0⟩, .number hdigits⟩
    rw [spanOf, if_neg (by simpa using hdash), if_neg hdigits]

/-- A token that is read stands for its numbers, if they come in order. -/
theorem spanOf_of_means (h : Means Reads token s) :
    spanOf token = if s.last < s.first then .error (.descending token) else .ok s := by
  cases h with
  | number h =>
      rw [spanOf_number h.isDigits, numberOf_of_reads h, if_neg (Nat.lt_irrefl _)]
      rfl
  | range hfront hback =>
      rw [spanOf_range hfront.isDigits hback.isDigits, numberOf_of_reads hfront,
        numberOf_of_reads hback]
      rfl

/-- A token with the right shape may still have digits that are not read. -/
theorem spanOf_of_shaped (hshaped : Shaped token) (h : ¬∃ s, Means Reads token s) :
    spanOf token = .error (.unreadable token) := by
  obtain ⟨s, hs⟩ := hshaped
  cases hs with
  | number hdigits =>
      have hnot : ¬∃ n, Reads token n := fun ⟨n, hn⟩ => h ⟨_, .number hn⟩
      rw [spanOf_number hdigits, numberOf_of_not_reads hdigits hnot]
      rfl
  | @range front back _ _ hfront hback =>
      rw [spanOf_range hfront hback]
      by_cases hreads : ∃ n, Reads front n
      · obtain ⟨n, hn⟩ := hreads
        have hnot : ¬∃ n, Reads back n := fun ⟨n', hn'⟩ => h ⟨_, .range hn hn'⟩
        rw [numberOf_of_reads hn, numberOf_of_not_reads hback hnot]
        rfl
      · rw [numberOf_of_not_reads hfront hreads]
        rfl

/-- A token has a meaning, or only the shape of a number or a range, or not even that. -/
theorem spanOf_cases (token : List CodePoint) :
    (∃ s, Means Reads token s ∧
        spanOf token = if s.last < s.first then .error (.descending token) else .ok s) ∨
      (Shaped token ∧ (¬∃ s, Means Reads token s) ∧ spanOf token = .error (.unreadable token)) ∨
      (spanOf token = .error (.badRange token) ∨ spanOf token = .error (.badNumber token)) := by
  by_cases hshaped : Shaped token
  · by_cases hmeans : ∃ s, Means Reads token s
    · obtain ⟨s, hs⟩ := hmeans
      exact .inl ⟨s, hs, spanOf_of_means hs⟩
    · exact .inr (.inl ⟨hshaped, hmeans, spanOf_of_shaped hshaped hmeans⟩)
  · exact .inr (.inr (spanOf_of_not_shaped hshaped))

theorem spanOf_eq_ok_iff : spanOf token = .ok s ↔ Means Reads token s ∧ s.first ≤ s.last := by
  constructor
  · intro h
    rcases spanOf_cases token with ⟨s', hs', hspan⟩ | ⟨-, -, hspan⟩ | hspan | hspan
    · rw [hspan] at h
      split at h
      · cases h
      · rename_i hle
        obtain rfl : s' = s := Except.ok.inj h
        exact ⟨hs', Nat.le_of_not_lt hle⟩
    all_goals
      rw [hspan] at h
      cases h
  · rintro ⟨hmeans, hle⟩
    rw [spanOf_of_means hmeans, if_neg (Nat.not_lt.2 hle)]

/-- Only digits that are not read are left to a token that has its shape and no meaning. -/
theorem spanOf_eq_unreadable_iff {t : List CodePoint} : spanOf token = .error (.unreadable t) ↔
    t = token ∧ Shaped token ∧ ¬∃ s, Means Reads token s := by
  constructor
  · intro h
    rcases spanOf_cases token with ⟨s, hs, hspan⟩ | ⟨hshaped, hmeans, hspan⟩ | hspan | hspan
    · rw [hspan] at h
      split at h <;> cases h
    · rw [hspan] at h
      cases h
      exact ⟨rfl, hshaped, hmeans⟩
    all_goals
      rw [hspan] at h
      cases h
  · rintro ⟨rfl, hshaped, hmeans⟩
    exact spanOf_of_shaped hshaped hmeans

/-! ## The numbers of options -/

namespace Span

theorem outside?_eq_none_iff (h : s.first ≤ s.last) :
    s.outside? count = none ↔ 1 ≤ s.first ∧ (s.last : Int) ≤ count := by
  unfold outside?
  split
  · rename_i hfirst
    simp only [reduceCtorEq, false_iff]
    omega
  · split
    · rename_i hlast
      simp only [reduceCtorEq, false_iff]
      omega
    · simp only [true_iff]
      omega

theorem indexes_eq_Ico (h : 1 ≤ s.first) : s.indexes = List.Ico (s.first - 1) s.last := by
  rw [indexes, List.Ico]
  congr 1
  omega

end Span

theorem spanWithin_of_error {fault : Fault} (h : spanOf token = .error fault) :
    spanWithin count token = .error fault := by
  rw [spanWithin, h]
  rfl

theorem spanWithin_of_ok (h : spanOf token = .ok s) :
    spanWithin count token =
      match s.outside? count with
      | some n => .error (.outside n count)
      | none => .ok s := by
  rw [spanWithin, h]
  rfl

theorem spanWithin_eq_ok_iff : spanWithin count token = .ok s ↔ Picks Reads count token s := by
  constructor
  · intro h
    cases hspan : spanOf token with
    | error fault =>
        rw [spanWithin_of_error hspan] at h
        cases h
    | ok s' =>
        obtain ⟨hmeans, hle⟩ := spanOf_eq_ok_iff.1 hspan
        rw [spanWithin_of_ok hspan] at h
        split at h
        · cases h
        · rename_i hnone
          obtain rfl : s' = s := Except.ok.inj h
          obtain ⟨hfirst, hlast⟩ := (Span.outside?_eq_none_iff hle).1 hnone
          exact ⟨hmeans, hfirst, hle, hlast⟩
  · rintro ⟨hmeans, hfirst, hle, hlast⟩
    have hspan : spanOf token = .ok s := spanOf_eq_ok_iff.2 ⟨hmeans, hle⟩
    have hnone : s.outside? count = none := (Span.outside?_eq_none_iff hle).2 ⟨hfirst, hlast⟩
    rw [spanWithin_of_ok hspan, hnone]

theorem spanWithin_eq_unreadable_iff {t : List CodePoint} :
    spanWithin count token = .error (.unreadable t) ↔
      t = token ∧ Shaped token ∧ ¬∃ s, Means Reads token s := by
  rw [← spanOf_eq_unreadable_iff]
  cases hspan : spanOf token with
  | error fault =>
      rw [spanWithin_of_error hspan, Except.error.injEq]
  | ok s =>
      rw [spanWithin_of_ok hspan]
      cases s.outside? count <;> simp

/-! ## Whole selections -/

variable {text : List CodePoint} {indexes : List Nat}

theorem parse_eq_ok_iff : parse text count = .ok indexes ↔
    ∃ spans, List.Forall₂ (Picks Reads count) (pieces text) spans ∧
      indexes = (spans.flatMap Span.indexes).eraseDups := by
  rw [parse, tokens_eq_pieces, bind_eq_ok_iff]
  refine exists_congr fun spans => and_congr ?_ ?_
  · simp only [mapM_eq_ok_iff, spanWithin_eq_ok_iff]
  · rw [Except.ok.injEq, eq_comm]

theorem parse_eq_error_iff {fault : Fault} : parse text count = .error fault ↔
    ∃ token, IsFirst (fun token => ¬∃ s, Picks Reads count token s) (pieces text) token ∧
      spanWithin count token = .error fault := by
  rw [parse, tokens_eq_pieces, bind_eq_error_iff, or_iff_left fun ⟨_, _, hnone⟩ => nomatch hnone]
  simp only [mapM_eq_error_iff, spanWithin_eq_ok_iff]

/-! ## Selections in the digits of ASCII -/

/-- A fault that is told to the user, who is then asked again. -/
def Fault.IsRefusal (fault : Fault) : Prop := ∀ token, fault ≠ .unreadable token

/-- A text whose digits are those of ASCII, no more in a row than a number may have. -/
structure Plain (text : List CodePoint) : Prop where
  ascii : ∀ c ∈ text, isDigit c = true → c.isDigit = true
  short : ∀ run, run <:+: text → (∀ c ∈ run, c.isDigit = true) → run.length ≤ 4300

namespace Plain

/-- A short text is plain if its digits are. -/
theorem of_short (hascii : (text.all fun c => !isDigit c || c.isDigit) = true)
    (hshort : text.length ≤ 4300) : Plain text where
  ascii c hc hdigit := by
    have hall := List.all_eq_true.1 hascii c hc
    rwa [hdigit, Bool.not_true, Bool.false_or] at hall
  short _ hrun _ := hrun.length_le.trans hshort

theorem of_infix (h : Plain text) (htoken : token <:+: text) : Plain token where
  ascii c hc := h.ascii c (htoken.subset hc)
  short run hrun := h.short run (hrun.trans htoken)

theorem reads_iff_spells (h : Plain digits) : Reads digits n ↔ Spells digits n :=
  Numeral.reads_iff_spells h.ascii (h.short digits List.infix_rfl)

theorem exists_means (h : Plain token) (hshaped : Shaped token) : ∃ s, Means Reads token s := by
  have hreads : ∀ digits, digits <:+: token → isDigits digits = true → ∃ n, Reads digits n := by
    intro digits hin hdigits
    exact exists_reads hdigits (h.of_infix hin).ascii
      ((h.of_infix hin).short digits List.infix_rfl)
  obtain ⟨s, hs⟩ := hshaped
  cases hs with
  | number hdigits =>
      obtain ⟨n, hn⟩ := hreads _ List.infix_rfl hdigits
      exact ⟨_, .number hn⟩
  | @range front back _ _ hfront hback =>
      obtain ⟨first, hfirst⟩ := hreads front (List.prefix_append _ _).isInfix hfront
      obtain ⟨last, hlast⟩ := hreads back
        ((List.suffix_cons _ _).trans (List.suffix_append _ _)).isInfix hback
      exact ⟨_, .range hfirst hlast⟩

theorem picks_iff (h : Plain token) : Picks Reads count token s ↔ Picks Spells count token s := by
  constructor
  · intro hpicks
    exact ⟨hpicks.means.imp fun _ _ hin hn => (h.of_infix hin).reads_iff_spells.1 hn,
      hpicks.positive, hpicks.ordered, hpicks.within⟩
  · intro hpicks
    exact ⟨hpicks.means.imp fun _ _ hin hn => (h.of_infix hin).reads_iff_spells.2 hn,
      hpicks.positive, hpicks.ordered, hpicks.within⟩

end Plain

theorem picks_decimal {i : Nat} (h : (i : Int) < count) :
    Picks Spells count (decimal (i + 1)) ⟨i + 1, i + 1⟩ where
  means := .number (spells_decimal (i + 1))
  positive := Nat.succ_pos i
  ordered := Nat.le_refl _
  within := by
    show ((i + 1 : Nat) : Int) ≤ count
    omega

/-- Nothing in a number separates tokens. -/
theorem isSeparator_of_mem_decimal {c : CodePoint} (h : c ∈ decimal n) : isSeparator c = false := by
  obtain ⟨d, hd, rfl⟩ := List.mem_map.1 h
  have hdigit : isDigit (.char d) = true :=
    isDigit_of_isDigit (Nat.isDigit_of_mem_toDigits (by decide) (by decide) hd)
  have hcomma : CodePoint.char d ≠ .char ',' := by
    intro hc
    rw [hc] at hdigit
    exact absurd hdigit (by decide)
  rw [isSeparator, isBlank_of_isDigit hdigit, Bool.or_false]
  exact beq_eq_false_iff_ne.2 hcomma

theorem flatMap_Ico_numbers (indexes : List Nat) :
    ((indexes.map fun i => Span.mk (i + 1) (i + 1)).flatMap fun s =>
      List.Ico (s.first - 1) s.last) = indexes := by
  induction indexes with
  | nil => rfl
  | cons i indexes ih =>
      rw [List.map_cons, List.flatMap_cons, ih]
      show List.Ico i (i + 1) ++ indexes = i :: indexes
      rw [List.Ico.succ_singleton, List.singleton_append]

namespace Plain

variable {spans : List Span}

/-- In a plain text tokens stand for numbers whichever way digits are looked at. -/
theorem forall₂_picks_iff (h : Plain text) :
    List.Forall₂ (Picks Reads count) (pieces text) spans ↔
      List.Forall₂ (Picks Spells count) (pieces text) spans := by
  have hplain : ∀ token ∈ pieces text, Plain token :=
    fun token htoken => h.of_infix (infix_of_mem_pieces htoken)
  constructor
  · intro hpicks
    have hboth := (List.forall₂_and_left (pieces text) spans).2 ⟨hplain, hpicks⟩
    exact hboth.imp fun token s hs => hs.1.picks_iff.1 hs.2
  · intro hpicks
    have hboth := (List.forall₂_and_left (pieces text) spans).2 ⟨hplain, hpicks⟩
    exact hboth.imp fun token s hs => hs.1.picks_iff.2 hs.2

theorem parse_of_picks (h : Plain text)
    (hpicks : List.Forall₂ (Picks Spells count) (pieces text) spans) :
    parse text count = .ok (spans.flatMap fun s => List.Ico (s.first - 1) s.last).eraseDups := by
  have hindexes : spans.flatMap Span.indexes =
      spans.flatMap fun s => List.Ico (s.first - 1) s.last := by
    refine List.flatMap_congr fun s hs => ?_
    obtain ⟨token, htoken⟩ := exists_forall₂_iff.1 ⟨_, hpicks.flip⟩ s hs
    exact Span.indexes_eq_Ico htoken.positive
  exact parse_eq_ok_iff.2 ⟨spans, h.forall₂_picks_iff.2 hpicks, by rw [hindexes]⟩

/-- A plain text is accepted if each of its tokens stands for numbers of options. -/
theorem exists_parse_iff (h : Plain text) :
    (∃ indexes, parse text count = .ok indexes) ↔
      ∀ token ∈ pieces text, ∃ s, Picks Spells count token s := by
  rw [← exists_forall₂_iff]
  constructor
  · rintro ⟨indexes, hparse⟩
    obtain ⟨spans, hpicks, -⟩ := parse_eq_ok_iff.1 hparse
    exact ⟨spans, h.forall₂_picks_iff.1 hpicks⟩
  · rintro ⟨spans, hpicks⟩
    exact ⟨_, h.parse_of_picks hpicks⟩

/-- What is wrong with a plain text is told to the user. -/
theorem isRefusal_of_parse (h : Plain text) {fault : Fault}
    (hparse : parse text count = .error fault) : fault.IsRefusal := by
  rintro t rfl
  obtain ⟨token, hfirst, hspan⟩ := parse_eq_error_iff.1 hparse
  obtain ⟨-, hshaped, hmeans⟩ := spanWithin_eq_unreadable_iff.1 hspan
  exact hmeans ((h.of_infix (infix_of_mem_pieces hfirst.mem)).exists_means hshaped)

theorem joined (h : Plain text) (hdistinct : indexes.Nodup)
    (hwithin : ∀ i ∈ indexes, (i : Int) < count)
    (hjoined : Joined (indexes.map fun i => decimal (i + 1)) text) :
    parse text count = .ok indexes := by
  have hpieces : pieces text = indexes.map fun i => decimal (i + 1) := by
    refine pieces_of_joined hjoined fun w hw => ?_
    obtain ⟨i, -, rfl⟩ := List.mem_map.1 hw
    exact ⟨decimal_ne_nil _, fun c hc => isSeparator_of_mem_decimal hc⟩
  have hpicks : List.Forall₂ (Picks Spells count) (pieces text)
      (indexes.map fun i => ⟨i + 1, i + 1⟩) := by
    rw [hpieces, List.forall₂_map_left_iff, List.forall₂_map_right_iff, List.forall₂_same]
    exact fun i hi => picks_decimal (hwithin i hi)
  rw [h.parse_of_picks hpicks, flatMap_Ico_numbers, eraseDups_of_nodup hdistinct]

end Plain

/--
**What a selection means.**  Take a text whose digits are those of ASCII, of
which at most 4300 stand in a row, and split it at commas and blanks.  The text
is accepted exactly if each token is a number, or two numbers in order with a
dash between them, from one to the number of options.  Then it picks what the
tokens stand for, in their order, each index at its first place.  Otherwise the
user is told what is wrong.  So the numbers of options, with any separators
between them, pick these options in the same order.
-/
theorem parse_plain (text : List CodePoint) (count : Int) (hplain : Plain text) :
    ((∃ indexes, parse text count = .ok indexes) ↔
      ∀ token ∈ pieces text, ∃ s, Picks Spells count token s) ∧
    (∀ spans, List.Forall₂ (Picks Spells count) (pieces text) spans →
      ∀ indexes, parse text count = .ok indexes ↔
        Firsts (spans.flatMap fun s => List.Ico (s.first - 1) s.last) indexes) ∧
    ((¬∀ token ∈ pieces text, ∃ s, Picks Spells count token s) →
      ∃ fault, parse text count = .error fault ∧ fault.IsRefusal) ∧
    (∀ indexes : List Nat, indexes.Nodup → (∀ i ∈ indexes, (i : Int) < count) →
      Joined (indexes.map fun i => decimal (i + 1)) text → parse text count = .ok indexes) := by
  refine ⟨hplain.exists_parse_iff, fun spans hpicks indexes => ?_, fun hbad => ?_,
    fun indexes hdistinct hwithin hjoined => hplain.joined hdistinct hwithin hjoined⟩
  · rw [hplain.parse_of_picks hpicks, Except.ok.injEq, firsts_iff, eq_comm]
  · cases hparse : parse text count with
    | ok indexes => exact absurd (hplain.exists_parse_iff.1 ⟨indexes, hparse⟩) hbad
    | error fault => exact ⟨fault, rfl, hplain.isRefusal_of_parse hparse⟩

/--
Of four options the last one is picked first, then the first two, and two of
these only once.  A range that runs backwards is told to the user, and numbers
with separators between them pick what they say.
-/
theorem parse_plain_four :
    parse "4,, 1-02 2" 4 = .ok [3, 0, 1] ∧
      (∃ fault, parse "3-1" 4 = .error fault ∧ fault.IsRefusal) ∧
      parse "3, 1" 4 = .ok [2, 0] := by
  have hone : Spells "1" 1 := ⟨['1'], rfl, by simp, by simp, by rfl⟩
  have htwo : Spells "2" 2 := ⟨['2'], rfl, by simp, by simp, by rfl⟩
  have htwo' : Spells "02" 2 := ⟨['0', '2'], rfl, by simp, by simp, by rfl⟩
  have hfour : Spells "4" 4 := ⟨['4'], rfl, by simp, by simp, by rfl⟩
  have hpicks : List.Forall₂ (Picks Spells 4) (pieces "4,, 1-02 2") [⟨4, 4⟩, ⟨1, 2⟩, ⟨2, 2⟩] :=
    .cons ⟨.number hfour, by decide, by decide, by decide⟩
      (.cons ⟨.range hone htwo', by decide, by decide, by decide⟩
        (.cons ⟨.number htwo, by decide, by decide, by decide⟩ .nil))
  refine ⟨?_, ?_, ?_⟩
  · have hplain : Plain "4,, 1-02 2" := .of_short (by decide) (by decide)
    exact ((parse_plain _ 4 hplain).2.1 _ hpicks _).2 (firsts_iff.2 (by decide))
  · have hplain : Plain "3-1" := .of_short (by decide) (by decide)
    refine (parse_plain _ 4 hplain).2.2.1 fun hall => ?_
    obtain ⟨indexes, hparse⟩ := (parse_plain _ 4 hplain).1.2 hall
    have hrun : parse "3-1" 4 = .error (.descending "3-1") := by decide
    rw [hrun] at hparse
    cases hparse
  · have hplain : Plain "3, 1" := .of_short (by decide) (by decide)
    have hgap : Text.letters ", " ≠ [] := by decide
    have hjoined : Joined [decimal 3, decimal 1] "3, 1" :=
      .cons (decimal 3) hgap (by decide) (by decide) (.single (decimal 1))
    exact (parse_plain _ 4 hplain).2.2.2 [2, 0] (by decide) (by decide) hjoined

end ModuleKeeper.Selection
