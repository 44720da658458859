import Mathlib.Data.List.Infix
import Mathlib.Data.List.TakeWhile
import ModuleKeeper.Proofs.Firsts
import ModuleKeeper.Proofs.ScalarMishaps
import ModuleKeeper.Yaml.Token.Lexer

/-!
# Where the reading of a document stops

A scan of a document leaves a part of the text behind, or it stops.  Where it
stops the text is malformed, or a number in it is too long, except in one place:
a scalar in double quotes may give a character by its number in eight digits, and a
number that has more than 31 bits is too large to be looked at (`HasLongEscape`).

Every scan is sound in this sense, and each of the proofs follows the function that
it is about.

## Main results

* `Scans.of_suffix`: a scan of a part of the text is a scan of the text.
* `scans_escapeAt`, `scans_quotedFrom`: the place where a text with such a number stops.
* `scans_blockAt`, `finds_tagAt`, `finds_directiveAt`: scans that stop for other reasons only.
-/

namespace ModuleKeeper.Yaml

open Json

/-! ## Escapes that are too long -/

/-- A text starts with the number of a character in eight digits, which is too large. -/
def OpensLongEscape (cs : List CodePoint) : Prop :=
  ∃ digits, CodePoint.char 'U' :: digits <+: cs ∧ digits.length = 8 ∧
    (∀ d ∈ digits, (hexValue? d).isSome) ∧ 0x7fffffff < hexNumber digits

/-- A text holds a backslash and such a number behind it. -/
def HasLongEscape (cs : List CodePoint) : Prop :=
  ∃ front behind, cs = front ++ CodePoint.char '\\' :: behind ∧ OpensLongEscape behind

theorem HasLongEscape.of_suffix {cs ds : List CodePoint} (h : HasLongEscape ds) (hs : ds <:+ cs) :
    HasLongEscape cs := by
  obtain ⟨front, behind, rfl, hopens⟩ := h
  obtain ⟨before, rfl⟩ := hs
  exact ⟨before ++ front, behind, by rw [List.append_assoc], hopens⟩

/-- The troubles that the text of a document explains. -/
def Explains (cs : List CodePoint) (t : Trouble) : Prop :=
  t.Foreseen ∨ t = .overflow ∧ HasLongEscape cs

theorem Explains.of_suffix {cs ds : List CodePoint} {t : Trouble} (h : Explains ds t)
    (hs : ds <:+ cs) : Explains cs t := by
  rcases h with hforeseen | ⟨rfl, hlong⟩
  · exact .inl hforeseen
  · exact .inr ⟨rfl, hlong.of_suffix hs⟩

/-- A stop that every document may come to. -/
def Stop.Foreseen (s : Stop) : Prop := s.trouble.Foreseen

theorem Explains.of_foreseen {cs : List CodePoint} {s : Stop} (h : s.Foreseen) :
    Explains cs s.trouble := .inl h

theorem foreseen_stop {α : Type} {good : α → Prop} (c : Cursor) :
    Comes Stop.Foreseen good (c.stop .malformed : Except Stop α) := Trouble.foreseen_malformed

/-- A scan leaves a part of the text behind, or it stops in one of the ways `bad`. -/
abbrev Scans {α : Type} (bad : Stop → Prop) (c : Cursor) (scan : Scan α) : Prop :=
  Comes bad (fun r => r.2.rest <:+ c.rest) scan

theorem Scans.of_suffix {α : Type} {bad : Stop → Prop} {c d : Cursor} {scan : Scan α}
    (h : Scans bad d scan) (hs : d.rest <:+ c.rest) : Scans bad c scan :=
  h.imp (fun _ => id) fun _ hr => hr.trans hs

/-! ## Places -/

namespace Cursor

theorem rest_next (c : Cursor) : c.next.rest = c.rest.tail := by
  unfold next
  split
  · rename_i h
    rw [h]
    rfl
  · rename_i ch cs h
    rw [h]
    dsimp only
    repeat' split
    all_goals rfl

theorem next_suffix (c : Cursor) : c.next.rest <:+ c.rest := by
  rw [rest_next]
  exact List.tail_suffix c.rest

theorem skip_suffix (c : Cursor) (n : Nat) : (c.skip n).rest <:+ c.rest := by
  induction n generalizing c with
  | zero => exact List.suffix_refl _
  | succ n ih => exact (ih c.next).trans c.next_suffix

theorem span_suffix (c : Cursor) (p : CodePoint → Bool) : (c.span p).2.rest <:+ c.rest :=
  List.dropWhile_suffix p

theorem skipWhile_suffix (c : Cursor) (p : CodePoint → Bool) : (c.skipWhile p).rest <:+ c.rest :=
  c.span_suffix p

theorem skipSpaces_suffix (c : Cursor) : c.skipSpaces.rest <:+ c.rest := c.skipWhile_suffix _

theorem skipComment_suffix (c : Cursor) : c.skipComment.rest <:+ c.rest := by
  unfold skipComment
  split
  · exact c.skipWhile_suffix _
  · exact List.suffix_refl _

theorem lookForSeparator_rest (c : Cursor) : c.lookForSeparator.rest = c.rest := by
  unfold lookForSeparator
  split <;> rfl

theorem lineBreak?_suffix {c d : Cursor} {b : CodePoint} (h : c.lineBreak? = some (b, d)) :
    d.rest <:+ c.rest := by
  unfold lineBreak? at h
  dsimp only at h
  split at h
  · cases h
    exact c.next_suffix
  · split at h
    · cases h
      exact c.next_suffix
    · cases h

/-- What is seen before the end of a document is its next character. -/
theorem rest_eq_of_peek {c : Cursor} {ch : CodePoint} (h : c.peek = ch) (hne : ch ≠ endMark) :
    c.rest = ch :: c.next.rest := by
  rw [rest_next]
  unfold peek at h
  cases hrest : c.rest with
  | nil =>
      rw [hrest] at h
      exact absurd h.symm hne
  | cons d ds =>
      rw [hrest] at h
      rw [← h]
      rfl

end Cursor

/-! ## Scalars in quotes -/

theorem scans_quotedBreaks (done : List CodePoint) (limit : Nat) (c : Cursor) :
    Scans Stop.Foreseen c (quotedBreaks done limit c) := by
  induction limit generalizing done c with
  | zero => exact foreseen_stop c
  | succ limit ih =>
      have hskip : ∀ p, (c.lookForSeparator.skipWhile p).rest <:+ c.rest := by
        intro p
        rw [← c.lookForSeparator_rest]
        exact Cursor.skipWhile_suffix _ p
      unfold quotedBreaks
      dsimp only
      split
      · exact foreseen_stop _
      · split
        · rename_i b d hbreak
          exact (ih _ d).of_suffix ((Cursor.lineBreak?_suffix hbreak).trans (hskip _))
        · exact hskip _

/-- A number that is not looked at is too large. -/
theorem numberedChar_eq_error {n : Nat} {t : Trouble} (h : numberedChar n = .error t) :
    t = .badValue ∨ t = .overflow ∧ 0x7fffffff < n := by
  unfold numberedChar at h
  split at h
  · rename_i hlarge
    cases h
    exact .inr ⟨rfl, hlarge⟩
  · split at h
    · cases h
      exact .inl rfl
    · cases h

theorem hexValue?_lt {c : CodePoint} {n : Nat} (h : hexValue? c = some n) : n < 16 := by
  unfold hexValue? at h
  split at h
  · rename_i hc
    cases h
    have hle : c.toNat ≤ '9'.toNat := hc.2
    have hnine : '9'.toNat = '0'.toNat + 9 := by decide
    omega
  split at h
  · rename_i hc
    cases h
    have hle : c.toNat ≤ 'f'.toNat := hc.2
    have hf : 'f'.toNat = 'a'.toNat + 5 := by decide
    omega
  split at h
  · rename_i hc
    cases h
    have hle : c.toNat ≤ 'F'.toNat := hc.2
    have hf : 'F'.toNat = 'A'.toNat + 5 := by decide
    omega
  · cases h

/-- Hexadecimal digits are too few for a number that has more places. -/
theorem hexNumber_lt (digits : List CodePoint) : hexNumber digits < Nat.pow 16 digits.length := by
  have hfold : ∀ (ns : List Nat) (k : Nat), (∀ n ∈ ns, n < 16) →
      ns.foldl (fun n d => n * 16 + d) k < (k + 1) * Nat.pow 16 ns.length := by
    intro ns
    induction ns with
    | nil =>
        intro k _
        exact Nat.lt_of_lt_of_eq (Nat.lt_succ_self k) (Nat.mul_one _).symm
    | cons n ns ih =>
        intro k hns
        obtain ⟨hn, hrest⟩ := List.forall_mem_cons.1 hns
        have hle : (k * 16 + n + 1) * Nat.pow 16 ns.length ≤ (k + 1) * 16 * Nat.pow 16 ns.length :=
          Nat.mul_le_mul_right _ (by omega)
        have hpow : Nat.pow 16 (ns.length + 1) = 16 * Nat.pow 16 ns.length := Nat.mul_comm _ _
        rw [List.foldl_cons, List.length_cons, hpow, ← Nat.mul_assoc]
        exact Nat.lt_of_lt_of_le (ih (k * 16 + n) hrest) hle
  have hvalues : ∀ n ∈ digits.filterMap hexValue?, n < 16 := by
    intro n hn
    obtain ⟨c, -, hc⟩ := List.mem_filterMap.1 hn
    exact hexValue?_lt hc
  have hlength : Nat.pow 16 (digits.filterMap hexValue?).length ≤ Nat.pow 16 digits.length :=
    Nat.pow_le_pow_right (by decide) (List.length_filterMap_le _ _)
  have hbound := hfold _ 0 hvalues
  rw [Nat.zero_add, Nat.one_mul] at hbound
  exact Nat.lt_of_lt_of_le hbound hlength

/-- The letters of the escapes that give a number, with their widths. -/
theorem escapeWidth?_eq_some {c : CodePoint} {width : Nat} (h : escapeWidth? c = some width) :
    c ≠ endMark ∧ (width = 2 ∨ width = 4 ∨ c = .char 'U' ∧ width = 8) := by
  unfold escapeWidth? at h
  split at h
  all_goals cases h
  · exact ⟨by decide, .inl rfl⟩
  · exact ⟨by decide, .inr (.inl rfl)⟩
  · exact ⟨by decide, .inr (.inr ⟨rfl, rfl⟩)⟩

/-- Of the numbers that an escape can give, only those of eight digits are ever too large. -/
theorem opensLongEscape_of_width {c : Cursor} {width : Nat}
    (hwidth : escapeWidth? c.peek = some width)
    (hdigits : width ≤ ((c.next.rest.take width).takeWhile fun d => (hexValue? d).isSome).length)
    (hlarge : 0x7fffffff <
      hexNumber ((c.next.rest.take width).takeWhile fun d => (hexValue? d).isSome)) :
    OpensLongEscape c.rest := by
  generalize htaken : (c.next.rest.take width).takeWhile (fun d => (hexValue? d).isSome) = digits
    at hdigits hlarge
  have hprefix : digits <+: c.next.rest := by
    rw [← htaken]
    exact (List.takeWhile_prefix _).trans (List.take_prefix _ _)
  have hlength : digits.length = width := by
    refine Nat.le_antisymm ?_ hdigits
    rw [← htaken]
    exact (List.takeWhile_prefix _).length_le.trans (List.length_take_le _ _)
  have hall : ∀ d ∈ digits, (hexValue? d).isSome := by
    intro d hd
    rw [← htaken] at hd
    exact List.mem_takeWhile_imp (p := fun d => (hexValue? d).isSome) hd
  -- What can be written with two or four digits is never too large.
  have hbound := hexNumber_lt digits
  obtain ⟨hne, hshort | hshort | ⟨hletter, height⟩⟩ := escapeWidth?_eq_some hwidth
  · rw [hlength, hshort] at hbound
    exact absurd (Nat.lt_trans hlarge hbound) (by decide)
  · rw [hlength, hshort] at hbound
    exact absurd (Nat.lt_trans hlarge hbound) (by decide)
  · refine ⟨digits, ?_, hlength.trans height, hall, hlarge⟩
    rw [Cursor.rest_eq_of_peek rfl hne, hletter]
    exact (List.cons_prefix_cons).2 ⟨rfl, hprefix⟩

/-- An escape stops the reading of a text for its number only if that is too large. -/
theorem scans_escapeAt (limit : Nat) (c : Cursor) :
    Scans (fun s => s.Foreseen ∨ s.trouble = .overflow ∧ OpensLongEscape c.rest) c
      (escapeAt limit c) := by
  unfold escapeAt
  split
  · exact c.next_suffix
  · split
    · rename_i width hwidth
      dsimp only
      split
      · exact .inl Trouble.foreseen_malformed
      · rename_i hdigits
        split
        · exact (c.next.skip_suffix width).trans c.next_suffix
        · rename_i t hnumber
          rcases numberedChar_eq_error hnumber with rfl | ⟨rfl, hlarge⟩
          · exact .inl Trouble.foreseen_badValue
          · exact .inr ⟨rfl, opensLongEscape_of_width hwidth (Nat.le_of_not_lt hdigits) hlarge⟩
    · split
      · rename_i b d hbreak
        exact (scans_quotedBreaks [] limit d).imp (fun _ => .inl)
          fun _ hr => hr.trans (Cursor.lineBreak?_suffix hbreak)
      · exact .inl Trouble.foreseen_malformed

/-- A scan of a part of the text, with a stop that the text explains. -/
theorem explains_of_suffix {α : Type} {c d : Cursor} {scan : Scan α}
    (h : Scans (fun s => Explains d.rest s.trouble) d scan) (hs : d.rest <:+ c.rest) :
    Scans (fun s => Explains c.rest s.trouble) c scan :=
  h.imp (fun _ hstop => hstop.of_suffix hs) fun _ hr => hr.trans hs

theorem scans_quotedFrom (quote : CodePoint) (done : List CodePoint) (limit : Nat) (c : Cursor) :
    Scans (fun s => Explains c.rest s.trouble) c (quotedFrom quote done limit c) := by
  induction limit generalizing done c with
  | zero => exact .inl Trouble.foreseen_malformed
  | succ limit ih =>
      unfold quotedFrom
      dsimp only
      split
      · exact explains_of_suffix (ih _ _) (c.skip_suffix 2)
      split
      · exact c.next_suffix
      split
      · exact .inl Trouble.foreseen_malformed
      split
      · rename_i hescape
        have hpeek : c.peek = .char '\\' := by
          rw [Bool.and_eq_true, decide_eq_true_iff, decide_eq_true_iff] at hescape
          exact hescape.2
        have hrest := Cursor.rest_eq_of_peek hpeek (by decide)
        refine (scans_escapeAt limit c.next).elim (fun s hs => ?_) fun r hchar => ?_
        · rcases hs with hforeseen | ⟨hoverflow, hopens⟩
          · exact .inl hforeseen
          · exact .inr ⟨hoverflow, [], c.next.rest, hrest, hopens⟩
        · exact explains_of_suffix (ih _ r.2) (hchar.trans c.next_suffix)
      split
      · have hspan := c.span_suffix fun ch => ch = ' ' || ch = '\t'
        generalize c.span (fun ch => ch = ' ' || ch = '\t') = spanned at hspan ⊢
        split
        · rename_i first d hbreak
          have hd := (Cursor.lineBreak?_suffix hbreak).trans hspan
          refine (scans_quotedBreaks [] limit d).elim (fun _ => .inl) fun r hbreaks => ?_
          exact explains_of_suffix (ih _ r.2) (hbreaks.trans hd)
        · split
          · exact .inl Trouble.foreseen_malformed
          · exact explains_of_suffix (ih _ _) hspan
      · exact explains_of_suffix (ih _ _) c.next_suffix

/-! ## Block scalars -/

theorem scans_incrementAt (c : Cursor) : Scans Stop.Foreseen c (incrementAt c) := by
  unfold incrementAt
  dsimp only
  split
  · split
    · exact foreseen_stop c
    · exact c.next_suffix
  · exact List.suffix_refl _

theorem scans_blockMarks (c : Cursor) : Scans Stop.Foreseen c (blockMarks c) := by
  unfold blockMarks
  split
  · exact (scans_incrementAt c.next).map fun r hr => hr.trans c.next_suffix
  · have hincrement := scans_incrementAt c
    split
    · rename_i s hs
      exact hincrement.of_error hs
    · rename_i d hd
      exact hincrement.of_ok hd
    · rename_i n d hd
      have hsuffix := hincrement.of_ok hd
      split
      · exact d.next_suffix.trans hsuffix
      · exact hsuffix

/-- The end of a line that is reached leaves a part of the text. -/
theorem comes_lineEnd (c : Cursor) :
    Comes Stop.Foreseen (fun d : Cursor => d.rest <:+ c.rest) (lineEnd c) := by
  have hskip := c.skipSpaces.skipComment_suffix.trans c.skipSpaces_suffix
  unfold lineEnd
  dsimp only
  split
  · cases hbreak : c.skipSpaces.skipComment.lineBreak? with
    | none => exact hskip
    | some r => exact (Cursor.lineBreak?_suffix hbreak).trans hskip
  · exact foreseen_stop _

theorem blockIndentation_suffix (done : List CodePoint) (widest limit : Nat) (c : Cursor) :
    (blockIndentation done widest limit c).2.2.rest <:+ c.rest := by
  induction limit generalizing done widest c with
  | zero => exact List.suffix_refl _
  | succ limit ih =>
      unfold blockIndentation
      split
      · exact (ih _ _ _).trans c.skipSpaces_suffix
      · split
        · rename_i b d hbreak
          exact (ih _ _ _).trans (Cursor.lineBreak?_suffix hbreak)
        · exact List.suffix_refl _

theorem spacesUpTo_suffix (column limit : Nat) (c : Cursor) :
    (spacesUpTo column limit c).rest <:+ c.rest := by
  induction limit generalizing c with
  | zero => exact List.suffix_refl _
  | succ limit ih =>
      unfold spacesUpTo
      split
      · exact (ih _).trans c.next_suffix
      · exact List.suffix_refl _

theorem blockBreaks_suffix (column : Nat) (done : List CodePoint) (limit : Nat) (c : Cursor) :
    (blockBreaks column done limit c).2.rest <:+ c.rest := by
  induction limit generalizing done c with
  | zero => exact List.suffix_refl _
  | succ limit ih =>
      have hspaces := spacesUpTo_suffix column column c
      unfold blockBreaks
      dsimp only
      split
      · rename_i b d hbreak
        exact (ih _ _).trans ((Cursor.lineBreak?_suffix hbreak).trans hspaces)
      · exact hspaces

theorem blockLines_suffix (isFolded : Bool) (k : Chomping) (column : Nat)
    (done more : List CodePoint) (limit : Nat) (c : Cursor) :
    (blockLines isFolded k column done more limit c).2.rest <:+ c.rest := by
  induction limit generalizing done more c with
  | zero => exact List.suffix_refl _
  | succ limit ih =>
      have hline := c.span_suffix (! isBreak ·)
      unfold blockLines
      dsimp only
      generalize c.span (! isBreak ·) = spanned at hline ⊢
      cases hbreak : spanned.2.lineBreak? with
      | none =>
          have hmore := (blockBreaks_suffix column [] limit spanned.2).trans hline
          dsimp only
          split
          · exact (ih _ _ _).trans hmore
          · exact hmore
      | some r =>
          have hlast := (Cursor.lineBreak?_suffix hbreak).trans hline
          have hmore := (blockBreaks_suffix column [] limit r.2).trans hlast
          dsimp only
          split
          · exact (ih _ _ _).trans hmore
          · exact hmore

theorem scans_blockAt (isFolded : Bool) (indent : Int) (limit : Nat) (c : Cursor) :
    Scans Stop.Foreseen c (blockAt isFolded indent limit c) := by
  unfold blockAt
  refine (scans_blockMarks c).elim (fun _ => id) fun r hmarks => ?_
  dsimp only
  split
  · exact foreseen_stop _
  · refine (comes_lineEnd r.2).elim (fun _ => id) fun d hend => ?_
    have hd := hend.trans hmarks
    cases r.1.increment with
    | none =>
        have hlines := (blockIndentation_suffix [] 0 limit d).trans hd
        dsimp only
        split
        · exact (blockLines_suffix _ _ _ _ _ _ _).trans hlines
        · exact hlines
    | some n =>
        have hlines := (blockBreaks_suffix (max 1 (indent + 1).toNat + n - 1) [] limit d).trans hd
        dsimp only
        split
        · exact (blockLines_suffix _ _ _ _ _ _ _).trans hlines
        · exact hlines

/-! ## Names, tags and directives -/

/-- Whether a token is the sign of trouble. -/
def Token.isBroken : Token → Bool
  | .broken _ => true
  | _ => false

/-- A scan that finds a token, which is not the sign of trouble. -/
abbrev Finds (bad : Stop → Prop) (c : Cursor) (scan : Scan Token) : Prop :=
  Comes bad (fun r => r.1.isBroken = false ∧ r.2.rest <:+ c.rest) scan

theorem Finds.of_suffix {bad : Stop → Prop} {c d : Cursor} {scan : Scan Token}
    (h : Finds bad d scan) (hs : d.rest <:+ c.rest) : Finds bad c scan :=
  h.imp (fun _ => id) fun _ hr => ⟨hr.1, hr.2.trans hs⟩

theorem scans_nameAt (c : Cursor) : Scans Stop.Foreseen c (nameAt c) := by
  have hspan := c.span_suffix isNameChar
  unfold nameAt
  dsimp only
  split
  · exact foreseen_stop _
  · exact hspan

theorem scans_percentBytes (done : List UInt8) (limit : Nat) (c : Cursor) :
    Scans Stop.Foreseen c (percentBytes done limit c) := by
  induction limit generalizing done c with
  | zero => exact foreseen_stop c
  | succ limit ih =>
      unfold percentBytes
      split
      · split
        · exact foreseen_stop _
        · split
          · exact foreseen_stop _
          · exact (ih _ _).of_suffix (c.skip_suffix 3)
      · exact List.suffix_refl _

theorem scans_tagTextFrom (done : List CodePoint) (limit : Nat) (c : Cursor) :
    Scans Stop.Foreseen c (tagTextFrom done limit c) := by
  induction limit generalizing done c with
  | zero => exact foreseen_stop c
  | succ limit ih =>
      unfold tagTextFrom
      split
      · refine (scans_percentBytes [] limit c).elim (fun _ => id) fun r hbytes => ?_
        dsimp only
        split
        · exact foreseen_stop _
        · exact (ih _ _).of_suffix hbytes
      · split
        · exact (ih _ _).of_suffix c.next_suffix
        · exact List.suffix_refl _

theorem scans_tagText (limit : Nat) (c : Cursor) : Scans Stop.Foreseen c (tagText limit c) := by
  unfold tagText
  split
  · exact scans_tagTextFrom [] limit c
  · exact foreseen_stop c

theorem scans_handleAt (c : Cursor) : Scans Stop.Foreseen c (handleAt c) := by
  have hspan := (c.next.span_suffix isNameChar).trans c.next_suffix
  unfold handleAt
  split
  · exact foreseen_stop c
  split
  · exact c.next_suffix
  · dsimp only
    split
    · exact (Cursor.next_suffix _).trans hspan
    · exact foreseen_stop _

/-- A tag ends where its token may end. -/
theorem finds_tagAt (limit : Nat) (c : Cursor) : Finds Stop.Foreseen c (tagAt limit c) := by
  unfold tagAt
  dsimp only
  by_cases hangle : c.peekAt 1 = '<'
  · rw [if_pos hangle]
    refine ((scans_tagText limit (c.skip 2)).of_suffix (c.skip_suffix 2)).elim (fun _ => id) ?_
    intro r htext
    by_cases hclosed : r.2.peek = '>'
    · simp only [if_pos hclosed]
      split
      · exact ⟨rfl, r.2.next_suffix.trans htext⟩
      · exact foreseen_stop _
    · simp only [if_neg hclosed]
      exact foreseen_stop _
  rw [if_neg hangle]
  by_cases hblank : isBlankOrEnd (c.peekAt 1) = true
  · rw [if_pos hblank]
    dsimp only
    split
    · exact ⟨rfl, c.next_suffix⟩
    · exact foreseen_stop _
  rw [if_neg hblank]
  generalize wordLength c.next + 1 = n
  have hhandle : Scans Stop.Foreseen c
      (if (c.look n).peekAt n = '!' then handleAt (c.look n) else .ok ("!", (c.look n).next)) := by
    split
    · exact scans_handleAt (c.look n)
    · exact (c.look n).next_suffix
  refine hhandle.elim (fun _ => id) fun r hr => ?_
  dsimp only
  refine ((scans_tagText limit r.2).of_suffix hr).elim (fun _ => id) fun q htext => ?_
  simp only [Except.map]
  split
  · exact ⟨rfl, htext⟩
  · exact foreseen_stop _

theorem scans_versionNumber (c : Cursor) : Scans Stop.Foreseen c (versionNumber c) := by
  have hspan := c.span_suffix CodePoint.isDigit
  unfold versionNumber
  dsimp only
  split
  · exact foreseen_stop _
  split
  · exact Trouble.foreseen_badValue
  · exact hspan

theorem finds_versionAt (c : Cursor) : Finds Stop.Foreseen c (versionAt c) := by
  have hmajor := (scans_versionNumber c.skipSpaces).of_suffix c.skipSpaces_suffix
  unfold versionAt
  refine hmajor.elim (fun _ => id) fun r hr => ?_
  dsimp only
  split
  · exact foreseen_stop _
  · have hminor := (scans_versionNumber r.2.next).of_suffix (r.2.next_suffix.trans hr)
    refine hminor.elim (fun _ => id) fun q hq => ?_
    dsimp only
    split
    · exact ⟨rfl, hq⟩
    · exact foreseen_stop _

theorem finds_handleDirectiveAt (limit : Nat) (c : Cursor) :
    Finds Stop.Foreseen c (handleDirectiveAt limit c) := by
  have hhandle := (scans_handleAt c.skipSpaces).of_suffix c.skipSpaces_suffix
  unfold handleDirectiveAt
  refine hhandle.elim (fun _ => id) fun r hr => ?_
  dsimp only
  split
  · exact foreseen_stop _
  · have htext := (scans_tagText limit r.2.skipSpaces).of_suffix (r.2.skipSpaces_suffix.trans hr)
    refine htext.elim (fun _ => id) fun q hq => ?_
    dsimp only
    split
    · exact ⟨rfl, hq⟩
    · exact foreseen_stop _

/-- Whatever a directive is, the rest of its line holds a comment at most. -/
theorem finds_directiveAt (limit : Nat) (c : Cursor) :
    Finds Stop.Foreseen c (directiveAt limit c) := by
  have hspan := c.span_suffix isNameChar
  unfold directiveAt
  generalize c.span isNameChar = spanned at hspan ⊢
  obtain ⟨name, d⟩ := spanned
  dsimp only
  split
  · exact foreseen_stop _
  · have hfound : Finds Stop.Foreseen d
        (if name = "YAML" then versionAt d
        else if name = "TAG" then handleDirectiveAt limit d
        else .ok (.directive, d.skipWhile (! isBreak ·))) := by
      split
      · exact finds_versionAt d
      · split
        · exact finds_handleDirectiveAt limit d
        · exact ⟨rfl, d.skipWhile_suffix _⟩
    refine hfound.elim (fun _ => id) fun r hr => ?_
    exact (comes_lineEnd r.2).map fun e he => ⟨hr.1, he.trans (hr.2.trans hspan)⟩

/-! ## Plain scalars -/

theorem plainBreaks_suffix (done : List CodePoint) (limit : Nat) (c : Cursor) :
    (plainBreaks done limit c).2.2.rest <:+ c.rest := by
  induction limit generalizing done c with
  | zero => exact List.suffix_refl _
  | succ limit ih =>
      unfold plainBreaks
      split
      · exact (ih _ _).trans c.next_suffix
      · split
        · rename_i b d hbreak
          have hd : d.lookForSeparator.rest <:+ c.rest := by
            rw [d.lookForSeparator_rest]
            exact Cursor.lineBreak?_suffix hbreak
          dsimp only
          split
          · exact hd
          · exact (ih _ _).trans hd
        · exact List.suffix_refl _

theorem gapAt_suffix (limit : Nat) (c : Cursor) : (gapAt limit c).place.rest <:+ c.rest := by
  have hspan := c.span_suffix (· = .char ' ')
  unfold gapAt
  generalize c.span (· = .char ' ') = spanned at hspan ⊢
  dsimp only
  split
  · exact hspan
  · rename_i first d hbreak
    have hd : d.lookForSeparator.rest <:+ c.rest := by
      rw [d.lookForSeparator_rest]
      exact (Cursor.lineBreak?_suffix hbreak).trans hspan
    split
    · exact hd
    · have hbreaks := (plainBreaks_suffix [] limit d.lookForSeparator).trans hd
      split
      · rename_i heq
        rw [heq] at hbreaks
        exact hbreaks
      · rename_i heq
        rw [heq] at hbreaks
        exact hbreaks

theorem plainFrom_suffix (flow : Bool) (indent : Int) (done : List CodePoint) (gap : Gap)
    (limit : Nat) : (plainFrom flow indent done gap limit).place.rest <:+ gap.place.rest := by
  induction limit generalizing done gap with
  | zero => exact List.suffix_refl _
  | succ limit ih =>
      unfold plainFrom
      dsimp only
      generalize (if gap.place.peek = '#' then 0 else plainLength flow 0 gap.place.rest) = n
      have hlook : (if gap.place.peekAt n = ':' then gap.place.look (n + 1)
          else gap.place.look n).rest = gap.place.rest := by
        split <;> rfl
      generalize (if gap.place.peekAt n = ':' then gap.place.look (n + 1)
        else gap.place.look n) = c at hlook ⊢
      have hnext := (gapAt_suffix limit (c.skip n)).trans (c.skip_suffix n)
      rw [hlook] at hnext
      split
      · exact hlook ▸ List.suffix_refl _
      · split
        · exact hnext
        · exact (ih _ _).trans hnext

theorem plainAt_suffix (flow : Bool) (indent : Int) (limit : Nat) (c : Cursor) :
    (plainAt flow indent limit c).place.rest <:+ c.rest := plainFrom_suffix flow indent [] _ limit

end ModuleKeeper.Yaml
