import Mathlib.Data.List.Basic
import ModuleKeeper.Json.Reader
import ModuleKeeper.Json.Writer

/-!
# JSON read back

The reader undoes the writer.  The statement that goes through the recursion
speaks of a written value in front of any text that cannot go on with it: the
reader takes the value off and leaves this text (`valueAt_write`).  It asks
for as many steps as the written value has characters.

Values that are written as something else, such as dates, are left out, and
so are fractions and whole numbers that are too long to be read (`Plain`).

## Main results

* `textFrom_escaped_text`: escaped characters read back one by one.
* `valueAt_write`: a written value is taken off the front of a text.
* `read_write`: a written value reads back.
-/

namespace ModuleKeeper.Json

open ModuleKeeper.Text

/-! ## Texts -/

theorem textFrom_plain {c : CodePoint} (hquote : c ≠ '"') (hslash : c ≠ '\\')
    (hcontrol : 0x20 ≤ c.toNat) (opening : Nat) (done rest : List CodePoint) :
    textFrom opening done (c :: rest) = textFrom opening (c :: done) rest := by
  rw [textFrom]
  · rw [if_neg (by omega)]
  · exact hquote
  all_goals
    intros
    exact absurd ‹_› hslash

theorem textFrom_short {c d : CodePoint} (h : escaped? c = some d) (opening : Nat)
    (done rest : List CodePoint) :
    textFrom opening done ('\\' :: c :: rest) = textFrom opening (d :: done) rest := by
  have hu : c ≠ 'u' := by
    rintro rfl
    have hnone : escaped? (.char 'u') = none := by decide
    rw [hnone] at h
    cases h
  rw [textFrom]
  · rw [h]
  · intros
    exact absurd ‹_› hu
  · exact hu

theorem all_hexWord : (List.range 0x20).all (fun n =>
    match hexadecimal 4 n with
    | [a, b, c, d] => decide (hexWord? a b c d = some n)
    | _ => false) = true := by
  decide +kernel

theorem exists_hexWord {n : Nat} (hn : n < 0x20) :
    ∃ a b c d, hexadecimal 4 n = [a, b, c, d] ∧ hexWord? a b c d = some n := by
  have h := List.all_eq_true.1 all_hexWord n (List.mem_range.2 hn)
  split at h
  · rename_i a b c d hdigits
    exact ⟨a, b, c, d, hdigits, of_decide_eq_true h⟩
  · cases h

/-- The four digits of a control are followed by another character, because the text ends later. -/
theorem textFrom_numbered {n : Nat} (hn : n < 0x20) (opening : Nat)
    (done : List CodePoint) (e : CodePoint) (rest : List CodePoint) :
    textFrom opening done ('\\' :: 'u' :: (hexadecimal 4 n ++ e :: rest)) =
      textFrom opening (CodePoint.ofNat n :: done) (e :: rest) := by
  obtain ⟨a, b, c, d, hdigits, hword⟩ := exists_hexWord hn
  rw [hdigits]
  simp only [List.cons_append, List.nil_append]
  rw [textFrom, hword]
  dsimp only
  rw [if_neg (by omega)]

/-- The three forms of a written character: a letter or a number behind a backslash, or itself. -/
theorem escape_cases (c : CodePoint) :
    (∃ d, escaped? d = some c ∧ escape c = [.char '\\', d]) ∨
      (c.toNat < 0x20 ∧ escape c = .char '\\' :: .char 'u' :: hexadecimal 4 c.toNat) ∨
      (c ≠ '"' ∧ c ≠ '\\' ∧ 0x20 ≤ c.toNat ∧ escape c = [c]) := by
  unfold escape
  -- The seven characters that have letters of their own.
  iterate 7
    split
    · rename_i h
      refine Or.inl ⟨_, ?_, rfl⟩
      rw [h]
      decide
  split
  · rename_i hlt
    exact Or.inr (Or.inl ⟨hlt, rfl⟩)
  · rename_i hquote hslash _ _ _ _ _ hge
    exact Or.inr (Or.inr ⟨hquote, hslash, by omega, rfl⟩)

theorem textFrom_escape (c : CodePoint) (opening : Nat) (done : List CodePoint) (e : CodePoint)
    (rest : List CodePoint) :
    textFrom opening done (escape c ++ e :: rest) = textFrom opening (c :: done) (e :: rest) := by
  obtain ⟨d, hd, hc⟩ | ⟨hlt, hc⟩ | ⟨hquote, hslash, hge, hc⟩ := escape_cases c
  · rw [hc]
    exact textFrom_short hd opening done (e :: rest)
  · rw [hc]
    have hread := textFrom_numbered hlt opening done e rest
    rw [CodePoint.ofNat_toNat] at hread
    exact hread
  · rw [hc]
    exact textFrom_plain hquote hslash hge opening done (e :: rest)

/-- Escaped characters read back one by one, up to the closing quote. -/
theorem textFrom_escaped_text (cs : List CodePoint) (opening : Nat) (done rest : List CodePoint) :
    textFrom opening done (cs.flatMap escape ++ .char '"' :: rest) =
      .ok (Text.ofList (done.reverse ++ cs), rest) := by
  induction cs generalizing done with
  | nil => simp [textFrom]
  | cons c cs ih =>
      have hne : cs.flatMap escape ++ .char '"' :: rest ≠ [] := by simp
      obtain ⟨e, more, hmore⟩ := List.exists_cons_of_ne_nil hne
      have hrest := ih (c :: done)
      rw [List.flatMap_cons, List.append_assoc, hmore, textFrom_escape, ← hmore, hrest]
      simp

/-! ## Whole numbers -/

/-- A text that cannot go on with a number: it is at its end, or at a mark between values. -/
def Ended (rest : List CodePoint) : Prop :=
  ∀ c more, rest = c :: more → c = ',' ∨ c = ']' ∨ c = '\x7d'

theorem ended_nil : Ended [] := by
  intro c more h
  cases h

theorem ended_cons {c : CodePoint} (h : c = ',' ∨ c = ']' ∨ c = '\x7d') (rest : List CodePoint) :
    Ended (c :: rest) := by
  intro d more hd
  cases hd
  exact h

theorem Ended.takeWhile_isDigit {rest : List CodePoint} (h : Ended rest) :
    rest.takeWhile CodePoint.isDigit = [] := by
  cases rest with
  | nil => rfl
  | cons c more =>
      obtain rfl | rfl | rfl := h c more rfl <;> rfl

theorem Ended.places {rest : List CodePoint} (h : Ended rest) : places rest = ([], rest) := by
  cases rest with
  | nil => rfl
  | cons c more =>
      obtain rfl | rfl | rfl := h c more rfl <;> rfl

theorem Ended.exponent? {rest : List CodePoint} (h : Ended rest) : exponent? rest = none := by
  cases rest with
  | nil => rfl
  | cons c more =>
      obtain rfl | rfl | rfl := h c more rfl <;> rfl

theorem isDigit_of_mem_decimal {n : Nat} {c : CodePoint} (h : c ∈ decimal n) :
    c.isDigit = true := by
  obtain ⟨d, hd, rfl⟩ := List.mem_map.1 h
  exact Nat.isDigit_of_mem_toDigits (by decide) (by decide) hd

/-- Only zero is written with a zero in front. -/
theorem eq_zero_of_toDigits_eq_zero_cons {n : Nat} {cs : List Char}
    (h : Nat.toDigits 10 n = '0' :: cs) : n = 0 := by
  induction n using Nat.strongRecOn generalizing cs with
  | ind n ih =>
      rw [Nat.toDigits_eq_if (by decide)] at h
      split at h
      · exact Nat.digitChar_eq_zero.1 (List.cons.inj h).1
      · have hne : Nat.toDigits 10 (n / 10) ≠ [] := Nat.toDigits_ne_nil
        obtain ⟨c, more, hmore⟩ := List.exists_cons_of_ne_nil hne
        rw [hmore, List.cons_append] at h
        rw [(List.cons.inj h).1] at hmore
        have hzero := ih (n / 10) (by omega) hmore
        omega

theorem wholeDigits_decimal (n : Nat) {rest : List CodePoint} (h : Ended rest) :
    wholeDigits (decimal n ++ rest) = decimal n := by
  unfold wholeDigits
  split
  · rename_i more hzero
    have hne : Nat.toDigits 10 n ≠ [] := Nat.toDigits_ne_nil
    obtain ⟨c, cs, hcs⟩ := List.exists_cons_of_ne_nil hne
    rw [decimal, hcs, List.map_cons, List.cons_append] at hzero
    have hc : c = '0' := CodePoint.char.inj (List.cons.inj hzero).1
    have hn : n = 0 := eq_zero_of_toDigits_eq_zero_cons (hc ▸ hcs)
    rw [hn]
    rfl
  · rw [List.takeWhile_append_of_pos fun c hc => isDigit_of_mem_decimal hc,
      h.takeWhile_isDigit, List.append_nil]

theorem digitsValue_decimal (n : Nat) : digitsValue (decimal n) = n := by
  have hvalue := Nat.ofDigitChars_ten_toDigits (n := n)
  rw [Nat.ofDigitChars_eq_foldl] at hvalue
  rw [digitsValue, decimal, Numeral.valueOf, List.map_map, List.foldl_map]
  simpa [Nat.mul_comm, CodePoint.toNat] using hvalue

theorem numberAfterSign_decimal (negative : Bool) {n : Nat} {rest : List CodePoint}
    (hlen : (decimal n).length ≤ Numeral.digitLimit) (h : Ended rest) :
    numberAfterSign negative (decimal n ++ rest) =
      some (.ok (.int (Numeral.signed negative n), rest)) := by
  unfold numberAfterSign
  rw [wholeDigits_decimal n h]
  have hempty : (decimal n).isEmpty = false := by simpa using decimal_ne_nil n
  simp only [hempty, List.drop_left, h.places, h.exponent?]
  simp [digitsValue_decimal, Nat.not_lt.2 hlen]

/-- No word for a value starts like a number. -/
theorem all_constants : constants.all (fun w =>
    match w.1 with
    | a :: b :: _ => !a.isDigit && !(a == .char '-' && b.isDigit)
    | _ => false) = true := by
  decide

theorem exists_of_mem_constants {w : List CodePoint × Value} (hw : w ∈ constants) :
    ∃ a b more, w.1 = a :: b :: more ∧ a.isDigit = false ∧ ¬(a = '-' ∧ b.isDigit = true) := by
  have h := List.all_eq_true.1 all_constants w hw
  split at h
  · rename_i a b more hword
    refine ⟨a, b, more, hword, ?_⟩
    simpa [imp_iff_not_or] using h
  · cases h

theorem scalar_of_digit {c : CodePoint} (hc : c.isDigit = true) (more : List CodePoint) :
    scalar (c :: more) = number (c :: more) := by
  have hnone : constants.find? (fun w => w.1.isPrefixOf (c :: more)) = none := by
    rw [List.find?_eq_none]
    intro w hw hfront
    obtain ⟨a, b, tail, hword, ha, -⟩ := exists_of_mem_constants hw
    rw [hword, List.isPrefixOf_iff_prefix, List.cons_prefix_cons] at hfront
    rw [hfront.1, hc] at ha
    cases ha
  rw [scalar, hnone]

theorem scalar_of_minus_digit {c : CodePoint} (hc : c.isDigit = true) (more : List CodePoint) :
    scalar ('-' :: c :: more) = number ('-' :: c :: more) := by
  have hnone : constants.find? (fun w => w.1.isPrefixOf (.char '-' :: c :: more)) = none := by
    rw [List.find?_eq_none]
    intro w hw hfront
    obtain ⟨a, b, tail, hword, -, hab⟩ := exists_of_mem_constants hw
    rw [hword, List.isPrefixOf_iff_prefix, List.cons_prefix_cons, List.cons_prefix_cons] at hfront
    exact hab ⟨hfront.1, hfront.2.1 ▸ hc⟩
  rw [scalar, hnone]

theorem scalar_intText {n : Int} {rest : List CodePoint}
    (hlen : (decimal n.natAbs).length ≤ Numeral.digitLimit) (h : Ended rest) :
    scalar (Value.intText n ++ rest) = .ok (.int n, rest) := by
  obtain ⟨c, cs, hcs⟩ := List.exists_cons_of_ne_nil (decimal_ne_nil n.natAbs)
  have hc : c.isDigit = true := isDigit_of_mem_decimal (n := n.natAbs) (by simp [hcs])
  unfold Value.intText
  split
  · rename_i hneg
    have hread := numberAfterSign_decimal true hlen h
    have hsigned : Numeral.signed true n.natAbs = n := by
      rw [Numeral.signed, if_pos rfl]
      omega
    rw [hsigned] at hread
    rw [hcs, List.cons_append, List.cons_append, scalar_of_minus_digit hc]
    rw [hcs, List.cons_append] at hread
    simp only [number, hread, Option.getD_some]
  · rename_i hneg
    have hread := numberAfterSign_decimal false hlen h
    have hsigned : Numeral.signed false n.natAbs = n := by
      rw [Numeral.signed, if_neg (by decide)]
      omega
    rw [hsigned] at hread
    rw [hcs, List.cons_append] at hread ⊢
    have hminus : c ≠ '-' := by
      rintro rfl
      cases hc
    rw [scalar_of_digit hc, number, hread, Option.getD_some]
    intro more hmore
    exact hminus (List.cons.inj hmore).1

/-! ## Values -/

mutual

/-- The values that are written as themselves and can be read. -/
def Plain : Value → Prop
  | .null => True
  | .bool _ => True
  | .int n => (decimal n.natAbs).length ≤ Numeral.digitLimit
  | .str _ => True
  | .list items => PlainItems items
  | .map entries => PlainEntries entries
  | _ => False

/-- Items that are all plain. -/
def PlainItems : List Value → Prop
  | [] => True
  | v :: vs => Plain v ∧ PlainItems vs

/-- Entries with plain values under distinct texts. -/
def PlainEntries : List (Value × Value) → Prop
  | [] => True
  | (k, v) :: es => (∃ s, k = .str s ∧ ∀ e ∈ es, e.1 ≠ .str s) ∧ Plain v ∧ PlainEntries es

end

theorem plainItems_map_str (names : List Text) : PlainItems (names.map .str) := by
  induction names with
  | nil => exact trivial
  | cons n ns ih => exact ⟨trivial, ih⟩

/-- How a written value starts: with no space, no closing bracket and no byte order mark. -/
structure Opens (c : CodePoint) : Prop where
  not_space : isSpace c = false
  not_bracket : c ≠ ']'
  not_mark : c ≠ '\ufeff'

theorem Opens.of_isDigit {c : CodePoint} (h : c.isDigit = true) : Opens c := by
  refine ⟨?_, ?_, ?_⟩
  · simp only [isSpace, Bool.or_eq_false_iff, decide_eq_false_iff_not]
    refine ⟨⟨⟨?_, ?_⟩, ?_⟩, ?_⟩ <;> rintro rfl <;> cases h
  · rintro rfl
    cases h
  · rintro rfl
    cases h

theorem write_eq_cons {v : Value} (h : Plain v) : ∃ c cs, write v = c :: cs ∧ Opens c := by
  cases v with
  | null => exact ⟨'n', letters "ull", rfl, by decide, by decide, by decide⟩
  | bool b =>
      cases b
      · exact ⟨'f', letters "alse", rfl, by decide, by decide, by decide⟩
      · exact ⟨'t', letters "rue", rfl, by decide, by decide, by decide⟩
  | int n =>
      obtain ⟨c, cs, hcs⟩ := List.exists_cons_of_ne_nil (decimal_ne_nil n.natAbs)
      have hc : c.isDigit = true := isDigit_of_mem_decimal (n := n.natAbs) (by simp [hcs])
      rw [write, Value.intText]
      split
      · exact ⟨'-', decimal n.natAbs, rfl, by decide, by decide, by decide⟩
      · exact ⟨c, cs, hcs, Opens.of_isDigit hc⟩
  | str s => exact ⟨'"', _, rfl, by decide, by decide, by decide⟩
  | list items => exact ⟨'[', _, rfl, by decide, by decide, by decide⟩
  | map entries => exact ⟨'\x7b', _, rfl, by decide, by decide, by decide⟩
  | float | bytes | date | moment | pair | set | again => exact absurd h id

theorem skip_cons {c : CodePoint} (h : isSpace c = false) (rest : List CodePoint) :
    skip (c :: rest) = c :: rest := by
  rw [skip, List.dropWhile_cons_of_neg (by simp [h])]

theorem skip_write_append {v : Value} (h : Plain v) (rest : List CodePoint) :
    skip (write v ++ rest) = write v ++ rest := by
  obtain ⟨c, cs, hcs, hopens⟩ := write_eq_cons h
  rw [hcs, List.cons_append, skip_cons hopens.not_space]

theorem put_eq_append {α : Type} {k : Text} (v : α) {entries : List (Value × α)}
    (hkeys : ∀ e ∈ entries, ∃ s, e.1 = .str s ∧ s ≠ k) :
    Value.put (.str k) v entries = entries ++ [(.str k, v)] := by
  induction entries with
  | nil => rfl
  | cons e es ih =>
      obtain ⟨s, hs, hne⟩ := hkeys e (by simp)
      have hkey : Value.sameKey e.1 (.str k) = false := by
        rw [hs, Value.sameKey]
        simpa using hne
      rw [Value.put, hkey, if_neg (by decide), ih fun e he => hkeys e (by simp [he])]
      rfl

/-! ### Steps of the reader -/

theorem textFrom_writeText (s : Text) (opening : Nat) (rest : List CodePoint) :
    textFrom opening [] (s.toList.flatMap escape ++ "\"" ++ rest) = .ok (s, rest) := by
  rw [List.append_assoc]
  exact textFrom_escaped_text s.toList opening [] rest

theorem itemsFrom_last {fuel : Nat} {cs : List CodePoint} {v : Value} {rest : List CodePoint}
    (h : valueAt fuel cs = .ok (v, .char ']' :: rest)) (done : List Value) :
    itemsFrom (fuel + 1) done cs = .ok (.list (done.reverse ++ [v]), rest) := by
  rw [itemsFrom, h]
  simp [skip, isSpace]

theorem itemsFrom_next {fuel : Nat} {cs : List CodePoint} {v : Value} {rest : List CodePoint}
    (h : valueAt fuel cs = .ok (v, .char ',' :: .char ' ' :: rest)) (hskip : skip rest = rest)
    (done : List Value) :
    itemsFrom (fuel + 1) done cs = itemsFrom fuel (v :: done) rest := by
  rw [itemsFrom, h]
  have hblank : skip (.char ' ' :: rest) = rest := hskip
  simp only [skip_cons (show isSpace (.char ',') = false by decide), hblank]

theorem entriesFrom_last {fuel : Nat} {cs : List CodePoint} {v : Value}
    {rest : List CodePoint} (hskip : skip cs = cs)
    (h : valueAt fuel cs = .ok (v, .char '\x7d' :: rest)) (name : Text)
    (done : List (Value × Value)) :
    entriesFrom (fuel + 1) done (writeText name.toList ++ (.char ':' :: .char ' ' :: cs)) =
      .ok (.map (Value.put (.str name) v done), rest) := by
  have hblank : skip (.char ' ' :: cs) = cs := hskip
  rw [writeText, List.cons_append, entriesFrom, textFrom_writeText]
  simp only [skip_cons (show isSpace (.char ':') = false by decide), hblank, h,
    skip_cons (show isSpace (.char '\x7d') = false by decide)]

theorem entriesFrom_next {fuel : Nat} {cs : List CodePoint} {v : Value}
    {rest : List CodePoint} (hskip : skip cs = cs)
    (h : valueAt fuel cs = .ok (v, .char ',' :: .char ' ' :: rest)) (hrest : skip rest = rest)
    (name : Text) (done : List (Value × Value)) :
    entriesFrom (fuel + 1) done (writeText name.toList ++ (.char ':' :: .char ' ' :: cs)) =
      entriesFrom fuel (Value.put (.str name) v done) rest := by
  have hblank : skip (.char ' ' :: cs) = cs := hskip
  have hbehind : skip (.char ' ' :: rest) = rest := hrest
  rw [writeText, List.cons_append, entriesFrom, textFrom_writeText]
  simp only [skip_cons (show isSpace (.char ':') = false by decide), hblank, h,
    skip_cons (show isSpace (.char ',') = false by decide), hbehind]

/-! ### Written lists and maps -/

theorem write_list (items : List Value) : write (.list items) =
    .char '[' :: (Value.commaJoined (writeItems items) ++ [.char ']']) := rfl

theorem write_map (entries : List (Value × Value)) : write (.map entries) =
    .char '\x7b' :: (Value.commaJoined (writeEntries entries) ++ [.char '\x7d']) := rfl

theorem joined_items_cons (v w : Value) (vs : List Value) :
    Value.commaJoined (writeItems (v :: w :: vs)) =
      write v ++ (.char ',' :: .char ' ' :: Value.commaJoined (writeItems (w :: vs))) := by
  simp [writeItems, Value.commaJoined, letters]

theorem joined_entries_single (s : Text) (v : Value) :
    Value.commaJoined (writeEntries [(.str s, v)]) =
      writeText s.toList ++ (.char ':' :: .char ' ' :: write v) := by
  simp [writeEntries, Value.commaJoined, keyText, Value.displayed, letters]

theorem joined_entries_cons (s : Text) (v : Value) (e : Value × Value)
    (es : List (Value × Value)) :
    Value.commaJoined (writeEntries ((.str s, v) :: e :: es)) =
      writeText s.toList ++ (.char ':' :: .char ' ' :: (write v ++
        (.char ',' :: .char ' ' :: Value.commaJoined (writeEntries (e :: es))))) := by
  simp [writeEntries, Value.commaJoined, keyText, Value.displayed, letters]

theorem joined_items_eq_cons {v : Value} (hv : Plain v) (vs : List Value) :
    ∃ c cs, Value.commaJoined (writeItems (v :: vs)) = c :: cs ∧ Opens c := by
  obtain ⟨c, cs, hcs, hopens⟩ := write_eq_cons hv
  cases vs with
  | nil => exact ⟨c, cs, by simp [writeItems, Value.commaJoined, hcs], hopens⟩
  | cons w ws =>
      rw [joined_items_cons, hcs]
      exact ⟨c, _, rfl, hopens⟩

theorem skip_joined_items {v : Value} (hv : Plain v) (vs : List Value) (rest : List CodePoint) :
    skip (Value.commaJoined (writeItems (v :: vs)) ++ rest) =
      Value.commaJoined (writeItems (v :: vs)) ++ rest := by
  obtain ⟨c, cs, hcs, hopens⟩ := joined_items_eq_cons hv vs
  rw [hcs, List.cons_append, skip_cons hopens.not_space]

theorem joined_entries_eq_cons {e : Value × Value} {es : List (Value × Value)}
    (h : PlainEntries (e :: es)) :
    ∃ cs, Value.commaJoined (writeEntries (e :: es)) = .char '"' :: cs := by
  obtain ⟨k, v⟩ := e
  obtain ⟨⟨s, rfl, -⟩, -⟩ := h
  cases es with
  | nil =>
      rw [joined_entries_single]
      exact ⟨_, rfl⟩
  | cons f fs =>
      rw [joined_entries_cons]
      exact ⟨_, rfl⟩

theorem skip_joined_entries {e : Value × Value} {es : List (Value × Value)}
    (h : PlainEntries (e :: es)) (rest : List CodePoint) :
    skip (Value.commaJoined (writeEntries (e :: es)) ++ rest) =
      Value.commaJoined (writeEntries (e :: es)) ++ rest := by
  obtain ⟨cs, hcs⟩ := joined_entries_eq_cons h
  rw [hcs, List.cons_append, skip_cons (by decide)]

/-! ### Whole values -/

theorem valueAt_of_scalar {c : CodePoint} (hquote : c ≠ '"') (hbracket : c ≠ '[')
    (hbrace : c ≠ '\x7b') (fuel : Nat) (cs : List CodePoint) :
    valueAt (fuel + 1) (c :: cs) = scalar (c :: cs) := by
  rw [valueAt]
  · exact fun rest h => hquote (List.cons.inj h).1
  · exact fun rest h => hbracket (List.cons.inj h).1
  · exact fun rest h => hbrace (List.cons.inj h).1

theorem valueAt_constant {w : List CodePoint × Value} (hw : w ∈ constants.take 3) (fuel : Nat)
    (rest : List CodePoint) : valueAt (fuel + 1) (w.1 ++ rest) = .ok (w.2, rest) := by
  have hcases : w = (letters "null", .null) ∨ w = (letters "true", .bool true) ∨
      w = (letters "false", .bool false) := by
    simpa [constants] using hw
  obtain rfl | rfl | rfl := hcases
  · exact valueAt_of_scalar (by decide) (by decide) (by decide) fuel _
  · exact valueAt_of_scalar (by decide) (by decide) (by decide) fuel _
  · exact valueAt_of_scalar (by decide) (by decide) (by decide) fuel _

theorem valueAt_intText {n : Int} (hlen : (decimal n.natAbs).length ≤ Numeral.digitLimit)
    (fuel : Nat) {rest : List CodePoint} (hrest : Ended rest) :
    valueAt (fuel + 1) (Value.intText n ++ rest) = .ok (.int n, rest) := by
  rw [← scalar_intText hlen hrest]
  obtain ⟨c, cs, hcs⟩ := List.exists_cons_of_ne_nil (decimal_ne_nil n.natAbs)
  have hc : c.isDigit = true := isDigit_of_mem_decimal (n := n.natAbs) (by simp [hcs])
  rw [Value.intText]
  split
  · exact valueAt_of_scalar (by decide) (by decide) (by decide) fuel _
  · rw [hcs, List.cons_append]
    refine valueAt_of_scalar ?_ ?_ ?_ fuel _ <;> rintro rfl <;> cases hc

theorem valueAt_writeText (s : Text) (fuel : Nat) (rest : List CodePoint) :
    valueAt (fuel + 1) (writeText s.toList ++ rest) = .ok (.str s, rest) := by
  rw [writeText, List.cons_append, valueAt, textFrom_writeText]
  rfl

theorem valueAt_bracket {cs : List CodePoint} (hskip : skip cs = cs)
    (hopen : ∀ more, cs ≠ .char ']' :: more) (fuel : Nat) :
    valueAt (fuel + 1) (.char '[' :: cs) = itemsFrom fuel [] cs := by
  rw [valueAt, hskip]
  split
  · exact absurd rfl (hopen _)
  · rfl

theorem valueAt_brace {cs : List CodePoint} (hskip : skip cs = cs)
    (hopen : ∀ more, cs ≠ .char '\x7d' :: more) (fuel : Nat) :
    valueAt (fuel + 1) (.char '\x7b' :: cs) = entriesFrom fuel [] cs := by
  rw [valueAt, hskip]
  split
  · exact absurd rfl (hopen _)
  · rfl

mutual

/--
**Values are taken off.**  The reader takes a written value off the front of a
text that cannot go on with it.  The steps that it may take cover the written
value, so they cover every part of it together with what stands around it.
-/
theorem valueAt_write (v : Value) (hv : Plain v) (fuel : Nat) (hfuel : (write v).length ≤ fuel)
    (rest : List CodePoint) (hrest : Ended rest) :
    valueAt fuel (write v ++ rest) = .ok (v, rest) := by
  obtain ⟨c, cs, hcs, -⟩ := write_eq_cons hv
  have hpos : 0 < (write v).length := by simp [hcs]
  obtain ⟨fuel, rfl⟩ := Nat.exists_eq_succ_of_ne_zero (Nat.ne_of_gt (Nat.lt_of_lt_of_le hpos hfuel))
  cases v with
  | null => exact valueAt_constant (w := (letters "null", .null)) (by simp [constants]) fuel rest
  | bool b =>
      cases b
      · exact valueAt_constant (w := (letters "false", .bool false)) (by simp [constants]) fuel rest
      · exact valueAt_constant (w := (letters "true", .bool true)) (by simp [constants]) fuel rest
  | int n => exact valueAt_intText hv fuel hrest
  | str s => exact valueAt_writeText s fuel rest
  | list items =>
      cases items with
      | nil => rfl
      | cons v vs =>
          rw [write_list] at hfuel ⊢
          simp only [List.length_cons, List.length_append, List.length_nil] at hfuel
          obtain ⟨d, ds, hds, hopens⟩ := joined_items_eq_cons hv.1 vs
          have hopen : ∀ more, Value.commaJoined (writeItems (v :: vs)) ++ .char ']' :: rest ≠
              .char ']' :: more := by
            intro more hmore
            rw [hds] at hmore
            exact hopens.not_bracket (List.cons.inj hmore).1
          rw [List.cons_append, List.append_assoc, List.singleton_append,
            valueAt_bracket (skip_joined_items hv.1 vs _) hopen]
          exact itemsFrom_write v vs hv fuel (by omega) [] rest
  | map entries =>
      cases entries with
      | nil => rfl
      | cons e es =>
          rw [write_map] at hfuel ⊢
          simp only [List.length_cons, List.length_append, List.length_nil] at hfuel
          have hopen : ∀ more, Value.commaJoined (writeEntries (e :: es)) ++ .char '\x7d' :: rest ≠
              .char '\x7d' :: more := by
            intro more hmore
            obtain ⟨ds, hds⟩ := joined_entries_eq_cons hv
            rw [hds] at hmore
            exact absurd (List.cons.inj hmore).1 (by decide)
          rw [List.cons_append, List.append_assoc, List.singleton_append,
            valueAt_brace (skip_joined_entries hv _) hopen]
          exact entriesFrom_write e es hv fuel (by omega) [] (by simp) rest
  | float | bytes | date | moment | pair | set | again => exact absurd hv id
termination_by fuel

/-- The reader takes written items off, up to the end of their list. -/
theorem itemsFrom_write (v : Value) (vs : List Value) (hvs : PlainItems (v :: vs)) (fuel : Nat)
    (hfuel : (Value.commaJoined (writeItems (v :: vs))).length < fuel) (done : List Value)
    (rest : List CodePoint) :
    itemsFrom fuel done (Value.commaJoined (writeItems (v :: vs)) ++ .char ']' :: rest) =
      .ok (.list (done.reverse ++ v :: vs), rest) := by
  obtain ⟨fuel, rfl⟩ := Nat.exists_eq_succ_of_ne_zero (Nat.ne_of_gt (Nat.zero_lt_of_lt hfuel))
  cases vs with
  | nil =>
      have hlen : (write v).length ≤ fuel := Nat.le_of_lt_succ hfuel
      exact itemsFrom_last (valueAt_write v hvs.1 fuel hlen _ (ended_cons (by decide) rest)) done
  | cons w ws =>
      rw [joined_items_cons] at hfuel ⊢
      simp only [List.length_append, List.length_cons] at hfuel
      rw [List.append_assoc, List.cons_append, List.cons_append]
      rw [itemsFrom_next (valueAt_write v hvs.1 fuel (by omega) _ (ended_cons (by decide) _))
        (skip_joined_items hvs.2.1 ws _),
        itemsFrom_write w ws hvs.2 fuel (by omega) (v :: done) rest]
      simp
termination_by fuel

/-- The reader takes written entries off, up to the end of their map. -/
theorem entriesFrom_write (e : Value × Value) (es : List (Value × Value))
    (hes : PlainEntries (e :: es)) (fuel : Nat)
    (hfuel : (Value.commaJoined (writeEntries (e :: es))).length < fuel)
    (done : List (Value × Value))
    (hdone : ∀ d ∈ done, ∃ s, d.1 = .str s ∧ ∀ f ∈ e :: es, f.1 ≠ .str s)
    (rest : List CodePoint) :
    entriesFrom fuel done (Value.commaJoined (writeEntries (e :: es)) ++ .char '\x7d' :: rest) =
      .ok (.map (done ++ e :: es), rest) := by
  obtain ⟨fuel, rfl⟩ := Nat.exists_eq_succ_of_ne_zero (Nat.ne_of_gt (Nat.zero_lt_of_lt hfuel))
  obtain ⟨k, v⟩ := e
  obtain ⟨⟨s, rfl, hdistinct⟩, hv, hmore⟩ := hes
  have hput : Value.put (.str s) v done = done ++ [(.str s, v)] := by
    refine put_eq_append v fun d hd => ?_
    obtain ⟨t, ht, hne⟩ := hdone d hd
    refine ⟨t, ht, ?_⟩
    rintro rfl
    exact hne (.str t, v) (by simp) rfl
  cases es with
  | nil =>
      rw [joined_entries_single] at hfuel ⊢
      simp only [List.length_append, List.length_cons] at hfuel
      rw [List.append_assoc, List.cons_append, List.cons_append]
      rw [entriesFrom_last (skip_write_append hv _)
        (valueAt_write v hv fuel (by omega) _ (ended_cons (by decide) rest)), hput]
  | cons f fs =>
      rw [joined_entries_cons] at hfuel ⊢
      simp only [List.length_append, List.length_cons] at hfuel
      simp only [List.append_assoc, List.cons_append]
      rw [entriesFrom_next (skip_write_append hv _)
        (valueAt_write v hv fuel (by omega) _ (ended_cons (by decide) _))
        (skip_joined_entries hmore _), hput,
        entriesFrom_write f fs hmore fuel (by omega) _ ?_ rest]
      · simp
      · intro d hd
        rcases List.mem_append.1 hd with hd | hd
        · obtain ⟨t, ht, hne⟩ := hdone d hd
          exact ⟨t, ht, fun g hg => hne g (List.mem_cons_of_mem _ hg)⟩
        · rw [List.mem_singleton.1 hd]
          exact ⟨s, rfl, hdistinct⟩
termination_by fuel

end

/-- What is written as itself reads back. -/
theorem read_write {v : Value} (hv : Plain v) : read (write v) = .ok v := by
  obtain ⟨c, cs, hcs, hopens⟩ := write_eq_cons hv
  have hskip : skip (write v) = write v := by
    rw [hcs, skip_cons hopens.not_space]
  have hvalue := valueAt_write v hv (2 * (write v).length + 1) (by omega) [] ended_nil
  rw [List.append_nil] at hvalue
  rw [read]
  · rw [hskip, hvalue]
    rfl
  · intro rest hrest
    rw [hcs] at hrest
    exact hopens.not_mark (List.cons.inj hrest).1

end ModuleKeeper.Json
