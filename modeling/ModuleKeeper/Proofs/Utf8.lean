import ModuleKeeper.Text.Surrogate
import ModuleKeeper.Text.Utf8

/-!
# Bytes read back

The walk over the bytes of a text stands between two characters after each
encoded character, with exactly this character behind what it had before.  A
text without surrogates therefore reads back from its bytes, by the strict
reading and by the forgiving one.

The strict reading takes nothing else.  A walk in which nothing is malformed
begins with the bytes of a character, because each byte behind the first was
expected, and so does the walk behind them.

## Main results

* `walk_encodeChar`: the bytes of one character are one character of the walk.
* `decode_encode`: what can be written as bytes reads back.
* `decode_eq_some_iff`: bytes are read as the one text whose bytes they are.
-/

namespace ModuleKeeper.Text.Utf8

/-! ## Bytes -/

theorem toNat_ofNat_of_lt {n : Nat} (h : n < 0x100) : (UInt8.ofNat n).toNat = n := by
  rw [UInt8.toNat_ofNat']
  exact Nat.mod_eq_of_lt h

theorem toNat_continuation (n : Nat) : (continuation n).toNat = 0x80 + n % 0x40 :=
  toNat_ofNat_of_lt (by omega)

/-- The walk goes on behind a byte that starts a character. -/
theorem walk_lead {b : UInt8} {e : Expected} (h : start b.toNat = .lead e)
    (done : List (Option CodePoint)) (bs : List UInt8) :
    walk none done (b :: bs) = walk (some e) done bs := by
  simp only [walk, step, begin, h]

/-- The walk goes on behind a byte that is expected and is not the last one. -/
theorem walk_middle {e : Expected} {n : Nat} (hlow : e.low ≤ 0x80 + n % 0x40)
    (hhigh : 0x80 + n % 0x40 ≤ e.high) (hmore : 1 < e.missing)
    (done : List (Option CodePoint)) (bs : List UInt8) :
    walk (some e) done (continuation n :: bs) =
      walk (some ⟨e.missing - 1, e.bits * 0x40 + n % 0x40, 0x80, 0xbf⟩) done bs := by
  have hmod : (0x80 + n % 0x40) % 0x40 = n % 0x40 := by omega
  simp only [walk, step, toNat_continuation, hmod]
  rw [if_pos ⟨hlow, hhigh⟩, if_neg (by omega)]

/-- The last expected byte completes the character. -/
theorem walk_last {e : Expected} {n : Nat} (hlow : e.low ≤ 0x80 + n % 0x40)
    (hhigh : 0x80 + n % 0x40 ≤ e.high) (hlast : e.missing ≤ 1)
    (done : List (Option CodePoint)) (bs : List UInt8) :
    walk (some e) done (continuation n :: bs) =
      walk none (some (CodePoint.ofNat (e.bits * 0x40 + n % 0x40)) :: done) bs := by
  have hmod : (0x80 + n % 0x40) % 0x40 = n % 0x40 := by omega
  simp only [walk, step, toNat_continuation, hmod]
  rw [if_pos ⟨hlow, hhigh⟩, if_pos hlast]

/-! ## Numbers of one to four bytes -/

theorem walk_one {n : Nat} (hhigh : n < 0x80) (done : List (Option CodePoint))
    (bs : List UInt8) :
    walk none done (UInt8.ofNat n :: bs) = walk none (some (CodePoint.ofNat n) :: done) bs := by
  have hstart : start n = .single (CodePoint.ofNat n) := by
    unfold start
    rw [if_pos hhigh]
  have hbyte : (UInt8.ofNat n).toNat = n := toNat_ofNat_of_lt (by omega)
  simp only [walk, step, begin, hbyte, hstart]

theorem walk_two {n : Nat} (hlow : 0x80 ≤ n) (hhigh : n < 0x800)
    (done : List (Option CodePoint)) (bs : List UInt8) :
    walk none done (UInt8.ofNat (0xc0 + n / 0x40) :: continuation n :: bs) =
      walk none (some (CodePoint.ofNat n) :: done) bs := by
  have hlead : start (0xc0 + n / 0x40) = .lead ⟨1, n / 0x40, 0x80, 0xbf⟩ := by
    have hbits : 0xc0 + n / 0x40 - 0xc0 = n / 0x40 := by omega
    unfold start
    rw [if_neg (by omega), if_neg (by omega), if_pos (by omega), hbits]
  rw [← toNat_ofNat_of_lt (show 0xc0 + n / 0x40 < 0x100 by omega)] at hlead
  have hbits : n / 0x40 * 0x40 + n % 0x40 = n := by omega
  rw [walk_lead hlead, walk_last (by dsimp only; omega) (by dsimp only; omega) (by simp)]
  dsimp only
  rw [hbits]

/-- The byte behind the start is expected, because no surrogate is meant. -/
theorem start_three {n : Nat} (hlow : 0x800 ≤ n) (hhigh : n < 0x10000)
    (hpair : n < 0xd800 ∨ 0xe000 ≤ n) :
    ∃ low high, start (0xe0 + n / 0x1000) = .lead ⟨2, n / 0x1000, low, high⟩ ∧
      low ≤ 0x80 + n / 0x40 % 0x40 ∧ 0x80 + n / 0x40 % 0x40 ≤ high := by
  refine ⟨if 0xe0 + n / 0x1000 = 0xe0 then 0xa0 else 0x80,
    if 0xe0 + n / 0x1000 = 0xed then 0x9f else 0xbf, ?_, ?_, ?_⟩
  · have hbits : 0xe0 + n / 0x1000 - 0xe0 = n / 0x1000 := by omega
    unfold start
    rw [if_neg (by omega), if_neg (by omega), if_neg (by omega), if_pos (by omega), hbits]
  · split <;> omega
  · split <;> omega

theorem walk_three {n : Nat} (hlow : 0x800 ≤ n) (hhigh : n < 0x10000)
    (hpair : n < 0xd800 ∨ 0xe000 ≤ n) (done : List (Option CodePoint)) (bs : List UInt8) :
    walk none done (UInt8.ofNat (0xe0 + n / 0x1000) :: continuation (n / 0x40) ::
        continuation n :: bs) =
      walk none (some (CodePoint.ofNat n) :: done) bs := by
  obtain ⟨low, high, hlead, hfrom, hto⟩ := start_three hlow hhigh hpair
  rw [← toNat_ofNat_of_lt (show 0xe0 + n / 0x1000 < 0x100 by omega)] at hlead
  have hbits : (n / 0x1000 * 0x40 + n / 0x40 % 0x40) * 0x40 + n % 0x40 = n := by omega
  rw [walk_lead hlead, walk_middle hfrom hto (by simp),
    walk_last (by dsimp only; omega) (by dsimp only; omega) (by simp)]
  dsimp only
  rw [hbits]

/-- The byte behind the start is expected, because the last code point is not passed. -/
theorem start_four {n : Nat} (hlow : 0x10000 ≤ n) (hhigh : n < 0x110000) :
    ∃ low high, start (0xf0 + n / 0x40000) = .lead ⟨3, n / 0x40000, low, high⟩ ∧
      low ≤ 0x80 + n / 0x1000 % 0x40 ∧ 0x80 + n / 0x1000 % 0x40 ≤ high := by
  refine ⟨if 0xf0 + n / 0x40000 = 0xf0 then 0x90 else 0x80,
    if 0xf0 + n / 0x40000 = 0xf4 then 0x8f else 0xbf, ?_, ?_, ?_⟩
  · have hbits : 0xf0 + n / 0x40000 - 0xf0 = n / 0x40000 := by omega
    unfold start
    rw [if_neg (by omega), if_neg (by omega), if_neg (by omega), if_neg (by omega),
      if_pos (by omega), hbits]
  · split <;> omega
  · split <;> omega

theorem walk_four {n : Nat} (hlow : 0x10000 ≤ n) (hhigh : n < 0x110000)
    (done : List (Option CodePoint)) (bs : List UInt8) :
    walk none done (UInt8.ofNat (0xf0 + n / 0x40000) :: continuation (n / 0x1000) ::
        continuation (n / 0x40) :: continuation n :: bs) =
      walk none (some (CodePoint.ofNat n) :: done) bs := by
  obtain ⟨low, high, hlead, hfrom, hto⟩ := start_four hlow hhigh
  rw [← toNat_ofNat_of_lt (show 0xf0 + n / 0x40000 < 0x100 by omega)] at hlead
  have hbits : ((n / 0x40000 * 0x40 + n / 0x1000 % 0x40) * 0x40 + n / 0x40 % 0x40) * 0x40 +
      n % 0x40 = n := by omega
  rw [walk_lead hlead, walk_middle hfrom hto (by simp),
    walk_middle (by dsimp only; omega) (by dsimp only; omega) (by simp),
    walk_last (by dsimp only; omega) (by dsimp only; omega) (by simp)]
  dsimp only
  rw [hbits]

/-! ## Characters -/

/-- A code point that is no surrogate has a number outside their range. -/
theorem toNat_outside_of_not_surrogate {c : CodePoint} (h : c.isSurrogate = false) :
    c.toNat < 0xd800 ∨ 0xe000 ≤ c.toNat := by
  cases c with
  | char c =>
      have hvalid := CodePoint.isValidChar_toNat c
      simp only [Nat.isValidChar] at hvalid
      simp only [CodePoint.toNat]
      omega
  | surrogate half => simp [CodePoint.isSurrogate] at h

/-- The bits that were cut into the bytes of a character come together again. -/
theorem walk_encodeChar {c : CodePoint} (h : c.isSurrogate = false)
    (done : List (Option CodePoint)) (bs : List UInt8) :
    walk none done (encodeChar c ++ bs) = walk none (some c :: done) bs := by
  have houtside := toNat_outside_of_not_surrogate h
  have hlimit : c.toNat < 0x110000 := c.toNat_lt
  have hself := CodePoint.ofNat_toNat c
  unfold encodeChar
  dsimp only
  by_cases hone : c.toNat < 0x80
  · have hread := walk_one hone done bs
    rw [hself] at hread
    rw [if_pos hone]
    exact hread
  rw [if_neg hone]
  by_cases htwo : c.toNat < 0x800
  · have hread := walk_two (by omega) htwo done bs
    rw [hself] at hread
    rw [if_pos htwo]
    exact hread
  rw [if_neg htwo]
  by_cases hthree : c.toNat < 0x10000
  · have hread := walk_three (by omega) hthree houtside done bs
    rw [hself] at hread
    rw [if_pos hthree]
    exact hread
  · have hread := walk_four (by omega) hlimit done bs
    rw [hself] at hread
    rw [if_neg hthree]
    exact hread

/-! ## Texts -/

theorem walk_encode {cs : List CodePoint} (h : isWritable cs = true)
    (done : List (Option CodePoint)) :
    walk none done (encode cs) = done.reverse ++ cs.map some := by
  induction cs generalizing done with
  | nil => simp [encode, walk]
  | cons c cs ih =>
      have hparts : c.isSurrogate = false ∧ isWritable cs = true := by
        simpa [isWritable] using h
      obtain ⟨hc, hcs⟩ := hparts
      have hcons : encode (c :: cs) = encodeChar c ++ encode cs := List.flatMap_cons
      rw [hcons, walk_encodeChar hc, ih hcs]
      simp

theorem mapM_id_map_some (cs : List CodePoint) : (cs.map some).mapM id = some cs := by
  induction cs with
  | nil => rfl
  | cons c cs ih =>
      rw [List.map_cons, List.mapM_cons, ih]
      rfl

/-- What can be written as bytes reads back from them. -/
theorem decode_encode {cs : List CodePoint} (h : isWritable cs = true) :
    decode (encode cs) = some cs := by
  rw [decode, walk_encode h, List.reverse_nil, List.nil_append, mapM_id_map_some]

/-- Where nothing is malformed, nothing is replaced. -/
theorem decodeLossy_encode {cs : List CodePoint} (h : isWritable cs = true) :
    decodeLossy (encode cs) = cs := by
  rw [decodeLossy, walk_encode h, List.reverse_nil, List.nil_append, List.map_map]
  exact List.map_id cs

/-! ## Bytes of texts -/

theorem mem_begin {b : Nat} {done : List (Option CodePoint)} {x : Option CodePoint}
    (h : x ∈ done) : x ∈ (begin b done).2 := by
  unfold begin
  split
  · exact .tail _ h
  · exact h
  · exact .tail _ h

theorem mem_step {b : Nat} {state : Option Expected} {done : List (Option CodePoint)}
    {x : Option CodePoint} (h : x ∈ done) : x ∈ (step b state done).2 := by
  unfold step
  split
  · exact mem_begin h
  · split
    · dsimp only
      split
      · exact .tail _ h
      · exact h
    · exact mem_begin (.tail _ h)

/-- What was read stays read. -/
theorem mem_walk {state : Option Expected} {done : List (Option CodePoint)} {bs : List UInt8}
    {x : Option CodePoint} (h : x ∈ done) : x ∈ walk state done bs := by
  induction bs generalizing state done with
  | nil =>
      cases state with
      | none => exact List.mem_reverse.2 h
      | some e => exact List.mem_reverse.2 (.tail _ h)
  | cons b bs ih => exact ih (mem_step h)

/-- A byte is expected and comes, because otherwise a piece would be malformed. -/
theorem exists_expected {e : Expected} {done : List (Option CodePoint)} {bs : List UInt8}
    (h : none ∉ walk (some e) done bs) :
    ∃ b rest, bs = b :: rest ∧ e.low ≤ b.toNat ∧ b.toNat ≤ e.high ∧
      (1 < e.missing →
        none ∉ walk (some ⟨e.missing - 1, e.bits * 0x40 + b.toNat % 0x40, 0x80, 0xbf⟩) done
          rest) := by
  cases bs with
  | nil => exact absurd (List.mem_reverse.2 (.head _)) h
  | cons b rest =>
      have hin : e.low ≤ b.toNat ∧ b.toNat ≤ e.high := by
        refine Decidable.byContradiction fun hout => h ?_
        have hmalformed : walk (some e) done (b :: rest) =
            walk (begin b.toNat (none :: done)).1 (begin b.toNat (none :: done)).2 rest := by
          simp only [walk, step, if_neg hout]
        rw [hmalformed]
        exact mem_walk (mem_begin (.head _))
      refine ⟨b, rest, rfl, hin.1, hin.2, fun hmore => ?_⟩
      have hnext : walk (some e) done (b :: rest) =
          walk (some ⟨e.missing - 1, e.bits * 0x40 + b.toNat % 0x40, 0x80, 0xbf⟩) done rest := by
        simp only [walk, step, if_pos hin, if_neg (Nat.not_le.2 hmore)]
      rwa [hnext] at h

theorem ofNat_eq {b : UInt8} {n : Nat} (h : n = b.toNat) : UInt8.ofNat n = b := by
  rw [h, UInt8.ofNat_toNat]

/-- A byte that can continue a character. -/
abbrev IsContinuation (b : UInt8) : Prop := 0x80 ≤ b.toNat ∧ b.toNat ≤ 0xbf

theorem IsContinuation.eq {b : UInt8} {n : Nat} (hb : IsContinuation b)
    (h : n % 0x40 = b.toNat % 0x40) : continuation n = b := by
  exact ofNat_eq (by omega)

theorem isSurrogate_ofNat {n : Nat} (h : n < 0xd800 ∨ 0xe000 ≤ n) :
    (CodePoint.ofNat n).isSurrogate = false := by
  unfold CodePoint.ofNat
  rw [dif_neg (by simp only [CodePoint.firstSurrogate]; omega)]
  rfl

/-- The bytes begin with those of a character. -/
def BeginsWhole (bs : List UInt8) : Prop :=
  ∃ c rest, c.isSurrogate = false ∧ bs = encodeChar c ++ rest

theorem BeginsWhole.of_number (n : Nat) {bs : List UInt8} (rest : List UInt8)
    (hpair : n < 0xd800 ∨ 0xe000 ≤ n) (h : bs = encodeChar (CodePoint.ofNat n) ++ rest) :
    BeginsWhole bs :=
  ⟨CodePoint.ofNat n, rest, isSurrogate_ofNat hpair, h⟩

theorem encodeChar_ofNat {n : Nat} (h : n < 0x110000) : encodeChar (CodePoint.ofNat n) =
    if n < 0x80 then [UInt8.ofNat n]
    else if n < 0x800 then [UInt8.ofNat (0xc0 + n / 0x40), continuation n]
    else if n < 0x10000 then
      [UInt8.ofNat (0xe0 + n / 0x1000), continuation (n / 0x40), continuation n]
    else
      [UInt8.ofNat (0xf0 + n / 0x40000), continuation (n / 0x1000), continuation (n / 0x40),
        continuation n] := by
  rw [encodeChar, CodePoint.toNat_ofNat h]

variable {b c d e : UInt8} {rest : List UInt8}

theorem beginsWhole_one (h : b.toNat < 0x80) : BeginsWhole (b :: rest) := by
  refine .of_number b.toNat rest (by omega) ?_
  rw [encodeChar_ofNat (by omega), if_pos h, ofNat_eq rfl]
  rfl

theorem beginsWhole_two (hb : 0xc2 ≤ b.toNat ∧ b.toNat < 0xe0)
    (hc : IsContinuation c) : BeginsWhole (b :: c :: rest) := by
  refine .of_number ((b.toNat - 0xc0) * 0x40 + c.toNat % 0x40) rest (by omega) ?_
  rw [encodeChar_ofNat (by omega), if_neg (by omega), if_pos (by omega),
    ofNat_eq (b := b) (by omega), hc.eq (by omega)]
  rfl

theorem beginsWhole_three (hb : 0xe0 ≤ b.toNat ∧ b.toNat < 0xf0)
    (hc : (if b.toNat = 0xe0 then 0xa0 else 0x80) ≤ c.toNat ∧
      c.toNat ≤ if b.toNat = 0xed then 0x9f else 0xbf)
    (hd : IsContinuation d) : BeginsWhole (b :: c :: d :: rest) := by
  have hrange : IsContinuation c := by
    split at hc <;> split at hc <;> omega
  refine .of_number (((b.toNat - 0xe0) * 0x40 + c.toNat % 0x40) * 0x40 + d.toNat % 0x40) rest
    ?_ ?_
  · split at hc <;> split at hc <;> omega
  · have hlong : 0x800 ≤ ((b.toNat - 0xe0) * 0x40 + c.toNat % 0x40) * 0x40 + d.toNat % 0x40 := by
      split at hc <;> omega
    rw [encodeChar_ofNat (by omega), if_neg (by omega), if_neg (by omega), if_pos (by omega),
      ofNat_eq (b := b) (by omega), hrange.eq (by omega),
      hd.eq (by omega)]
    rfl

theorem beginsWhole_four (hb : 0xf0 ≤ b.toNat ∧ b.toNat < 0xf5)
    (hc : (if b.toNat = 0xf0 then 0x90 else 0x80) ≤ c.toNat ∧
      c.toNat ≤ if b.toNat = 0xf4 then 0x8f else 0xbf)
    (hd : IsContinuation d) (he : IsContinuation e) :
    BeginsWhole (b :: c :: d :: e :: rest) := by
  have hrange : IsContinuation c := by
    split at hc <;> split at hc <;> omega
  have hlong : 0x10000 ≤ (((b.toNat - 0xf0) * 0x40 + c.toNat % 0x40) * 0x40 + d.toNat % 0x40) *
      0x40 + e.toNat % 0x40 := by
    split at hc <;> omega
  have hlimit : (((b.toNat - 0xf0) * 0x40 + c.toNat % 0x40) * 0x40 + d.toNat % 0x40) *
      0x40 + e.toNat % 0x40 < 0x110000 := by
    split at hc <;> split at hc <;> omega
  refine .of_number _ rest (.inr (Nat.le_trans (by decide) hlong)) ?_
  rw [encodeChar_ofNat hlimit, if_neg (by omega), if_neg (by omega), if_neg (by omega),
    ofNat_eq (b := b) (by omega), hrange.eq (by omega),
    hd.eq (by omega), he.eq (by omega)]
  rfl

/-- The bytes of a walk in which nothing is malformed begin with those of a character. -/
theorem beginsWhole_of_walk {done : List (Option CodePoint)} {bs : List UInt8}
    (h : none ∉ walk none done (b :: bs)) : BeginsWhole (b :: bs) := by
  have hmalformed : start b.toNat ≠ .malformed := by
    intro hstart
    refine h ?_
    have hwalk : walk none done (b :: bs) = walk none (none :: done) bs := by
      simp only [walk, step, begin, hstart]
    rw [hwalk]
    exact mem_walk (.head _)
  by_cases hone : b.toNat < 0x80
  · exact beginsWhole_one hone
  by_cases hlow : b.toNat < 0xc2
  · exact absurd (by rw [start, if_neg hone, if_pos hlow]) hmalformed
  by_cases htwo : b.toNat < 0xe0
  · have hlead : start b.toNat = .lead ⟨1, b.toNat - 0xc0, 0x80, 0xbf⟩ := by
      rw [start, if_neg hone, if_neg hlow, if_pos htwo]
    rw [walk_lead hlead] at h
    obtain ⟨c, rest, rfl, hfrom, hto, -⟩ := exists_expected h
    exact beginsWhole_two ⟨by omega, htwo⟩ ⟨hfrom, hto⟩
  by_cases hthree : b.toNat < 0xf0
  · have hlead : start b.toNat = .lead ⟨2, b.toNat - 0xe0,
        if b.toNat = 0xe0 then 0xa0 else 0x80, if b.toNat = 0xed then 0x9f else 0xbf⟩ := by
      rw [start, if_neg hone, if_neg hlow, if_neg htwo, if_pos hthree]
    rw [walk_lead hlead] at h
    obtain ⟨c, bs, rfl, hfrom, hto, hnext⟩ := exists_expected h
    obtain ⟨d, rest, rfl, hfrom', hto', -⟩ := exists_expected (hnext (by simp))
    exact beginsWhole_three ⟨by omega, hthree⟩ ⟨hfrom, hto⟩ ⟨hfrom', hto'⟩
  by_cases hfour : b.toNat < 0xf5
  · have hlead : start b.toNat = .lead ⟨3, b.toNat - 0xf0,
        if b.toNat = 0xf0 then 0x90 else 0x80, if b.toNat = 0xf4 then 0x8f else 0xbf⟩ := by
      rw [start, if_neg hone, if_neg hlow, if_neg htwo, if_neg hthree, if_pos hfour]
    rw [walk_lead hlead] at h
    obtain ⟨c, bs, rfl, hfrom, hto, hnext⟩ := exists_expected h
    obtain ⟨d, bs, rfl, hfrom', hto', hlast⟩ := exists_expected (hnext (by simp))
    obtain ⟨e, rest, rfl, hfrom'', hto'', -⟩ := exists_expected (hlast (by simp))
    exact beginsWhole_four ⟨by omega, hfour⟩ ⟨hfrom, hto⟩ ⟨hfrom', hto'⟩ ⟨hfrom'', hto''⟩
  · refine absurd ?_ hmalformed
    rw [start, if_neg hone, if_neg hlow, if_neg htwo, if_neg hthree, if_neg hfour]

theorem encodeChar_ne_nil (c : CodePoint) : encodeChar c ≠ [] := by
  unfold encodeChar
  dsimp only
  repeat' split
  all_goals simp

/-- Bytes in which nothing is malformed are those of a text. -/
theorem exists_encode_of_walk (bs : List UInt8) {done : List (Option CodePoint)}
    (h : none ∉ walk none done bs) : ∃ cs, isWritable cs = true ∧ encode cs = bs := by
  cases bs with
  | nil => exact ⟨[], rfl, rfl⟩
  | cons b bs =>
      obtain ⟨c, rest, hc, hbytes⟩ := beginsWhole_of_walk h
      have hshorter : rest.length < (b :: bs).length := by
        have hpos := List.length_pos_iff.2 (encodeChar_ne_nil c)
        rw [hbytes, List.length_append]
        omega
      rw [hbytes, walk_encodeChar hc] at h
      obtain ⟨cs, hcs, hrest⟩ := exists_encode_of_walk rest h
      refine ⟨c :: cs, ?_, ?_⟩
      · simpa [isWritable, hc] using hcs
      · rw [hbytes, ← hrest, encode, encode, List.flatMap_cons]
termination_by bs.length

theorem none_not_mem_of_mapM_id {xs : List (Option CodePoint)} {cs : List CodePoint}
    (h : xs.mapM id = some cs) : none ∉ xs := by
  induction xs generalizing cs with
  | nil => simp
  | cons x xs ih =>
      rw [List.mapM_cons] at h
      cases x with
      | none => cases h
      | some c =>
          cases hrest : xs.mapM id with
          | none =>
              rw [hrest] at h
              cases h
          | some ds =>
              rintro (_ | ⟨_, hmem⟩)
              exact ih hrest hmem

/-- Bytes are read as the one text whose bytes they are. -/
theorem decode_eq_some_iff {bs : List UInt8} {cs : List CodePoint} :
    decode bs = some cs ↔ isWritable cs = true ∧ encode cs = bs := by
  constructor
  · intro h
    obtain ⟨ds, hds, rfl⟩ := exists_encode_of_walk bs (none_not_mem_of_mapM_id h)
    rw [decode_encode hds] at h
    obtain rfl := Option.some.inj h
    exact ⟨hds, rfl⟩
  · rintro ⟨hcs, rfl⟩
    exact decode_encode hcs

end ModuleKeeper.Text.Utf8
