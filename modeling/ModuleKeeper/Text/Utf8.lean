import ModuleKeeper.Text

/-!
# UTF-8

Texts as bytes and back. The decoder walks the bytes once and keeps what it
still expects of the current character. A byte that cannot continue the
current character ends it as malformed and is then looked at afresh, so that
each maximal malformed piece counts once.

## Main results

* `decode`, `decodeLossy`: the strict and the forgiving reading of one walk.
-/

namespace ModuleKeeper.Text.Utf8

/-! ## Writing -/

/-- A continuation byte with the six lowest bits of `n`. -/
def continuation (n : Nat) : UInt8 := UInt8.ofNat (0x80 + n % 0x40)

/-- The bytes of one character. -/
def encodeChar (c : CodePoint) : List UInt8 :=
  let n := c.toNat
  if n < 0x80 then [UInt8.ofNat n]
  else if n < 0x800 then [UInt8.ofNat (0xc0 + n / 0x40), continuation n]
  else if n < 0x10000 then
    [UInt8.ofNat (0xe0 + n / 0x1000), continuation (n / 0x40), continuation n]
  else
    [UInt8.ofNat (0xf0 + n / 0x40000), continuation (n / 0x1000), continuation (n / 0x40),
      continuation n]

/-- The bytes of a text. -/
def encode (cs : List CodePoint) : List UInt8 := cs.flatMap encodeChar

/-! ## Reading -/

/-- What a started character still expects: how many bytes, and the range of the next one. -/
structure Expected where
  /-- The number of bytes that are still missing. -/
  missing : Nat
  /-- The bits read so far. -/
  bits : Nat
  /-- The least value of the next byte. -/
  low : Nat
  /-- The greatest value of the next byte. -/
  high : Nat

/-- What one byte does at the start of a character. -/
inductive Start where
  | single (c : CodePoint)
  | lead (expected : Expected)
  | malformed

/--
A byte at the start of a character. The ranges of the second byte exclude
overlong forms, surrogates and code points past the last one.
-/
def start (b : Nat) : Start :=
  if b < 0x80 then .single (CodePoint.ofNat b)
  else if b < 0xc2 then .malformed
  else if b < 0xe0 then .lead ⟨1, b - 0xc0, 0x80, 0xbf⟩
  else if b < 0xf0 then
    .lead ⟨2, b - 0xe0, if b = 0xe0 then 0xa0 else 0x80, if b = 0xed then 0x9f else 0xbf⟩
  else if b < 0xf5 then
    .lead ⟨3, b - 0xf0, if b = 0xf0 then 0x90 else 0x80, if b = 0xf4 then 0x8f else 0xbf⟩
  else .malformed

/-- The state after a byte at the start of a character, with what was read before. -/
def begin (b : Nat) (done : List (Option CodePoint)) : Option Expected × List (Option CodePoint) :=
  match start b with
  | .single c => (none, some c :: done)
  | .lead e => (some e, done)
  | .malformed => (none, none :: done)

/-- One byte of the walk. -/
def step (b : Nat) (state : Option Expected) (done : List (Option CodePoint)) :
    Option Expected × List (Option CodePoint) :=
  match state with
  | none => begin b done
  | some e =>
    if e.low ≤ b ∧ b ≤ e.high then
      let bits := e.bits * 0x40 + b % 0x40
      if e.missing ≤ 1 then (none, some (CodePoint.ofNat bits) :: done)
      else (some ⟨e.missing - 1, bits, 0x80, 0xbf⟩, done)
    else begin b (none :: done)

/-- The characters of a walk, with `none` for each malformed piece. -/
def walk (state : Option Expected) (done : List (Option CodePoint)) :
    List UInt8 → List (Option CodePoint)
  | [] =>
    match state with
    | none => done.reverse
    | some _ => (none :: done).reverse
  | b :: bs =>
    let (state, done) := step b.toNat state done
    walk state done bs

/-- The text that the bytes spell, if all of them are well formed. -/
def decode (bs : List UInt8) : Option (List CodePoint) := (walk none [] bs).mapM id

/-- What stands for a malformed piece. -/
def replacement : CodePoint := CodePoint.ofNat 0xfffd

/-- The text that the bytes spell, with malformed pieces replaced. -/
def decodeLossy (bs : List UInt8) : List CodePoint := (walk none [] bs).map (·.getD replacement)

end ModuleKeeper.Text.Utf8
