import ModuleKeeper.Text

/-!
# Bytes in text

Bytes that are written as characters of six bits each, four characters for
three bytes, with equal signs that fill up the last group. Characters that
mean nothing are skipped.
-/

namespace ModuleKeeper.Yaml.Bytes

/-- The six bits of a character. -/
def sixBits? (c : CodePoint) : Option Nat :=
  if 'A' ≤ c ∧ c ≤ 'Z' then some (c.toNat - 'A'.toNat)
  else if 'a' ≤ c ∧ c ≤ 'z' then some (c.toNat - 'a'.toNat + 26)
  else if c.isDigit then some (c.toNat - '0'.toNat + 52)
  else if c = '+' then some 62
  else if c = '/' then some 63
  else none

/--
The bytes of a text. `filled` counts the characters of the present group, `bits` are those
that belong to no byte yet, and `pads` counts the equal signs since the last character.
-/
def decodeFrom (filled bits pads : Nat) (done : List UInt8) : List CodePoint → Option (List UInt8)
  | [] => if filled = 0 then some done.reverse else none
  | c :: cs =>
    if c = '=' then
      if 2 ≤ filled then
        if 4 ≤ filled + pads + 1 then some done.reverse
        else decodeFrom filled bits (pads + 1) done cs
      else decodeFrom filled bits pads done cs
    else
      match sixBits? c with
      | none => decodeFrom filled bits pads done cs
      | some n =>
        if filled = 0 then decodeFrom 1 n 0 done cs
        else if filled = 1 then
          decodeFrom 2 (n % 16) 0 (UInt8.ofNat (bits * 4 + n / 16) :: done) cs
        else if filled = 2 then
          decodeFrom 3 (n % 4) 0 (UInt8.ofNat (bits * 16 + n / 4) :: done) cs
        else decodeFrom 0 0 0 (UInt8.ofNat (bits * 64 + n) :: done) cs

/-- The bytes that a text of ASCII characters stands for, if its last group is whole. -/
def decode? (cs : List CodePoint) : Option (List UInt8) :=
  if cs.all (·.toNat < 128) then decodeFrom 0 0 0 [] cs else none

end ModuleKeeper.Yaml.Bytes
