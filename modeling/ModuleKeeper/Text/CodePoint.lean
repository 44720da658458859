/-!
# Code points

What a text holds at one place. Most code points are characters. The others
are surrogates: halves of pairs that only together stand for a character. An
escape in JSON or in a settings file can give one of them alone. It is then no
character, but it goes through the program like one: it is counted, compared
and shown by its number. Only what is written as bytes cannot hold it.

The classes of this module are those of ASCII; a surrogate is in none of them.

## Main results

* `toNat_ofNat`: a code point keeps the number that it was made from.
* `ofNat_toNat`: the number of a code point says which one it is.
* `toNat_lt`: every number is below `limit`.
-/

namespace ModuleKeeper

/-- A character, or one half of a pair that stands for a character. -/
inductive CodePoint where
  | char (c : Char)
  | surrogate (half : Fin 0x800)
  deriving DecidableEq, Inhabited

namespace CodePoint

instance : Coe Char CodePoint := ⟨char⟩

/-! ## Numbers -/

/-- The number of the first surrogate. -/
def firstSurrogate : Nat := 0xd800

/-- The number behind the last code point. -/
def limit : Nat := 0x110000

/-- The number of a code point. -/
def toNat : CodePoint → Nat
  | char c => c.toNat
  | surrogate half => firstSurrogate + half.val

/-- The code point of a number; a number that is not below `limit` has none, and gives zero. -/
def ofNat (n : Nat) : CodePoint :=
  if h : firstSurrogate ≤ n ∧ n < firstSurrogate + 0x800 then
    surrogate ⟨n - firstSurrogate, by omega⟩
  else char (Char.ofNat n)

theorem charToNat_ofNat {n : Nat} (h : n.isValidChar) : (Char.ofNat n).toNat = n := by
  unfold Char.ofNat
  rw [dif_pos h]
  rfl

theorem isValidChar_toNat (c : Char) : c.toNat.isValidChar := c.valid

theorem toNat_ofNat {n : Nat} (h : n < limit) : (ofNat n).toNat = n := by
  unfold ofNat
  split
  · simp only [toNat]
    omega
  · rename_i hs
    refine charToNat_ofNat ?_
    simp only [limit, firstSurrogate] at h hs
    simp only [Nat.isValidChar]
    omega

theorem ofNat_toNat (c : CodePoint) : ofNat c.toNat = c := by
  cases c with
  | char c =>
    have hc := isValidChar_toNat c
    simp only [Nat.isValidChar] at hc
    unfold ofNat
    rw [dif_neg (by simp only [toNat, firstSurrogate]; omega)]
    exact congrArg char (Char.ofNat_toNat c)
  | surrogate half =>
    unfold ofNat
    rw [dif_pos (by simp only [toNat, firstSurrogate]; omega)]
    simp [toNat]

theorem toNat_lt (c : CodePoint) : c.toNat < limit := by
  cases c with
  | char c =>
    have hc := isValidChar_toNat c
    simp only [Nat.isValidChar] at hc
    simp only [toNat, limit]
    omega
  | surrogate half =>
    simp only [toNat, limit, firstSurrogate]
    omega

instance : LE CodePoint := ⟨fun a b => a.toNat ≤ b.toNat⟩

instance : LT CodePoint := ⟨fun a b => a.toNat < b.toNat⟩

instance (a b : CodePoint) : Decidable (a ≤ b) := inferInstanceAs (Decidable (a.toNat ≤ b.toNat))

instance (a b : CodePoint) : Decidable (a < b) := inferInstanceAs (Decidable (a.toNat < b.toNat))

/-! ## Classes of ASCII -/

/-- Whether a code point is a character with a property. -/
def isCharWith (p : Char → Bool) : CodePoint → Bool
  | char c => p c
  | surrogate _ => false

/-- A code point, with `f` done to it if it is a character. -/
def mapChar (f : Char → Char) : CodePoint → CodePoint
  | char c => char (f c)
  | surrogate half => surrogate half

/-- Whether a code point is a digit of ASCII. -/
def isDigit (c : CodePoint) : Bool := c.isCharWith Char.isDigit

/-- Whether a code point is a letter of ASCII. -/
def isAlpha (c : CodePoint) : Bool := c.isCharWith Char.isAlpha

/-- Whether a code point is a letter or a digit of ASCII. -/
def isAlphanum (c : CodePoint) : Bool := c.isCharWith Char.isAlphanum

/-- Whether a code point is a capital letter of ASCII. -/
def isUpper (c : CodePoint) : Bool := c.isCharWith Char.isUpper

/-- A letter of ASCII in small form; everything else stays as it is. -/
def toLower (c : CodePoint) : CodePoint := c.mapChar Char.toLower

/-- A letter of ASCII in capital form; everything else stays as it is. -/
def toUpper (c : CodePoint) : CodePoint := c.mapChar Char.toUpper

/-! ## Surrogates -/

/-- Whether a code point is a surrogate. -/
def isSurrogate : CodePoint → Bool
  | char _ => false
  | surrogate _ => true

/-- The character that a code point is, if it is one. -/
def char? : CodePoint → Option Char
  | char c => some c
  | surrogate _ => none

theorem isSurrogate_eq_false_iff {c : CodePoint} : c.isSurrogate = false ↔ c.char?.isSome := by
  cases c <;> simp [isSurrogate, char?]

end CodePoint

end ModuleKeeper
