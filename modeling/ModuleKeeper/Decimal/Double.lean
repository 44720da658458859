/-!
# Double precision numbers

The numbers of the binary64 format as exact values: a sign, a mantissa below
`2 ^ 53` and an exponent, so that every operation is integer arithmetic
followed by one rounding. The runtime's own floating point type is opaque to
proofs and is not used.

## Main results

* `roundQuotient_mul_self`: rounding a whole quotient changes nothing.
-/

namespace ModuleKeeper

/-- A number of the binary64 format. A finite one is `± mantissa · 2 ^ exponent`. -/
inductive Double where
  | nan
  | infinite (negative : Bool)
  | finite (negative : Bool) (mantissa : Nat) (exponent : Int)
  deriving DecidableEq, Inhabited

namespace Double

/-! ## Rounding -/

/-- `num / den` to the nearest whole number, a half to the even one. -/
def roundQuotient (num den : Nat) : Nat :=
  let floor := num / den
  let rest := 2 * (num % den)
  if rest < den then floor
  else if den < rest then floor + 1
  else if floor % 2 = 0 then floor else floor + 1

theorem roundQuotient_mul_self (n : Nat) {den : Nat} (h : 0 < den) :
    roundQuotient (n * den) den = n := by
  simp [roundQuotient, Nat.mul_div_cancel n h, h]

/-- The smallest exponent of a finite number. -/
def leastExponent : Int := -1074

/-- The largest exponent of a finite number. -/
def greatestExponent : Int := 971

/-- `num / den` divided by `2 ^ e`, as a quotient of whole numbers. -/
def scaled (num den : Nat) (e : Int) : Nat × Nat :=
  if 0 ≤ e then (num, den * Nat.pow 2 e.toNat) else (num * Nat.pow 2 (-e).toNat, den)

/-- The exponent at which the mantissa of `num / den` has 53 bits, or the least exponent. -/
def exponentOf (num den : Nat) : Int :=
  let guess : Int := (Nat.log2 num : Int) - (Nat.log2 den : Int) - 52
  let (n, d) := scaled num den guess
  max leastExponent (if n < d * Nat.pow 2 52 then guess - 1 else guess)

/-- The positive zero or the negative one. -/
def zero (negative : Bool) : Double := .finite negative 0 leastExponent

/-- The number nearest to `± num / den`, a tie to the even mantissa. -/
def ofRatio (negative : Bool) (num den : Nat) : Double :=
  if num = 0 then zero negative else
  let e := exponentOf num den
  let (n, d) := scaled num den e
  let mantissa := roundQuotient n d
  let (mantissa, e) := if mantissa = Nat.pow 2 53 then (Nat.pow 2 52, e + 1) else (mantissa, e)
  if greatestExponent < e then .infinite negative else .finite negative mantissa e

/-- The number nearest to a whole number. -/
def ofInt (n : Int) : Double := ofRatio (n < 0) n.natAbs 1

/--
The number nearest to `± digits · 10 ^ exponent`. Exponents that decide the
result alone are not raised to a power.
-/
def ofDecimal (negative : Bool) (digits : Nat) (exponent : Int) : Double :=
  if digits = 0 then zero negative
  else if 400 < exponent then .infinite negative
  else if exponent < -400 - (Nat.log2 digits : Int) then zero negative
  else if 0 ≤ exponent then ofRatio negative (digits * Nat.pow 10 exponent.toNat) 1
  else ofRatio negative digits (Nat.pow 10 (-exponent).toNat)

/-! ## Reading a number -/

/-- The absolute value of a finite number as a quotient. -/
def quotient (mantissa : Nat) (e : Int) : Nat × Nat :=
  if 0 ≤ e then (mantissa * Nat.pow 2 e.toNat, 1) else (mantissa, Nat.pow 2 (-e).toNat)

/-- Whether a number is neither infinite nor a `nan`. -/
def isFinite : Double → Bool
  | .finite _ _ _ => true
  | _ => false

/-- Whether a number is written with a minus sign. -/
def isNegative : Double → Bool
  | .nan => false
  | .infinite negative => negative
  | .finite negative _ _ => negative

/-- Whether a number counts as false: the two zeros do. -/
def isZero : Double → Bool
  | .finite _ m _ => m == 0
  | _ => false

/-- A finite number without its fraction. -/
def truncate? : Double → Option Int
  | .finite negative m e =>
    let (n, d) := quotient m e
    some (if negative then -((n / d : Nat) : Int) else ((n / d : Nat) : Int))
  | _ => none

/-- A finite number rounded to the nearest whole number, a half to the even one. -/
def rounded? : Double → Option Int
  | .finite negative m e =>
    let (n, d) := quotient m e
    let nearest : Int := roundQuotient n d
    some (if negative then -nearest else nearest)
  | _ => none

/-- The whole number that a number is, if it is one. -/
def whole? : Double → Option Int
  | .finite negative m e =>
    let (n, d) := quotient m e
    if n % d = 0 then some (if negative then -((n / d : Nat) : Int) else ((n / d : Nat) : Int))
    else none
  | _ => none

/-- Whether two numbers are equal as numbers: the zeros are, and nothing equals a `nan`. -/
def same : Double → Double → Bool
  | .nan, _ => false
  | _, .nan => false
  | .infinite s, .infinite t => s == t
  | .finite s m e, .finite t n f => (m == 0 && n == 0) || (s == t && m == n && e == f)
  | _, _ => false

/-! ## Arithmetic -/

/-- The number with the other sign. -/
def negated : Double → Double
  | .nan => .nan
  | .infinite s => .infinite (!s)
  | .finite s m e => .finite (!s) m e

/-- The signed numerator of a finite number over `2 ^ 1074`. -/
def numerator (negative : Bool) (m : Nat) (e : Int) : Int :=
  let n : Int := (m * Nat.pow 2 (e - leastExponent).toNat : Nat)
  if negative then -n else n

/-- The sum, rounded once. -/
def add : Double → Double → Double
  | .nan, _ => .nan
  | _, .nan => .nan
  | .infinite s, .infinite t => if s = t then .infinite s else .nan
  | .infinite s, _ => .infinite s
  | _, .infinite t => .infinite t
  | .finite s m e, .finite t n f =>
    let sum := numerator s m e + numerator t n f
    if sum = 0 then zero (s && t) else ofRatio (sum < 0) sum.natAbs (Nat.pow 2 1074)

/-- The product, rounded once. -/
def mul : Double → Double → Double
  | .nan, _ => .nan
  | _, .nan => .nan
  | .infinite s, .infinite t => .infinite (s != t)
  | .infinite s, .finite t n _ => if n = 0 then .nan else .infinite (s != t)
  | .finite s m _, .infinite t => if m = 0 then .nan else .infinite (s != t)
  | .finite s m e, .finite t n f =>
    let (a, b) := quotient m e
    let (c, d) := quotient n f
    ofRatio (s != t) (a * c) (b * d)

/-- The part of a number that comes `n` times in it, rounded once. -/
def divided (n : Nat) : Double → Double
  | .finite s m e =>
    let (a, b) := quotient m e
    ofRatio s a (b * n)
  | x => x

end Double

end ModuleKeeper
