import ModuleKeeper.Decimal.Double
import ModuleKeeper.Text.Column

/-!
# The shortest decimal of a number

The decimal with the fewest digits that reads back as the number, of two
such decimals the nearer one, and its spelling: positional between
`0.0001` and `10 ^ 16`, with an exponent outside.

## Main results

* `literal_ne_nil`: every number has a spelling.
-/

namespace ModuleKeeper.Double

open ModuleKeeper.Text

/-- The power of ten just above `num / den`: the least `k` with `num / den < 10 ^ k`. -/
def magnitude (num den : Nat) : Int :=
  let estimate : Int := ((Nat.log2 num : Int) - (Nat.log2 den : Int)) * 30103 / 100000 - 1
  let below (k : Int) : Bool :=
    if 0 ≤ k then decide (num < den * Nat.pow 10 k.toNat)
    else decide (num * Nat.pow 10 (-k).toNat < den)
  ((List.range 5).map fun (i : Nat) => estimate + (i : Int)).find? below |>.getD (estimate + 5)

/-- Whether `digits · 10 ^ exponent` reads back as the finite number given by its parts. -/
def readsBack (mantissa : Nat) (e : Int) (digits : Nat) (exponent : Int) : Bool :=
  ofDecimal false digits exponent == .finite false mantissa e

/--
The decimal on the grid of step `10 ^ exponent` that reads back, if one of the
two neighbours of the number does. The nearer one is tried first; of two equally
near ones, the even one.
-/
def onGrid? (mantissa : Nat) (e : Int) (exponent : Int) : Option Nat :=
  let (num, den) := quotient mantissa e
  let (n, d) :=
    if 0 ≤ exponent then (num, den * Nat.pow 10 exponent.toNat)
    else (num * Nat.pow 10 (-exponent).toNat, den)
  let near := roundQuotient n d
  let other := if near = n / d then near + 1 else n / d
  if readsBack mantissa e near exponent then some near
  else if readsBack mantissa e other exponent then some other
  else none

/--
The digits and the exponent of the shortest decimal of a finite number other
than zero. Seventeen digits always suffice.
-/
def shortest (mantissa : Nat) (e : Int) : Nat × Int :=
  let (num, den) := quotient mantissa e
  let k := magnitude num den
  let grid (i : Nat) : Option (Nat × Int) :=
    let exponent := k - ((i : Int) + 1)
    (onGrid? mantissa e exponent).map (·, exponent)
  ((List.range 17).findSome? grid).getD (0, 0)

/-! ## Spelling -/

/-- The decimal exponent of the leading digit from which on positional notation ends. -/
def positionalEnd : Int := 16

/-- The least decimal exponent of the leading digit in positional notation. -/
def positionalStart : Int := -4

/-- The digits without zeros at their end. -/
def significant (digits : Nat) : List CodePoint :=
  ((decimal digits).reverse.dropWhile (· == .char '0')).reverse

/-- An exponent: its sign and at least two digits. -/
def exponentText (e : Int) : List CodePoint :=
  (if e < 0 then '-' else '+') :: decimalPadded 2 e.natAbs

/-- The spelling of the digits `ds`, the first of which counts `10 ^ lead`. -/
def spell (ds : List CodePoint) (lead : Int) : List CodePoint :=
  if positionalStart ≤ lead ∧ lead < positionalEnd then
    if lead < 0 then '0' :: '.' :: (List.replicate (-lead - 1).toNat (CodePoint.char '0') ++ ds)
    else
      let front := lead.toNat + 1
      if ds.length ≤ front then padRight '0' front ds ++ ".0"
      else ds.take front ++ "." ++ ds.drop front
  else
    let fraction := if ds.length ≤ 1 then [] else .char '.' :: ds.drop 1
    ds.take 1 ++ fraction ++ "e" ++ exponentText lead

theorem spell_ne_nil (ds : List CodePoint) (lead : Int) : spell ds lead ≠ [] := by
  unfold spell
  split
  · split
    · simp
    · dsimp only
      split <;> simp
  · simp

/-- The spelling of a number. -/
def literal : Double → List CodePoint
  | .nan => "nan"
  | .infinite negative => if negative then "-inf" else "inf"
  | .finite negative m e =>
    let sign := letters (if negative then "-" else "")
    if m = 0 then sign ++ "0.0"
    else
      let (digits, exponent) := shortest m e
      let all := decimal digits
      sign ++ spell (significant digits) (exponent + (all.length : Int) - 1)

theorem literal_ne_nil (x : Double) : x.literal ≠ [] := by
  cases x with
  | nan => simp [literal]
  | infinite s => cases s <;> simp [literal]
  | finite s m e =>
    by_cases h : m = 0
    · simp [literal, h]
    · simp [literal, h, spell_ne_nil]

end ModuleKeeper.Double
