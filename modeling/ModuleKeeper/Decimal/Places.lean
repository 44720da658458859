import ModuleKeeper.Decimal.Shortest

/-!
# Numbers with a given precision

A number with a given count of decimal places, or of leading digits, rounded
once from its exact value: in positional notation, with an exponent, or in
whichever of the two is shorter.

## Main results

* `length_leadingDigits`: as many leading digits are written as were asked for.
-/

namespace ModuleKeeper.Double

open ModuleKeeper.Text

/-- The three notations of a number. -/
inductive Style where
  | positional
  | exponential
  /-- With an exponent only for large and small numbers, and without zeros at the end. -/
  | general
  deriving DecidableEq, Inhabited

/-- `num / den · 10 ^ k`, rounded to a whole number. -/
def shifted (num den : Nat) (k : Int) : Nat :=
  if 0 ≤ k then roundQuotient (num * Nat.pow 10 k.toNat) den
  else roundQuotient num (den * Nat.pow 10 (-k).toNat)

/-- Digits with a point between them. Without digits after it the point is kept only on demand. -/
def pointed (keepPoint : Bool) (whole places : List CodePoint) : List CodePoint :=
  if places.isEmpty && !keepPoint then whole else whole ++ "." ++ places

/--
A number of decimal places, or of leading digits, behind which there are only zeros: the
least exponent is `-1074`, and `2 ^ -n` has `n` decimal places.
-/
def exactPlaces : Nat := 1100

/-- The zeros in the last places of many. -/
def lastZeros (places : Nat) : List CodePoint := List.replicate (places - exactPlaces) (.char '0')

/-- The number with `places` decimal places. -/
def positional (keepPoint : Bool) (places mantissa : Nat) (e : Int) : List CodePoint :=
  let (num, den) := quotient mantissa e
  let exact := min places exactPlaces
  let ds := decimalPadded (exact + 1) (shifted num den exact)
  let front := ds.length - exact
  pointed keepPoint (ds.take front) (ds.drop front) ++ lastZeros places

/-- The first `count` digits as a whole number, and the decimal exponent of the first of them. -/
def leading (count mantissa : Nat) (e : Int) : Nat × Int :=
  if mantissa = 0 then (0, 0)
  else
    let (num, den) := quotient mantissa e
    let k := magnitude num den
    let digits := shifted num den ((count : Int) - k)
    if digits = Nat.pow 10 count then (Nat.pow 10 (count - 1), k) else (digits, k - 1)

/-- The first `count` digits. -/
def leadingDigits (count digits : Nat) : List CodePoint := (decimalPadded count digits).take count

theorem length_leadingDigits (count digits : Nat) :
    (leadingDigits count digits).length = count := by
  simp only [leadingDigits, decimalPadded, List.length_take, length_padLeft]
  omega

/-- The digits `ds` with an exponent, the first of them before the point. -/
def withExponent (keepPoint : Bool) (ds : List CodePoint) (lead : Int) : List CodePoint :=
  pointed keepPoint (ds.take 1) (ds.drop 1) ++ "e" ++ exponentText lead

/-- The number with an exponent and `places` decimal places. -/
def exponential (keepPoint : Bool) (places mantissa : Nat) (e : Int) : List CodePoint :=
  let count := min places exactPlaces + 1
  let (digits, lead) := leading count mantissa e
  withExponent keepPoint (leadingDigits count digits ++ lastZeros places) lead

/-- Digits without the zeros at their end, of which the first digit is none. -/
def trimmedDigits (ds : List CodePoint) : List CodePoint :=
  ds.take 1 ++ ((ds.drop 1).reverse.dropWhile (· == .char '0')).reverse

/-- The number with `count` leading digits; zeros at the end go unless the point is kept. -/
def general (keepPoint : Bool) (count mantissa : Nat) (e : Int) : List CodePoint :=
  let count := max 1 count
  let exact := min count exactPlaces
  let (digits, lead) := leading exact mantissa e
  let all := leadingDigits exact digits
  let ds := if keepPoint then all ++ lastZeros count else trimmedDigits all
  if lead < positionalStart ∨ (count : Int) ≤ lead then withExponent keepPoint ds lead
  else if lead < 0 then
    pointed keepPoint "0" (List.replicate (-lead - 1).toNat (CodePoint.char '0') ++ ds)
  else
    let front := lead.toNat + 1
    pointed keepPoint (padRight '0' front (ds.take front)) (ds.drop front)

/-- The absolute value of a number in a notation, with a precision. -/
def withPrecision (style : Style) (keepPoint : Bool) (precision : Nat) : Double → List CodePoint
  | .nan => "nan"
  | .infinite _ => "inf"
  | .finite _ m e =>
    match style with
    | .positional => positional keepPoint precision m e
    | .exponential => exponential keepPoint precision m e
    | .general => general keepPoint precision m e

end ModuleKeeper.Double
