import ModuleKeeper.Fault

/-!
# Numbers in log lines

The number that a value counts as where a log line asks for one: a whole
number, a number whose fraction is cut off, or a number with a fraction.
Values of other kinds are refused.

## Main results

* `cut_of_exact`: a whole number has nothing to cut off.
-/

namespace ModuleKeeper.Log.Number

/-- The whole number that a value is; truth counts as one and falsehood as zero. -/
def exact : Value → Except Mishap Int
  | .bool b => .ok (if b then 1 else 0)
  | .int n => .ok n
  | _ => .error .wrongType

/-- The whole number that a number is without its fraction. -/
def cut : Value → Except Mishap Int
  | .float (.infinite _) => .error .overflow
  | .float x =>
    match x.truncate? with
    | some n => .ok n
    | none => .error .badValue
  | v => exact v

theorem cut_of_exact {v : Value} {n : Int} (h : exact v = .ok n) : cut v = .ok n := by
  cases v <;> first | exact h | cases h

/-- A number, unless it is infinite. -/
def bounded (x : Double) : Except Mishap Double :=
  match x with
  | .infinite _ => .error .overflow
  | x => .ok x

/-- The number with a fraction that a value counts as. -/
def real : Value → Except Mishap Double
  | .float x => .ok x
  | v => do bounded (Double.ofInt (← exact v))

/-- The thousandth part of a number. -/
def thousandth : Value → Except Mishap Double
  | .float x => .ok (x.divided 1000)
  | v => do
    let n ← exact v
    bounded (Double.ofRatio (n < 0) n.natAbs 1000)

end ModuleKeeper.Log.Number
