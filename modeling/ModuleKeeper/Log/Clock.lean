import ModuleKeeper.Calendar
import ModuleKeeper.Log.Number

/-!
# Times of log lines

The time of a log line in universal time, in two forms: one for readers, in
which almost any year can be written, and one for programs, which ends with
the year 9999. Not every number of seconds is a time: the clock of the system
counts them in 64 bits, and its calendar has years of 32 bits.

## Main results

* `seconds_bounded`: whole seconds fit into the clock of the system.
* `iso_eq_ok`: the form for programs is that of a moment.
-/

namespace ModuleKeeper.Log

open ModuleKeeper.Text

/-- A time. Both parts should be numbers; where one is asked for, it is refused if it is none. -/
structure Time where
  /-- The seconds after the first of January 1970, with a fraction. -/
  seconds : Value
  /-- The milliseconds that are shown to readers. -/
  milliseconds : Value
  deriving Inhabited

namespace Time

/-- The time after seconds and milliseconds. -/
def ofParts (seconds milliseconds : Value) : Except Mishap Time := do
  let fraction ← Number.thousandth milliseconds
  let whole ← Number.real seconds
  return ⟨.float (whole.add fraction), .float (← Number.real milliseconds)⟩

/-! ## The clock of the system -/

/-- The number of seconds that the clock of the system does not reach. -/
def clockEnd : Int := Nat.pow 2 63

/-- A number of seconds, if the clock of the system can hold it. -/
def bounded (n : Int) : Except Mishap Int :=
  if -clockEnd ≤ n ∧ n < clockEnd then .ok n else .error .overflow

theorem seconds_bounded {n k : Int} (h : bounded n = .ok k) : -clockEnd ≤ k ∧ k < clockEnd := by
  unfold bounded at h
  split at h
  · rename_i hn
    cases h
    exact hn
  · cases h

/-- The whole seconds of a time, before which it is not. -/
def wholeSeconds (t : Time) : Except Mishap Int := do
  let n ← Number.cut t.seconds
  match t.seconds with
  | .float x => bounded (if x.isNegative && x.whole?.isNone then n - 1 else n)
  | _ => bounded n

/-- The microseconds in a second. -/
def million : Int := 1000000

/-- The whole seconds and the microseconds that are nearest to a time. -/
def exactSeconds (t : Time) : Except Mishap (Int × Nat) := do
  let n ← Number.cut t.seconds
  match t.seconds with
  | .float x =>
    let fraction := x.add (Double.ofInt n).negated
    let micro := ((fraction.mul (.ofInt million)).rounded?).getD 0
    let (n, micro) :=
      if million ≤ micro then (n + 1, micro - million)
      else if micro < 0 then (n - 1, micro + million)
      else (n, micro)
    return (← bounded n, micro.toNat)
  | _ => return (← bounded n, 0)

/-! ## The calendar of the system -/

/-- The number of days in four hundred years. -/
def cycle : Int := 146097

/-- The year and the day of a second; the date is one of the first four hundred years. -/
def day (seconds : Int) : Int × Date :=
  let days := seconds.fdiv 86400 + Date.epoch
  let date := Date.ofOrdinal (days.fmod cycle).toNat
  (400 * days.fdiv cycle + (date.year : Int), date)

/-- Whether the calendar of the system has a year: years are counted from 1900 in 32 bits. -/
def hasYear (year : Int) : Bool :=
  let n := year - 1900
  decide (-(Nat.pow 2 31 : Nat) ≤ n) && decide (n < (Nat.pow 2 31 : Nat))

/-- The last year that can be written. -/
def lastYear : Int := Nat.pow 2 31 - 1

/-- A year without zeros in front. -/
def yearText (year : Int) : List CodePoint :=
  if year < 0 then '-' :: decimal year.natAbs else decimal year.natAbs

/-- Whole milliseconds in three digits; a minus sign takes the place of one. -/
def millisecondsText (v : Value) : Except Mishap (List CodePoint) := do
  let n ← Number.cut v
  return if n < 0 then '-' :: decimalPadded 2 n.natAbs else decimalPadded 3 n.natAbs

/-- The time in the form `2024-02-29 12:30:00,250`. -/
def readable (t : Time) : Except Mishap (List CodePoint) := do
  let seconds ← t.wholeSeconds
  let (year, date) := day seconds
  let rest := (seconds.fmod 86400).toNat
  if !hasYear year then .error .outOfTime
  else if lastYear < year then .error .overflow
  else
    let milliseconds ← millisecondsText t.milliseconds
    return yearText year ++ "-" ++ decimalPadded 2 date.month ++ "-" ++
      decimalPadded 2 date.day ++ " " ++ decimalPadded 2 (rest / 3600) ++ ":" ++
      decimalPadded 2 (rest / 60 % 60) ++ ":" ++ decimalPadded 2 (rest % 60) ++ "," ++
      milliseconds

/-- The time in the form `2024-02-29T12:30:00.250000+00:00`. -/
def iso (t : Time) : Except Mishap (List CodePoint) := do
  let (seconds, micro) ← t.exactSeconds
  if hasYear (day seconds).1 then
    match Moment.ofSeconds? seconds micro with
    | some m => return m.iso 'T'
    | none => .error .badValue
  else .error .outOfTime

theorem iso_eq_ok {t : Time} {cs : List CodePoint} (h : t.iso = .ok cs) :
    ∃ m : Moment, cs = m.iso 'T' := by
  unfold iso at h
  cases hs : t.exactSeconds with
  | error e => rw [hs] at h; cases h
  | ok x =>
    rw [hs] at h
    simp only [bind, Except.bind] at h
    split at h
    · split at h
      · rename_i m _
        cases h
        exact ⟨m, rfl⟩
      · cases h
    · cases h

end Time

end ModuleKeeper.Log
