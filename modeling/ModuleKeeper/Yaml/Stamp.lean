import ModuleKeeper.Value

/-!
# Points in time

The form in which a document writes a day or a moment, and what it means. A
moment may leave out its fraction and its distance from universal time.
-/

namespace ModuleKeeper.Yaml

/-- A time of day as it is written. -/
structure ClockStamp where
  hour : Nat
  minute : Nat
  second : Nat
  microsecond : Nat
  /-- The distance from universal time in seconds. -/
  offset : Option Int

/-- A point in time as it is written. -/
structure Stamp where
  date : Date
  /-- Whether month and day have two digits each. -/
  padded : Bool
  clock : Option ClockStamp

namespace Stamp

/-- A number of at least `least` and at most `most` digits at the start of a text. -/
def number? (least most : Nat) (cs : List CodePoint) : Option (Nat × Nat × List CodePoint) :=
  let digits := (cs.take most).takeWhile CodePoint.isDigit
  if digits.length < least then none
  else
    some (digits.foldl (fun n d => n * 10 + (d.toNat - '0'.toNat)) 0, digits.length,
      cs.drop digits.length)

/-- The text behind a character that has to stand at its start. -/
def behind? (c : CodePoint) : List CodePoint → Option (List CodePoint)
  | d :: cs => if c = d then some cs else none
  | [] => none

/-- Whether a character is a space or a tab. -/
def isGap (c : CodePoint) : Bool := c = ' ' || c = '\t'

/-- The microseconds of a fraction; what is finer is cut off. -/
def microseconds (digits : List CodePoint) : Nat :=
  (Text.padRight '0' 6 (digits.take 6)).foldl (fun n d => n * 10 + (d.toNat - '0'.toNat)) 0

/-- The distance from universal time at the end of a text. -/
def offset? (cs : List CodePoint) : Option (Option Int) :=
  match cs.dropWhile isGap with
  | [] => if cs.isEmpty then some none else none
  | ['Z'] => some (some 0)
  | s :: rest =>
    if s = '+' ∨ s = '-' then do
      let (hours, _, rest) ← number? 1 2 rest
      let minutes ←
        match rest with
        | [] => some 0
        | _ => do
          let (minutes, _, rest) ← number? 2 2 (← behind? ':' rest)
          if rest.isEmpty then some minutes else none
      let seconds : Int := ((hours * 60 + minutes) * 60 : Nat)
      return some (if s = '-' then -seconds else seconds)
    else none

/-- The time of day at the end of a text. -/
def clock? (cs : List CodePoint) : Option ClockStamp := do
  let (hour, _, cs) ← number? 1 2 cs
  let (minute, _, cs) ← number? 2 2 (← behind? ':' cs)
  let (second, _, cs) ← number? 2 2 (← behind? ':' cs)
  let (fraction, cs) :=
    match cs with
    | '.' :: cs => (cs.takeWhile CodePoint.isDigit, cs.dropWhile CodePoint.isDigit)
    | _ => ([], cs)
  let offset ← offset? cs
  return ⟨hour, minute, second, microseconds fraction, offset⟩

/-- The point in time that a text writes. -/
def ofText? (cs : List CodePoint) : Option Stamp := do
  let (year, _, cs) ← number? 4 4 cs
  let (month, m, cs) ← number? 1 2 (← behind? '-' cs)
  let (day, d, cs) ← number? 1 2 (← behind? '-' cs)
  let date : Date := ⟨year, month, day⟩
  match cs with
  | [] => return ⟨date, m == 2 && d == 2, none⟩
  | c :: rest =>
    if c = 'T' ∨ c = 't' then return ⟨date, m == 2 && d == 2, some (← clock? rest)⟩
    else if isGap c then return ⟨date, m == 2 && d == 2, some (← clock? (rest.dropWhile isGap))⟩
    else none

/-- Whether the form is plain enough to be recognised without a tag. -/
def isPlain (s : Stamp) : Bool := s.clock.isSome || s.padded

/-- The day or the moment, if there is such a one. -/
def value? (s : Stamp) : Option Value :=
  if s.date.isValid then
    match s.clock with
    | none => some (.date s.date)
    | some c =>
      let near := c.offset.all fun o => decide (-86400 < o) && decide (o < 86400)
      if c.hour < 24 ∧ c.minute < 60 ∧ c.second < 60 ∧ near = true then
        some (.moment ⟨s.date, c.hour, c.minute, c.second, c.microsecond, c.offset⟩)
      else none
  else none

end Stamp

end ModuleKeeper.Yaml
