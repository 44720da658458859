import ModuleKeeper.Value

/-!
# The order of the members of a set

A set keeps its members in a table of slots and is shown in the order of the
slots. A number has a place that its value decides, and equal numbers have the
same place. If the slot there is taken, the next ones are tried, and then
others further on. Texts and the like have places that change from one run of
the program to the next; a set that holds any of them keeps the order in which
its members were given.

## Main results

* `two_mul_lt_slotCount`: less than half of the slots are ever taken in a large table.
-/

namespace ModuleKeeper.Value

/-! ## Places -/

/-- The prime number by which places are reduced. -/
def placeModulus : Nat := Nat.pow 2 61 - 1

/-- The number of places. -/
def placeCount : Nat := Nat.pow 2 64

/-- The place of `± n`; negative numbers count from the end, and `-1` is not used. -/
def signedPlace (negative : Bool) (n : Nat) : Nat :=
  if negative && n != 0 then placeCount - max 2 n else n

/-- The place of infinity. -/
def infinitePlace : Nat := 314159

/-- The place of a value, if it has a fixed one. A power of two is reduced by its period. -/
def place? : Value → Option Nat
  | bool b => some (if b then 1 else 0)
  | int n => some (signedPlace (n < 0) (n.natAbs % placeModulus))
  | float (.infinite negative) => some (signedPlace negative infinitePlace)
  | float (.finite negative m e) =>
    some (signedPlace negative (m * Nat.pow 2 (e.emod 61).toNat % placeModulus))
  | _ => none

/-! ## Slots -/

/-- The number of slots for a number of members. -/
def slotCount (members : Nat) : Nat :=
  if members < 5 then 8 else Nat.pow 2 (Nat.log2 (2 * members) + 1)

theorem two_mul_lt_slotCount {n : Nat} (h : 5 ≤ n) : 2 * n < slotCount n := by
  unfold slotCount
  rw [if_neg (by omega)]
  exact Nat.lt_log2_self

/-- The number of slots behind the first one that are tried together with it. -/
def neighbours : Nat := 9

/--
The slot for a member that tries the slot `i` next. The part `rest` of its place decides
where to go on when the neighbours are taken. The first argument bounds the attempts.
-/
def freeSlot (table : Array (Option Value)) : Nat → Nat → Nat → Nat
  | 0, i, _ => i
  | attempts + 1, i, rest =>
    let tried := if i + neighbours < table.size then neighbours + 1 else 1
    match (List.range tried).find? fun j => ((table[i + j]?).join).isNone with
    | some j => i + j
    | none =>
      let rest := rest / 32
      freeSlot table attempts ((i * 5 + 1 + rest) % table.size) rest

/-- Puts a member with its place into the table. -/
def insertAt (table : Array (Option Value)) (member : Value × Nat) : Array (Option Value) :=
  let attempts := table.size + 64
  table.setIfInBounds (freeSlot table attempts (member.2 % table.size) member.2) (some member.1)

/-- The members of a set in the order in which they are shown. -/
def ordered (members : List Value) : List Value :=
  match members.mapM place? with
  | none => members
  | some places =>
    let table := Array.replicate (slotCount members.length) none
    ((members.zip places).foldl insertAt table).toList.filterMap id

end ModuleKeeper.Value
