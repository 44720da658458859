import ModuleKeeper.Text

/-!
# Texts in columns

Padding of a text to a width, counted in characters. A text that is
already as wide is left alone, never cut.

## Main results

* `length_padLeft`, `length_padRight`: a padded text has the larger of its
  own length and the width.
* `take_padRight`, `drop_padLeft`: the text itself stays readable.
-/

namespace ModuleKeeper.Text

/-- The text moved to the right end of a column of `width` characters. -/
def padLeft (fill : CodePoint) (width : Nat) (cs : List CodePoint) : List CodePoint :=
  List.replicate (width - cs.length) fill ++ cs

/-- The text at the left end of a column of `width` characters. -/
def padRight (fill : CodePoint) (width : Nat) (cs : List CodePoint) : List CodePoint :=
  cs ++ List.replicate (width - cs.length) fill

@[simp] theorem length_padLeft (fill : CodePoint) (width : Nat) (cs : List CodePoint) :
    (padLeft fill width cs).length = max width cs.length := by
  simp only [padLeft, List.length_append, List.length_replicate]; omega

@[simp] theorem length_padRight (fill : CodePoint) (width : Nat) (cs : List CodePoint) :
    (padRight fill width cs).length = max width cs.length := by
  simp only [padRight, List.length_append, List.length_replicate]; omega

theorem take_padRight (fill : CodePoint) (width : Nat) (cs : List CodePoint) :
    (padRight fill width cs).take cs.length = cs := by
  simp [padRight]

theorem drop_padLeft (fill : CodePoint) (width : Nat) (cs : List CodePoint) :
    (padLeft fill width cs).drop (width - cs.length) = cs := by
  simp [padLeft]

/-! ## Numbers in columns -/

/-- A number in decimal digits. -/
def decimal (n : Nat) : List CodePoint := (Nat.toDigits 10 n).map .char

theorem decimal_ne_nil (n : Nat) : decimal n ≠ [] := by
  simp [decimal]

/-- A number in lower case hexadecimal digits, with zeros up to `width`. -/
def hexadecimal (width n : Nat) : List CodePoint :=
  padLeft '0' width ((Nat.toDigits 16 n).map .char)

/-- A number in decimal digits, with zeros up to `width`. -/
def decimalPadded (width n : Nat) : List CodePoint := padLeft '0' width (decimal n)

end ModuleKeeper.Text
