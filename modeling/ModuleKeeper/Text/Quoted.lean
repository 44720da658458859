import ModuleKeeper.Text.Printable
import ModuleKeeper.Text.Surrogate

/-!
# Quoted texts

The form in which a message shows a text or a string of bytes that it
received: between quotes, on one line, with every character visible. The
quote is the single one, unless the text holds single quotes and no double
ones.

## Main results

* `quote_ne_nil`: a quoted text is never empty.
-/

namespace ModuleKeeper.Text

/-- The mark that goes around a text. -/
def quoteMark (cs : List CodePoint) : CodePoint :=
  if cs.contains '\'' && !cs.contains '"' then '"' else '\''

/-- A character by its number, in the shortest of the three numbered forms. -/
def numbered (n : Nat) : List CodePoint :=
  if n ≤ 0xff then '\\' :: 'x' :: hexadecimal 2 n
  else if n ≤ 0xffff then '\\' :: 'u' :: hexadecimal 4 n
  else '\\' :: 'U' :: hexadecimal 8 n

/-- One character between quotes of the kind `mark`. -/
def quotedChar (mark c : CodePoint) : List CodePoint :=
  if c = mark || c = '\\' then ['\\', c]
  else if c = '\n' then ['\\', 'n']
  else if c = '\r' then ['\\', 'r']
  else if c = '\t' then ['\\', 't']
  else if isPrintable c then [c]
  else numbered c.toNat

/-- The quoted form of a text. -/
def quote (cs : List CodePoint) : List CodePoint :=
  let mark := quoteMark cs
  mark :: (cs.flatMap (quotedChar mark) ++ [mark])

/-- One byte between quotes of the kind `mark`: outside printable ASCII by its number. -/
def quotedByte (mark : CodePoint) (b : UInt8) : List CodePoint :=
  let c := CodePoint.ofNat b.toNat
  if b.toNat < 127 then quotedChar mark c else numbered b.toNat

/-- The quoted form of a string of bytes. -/
def quoteBytes (bs : List UInt8) : List CodePoint :=
  let mark := quoteMark (bs.map fun b => CodePoint.ofNat b.toNat)
  'b' :: mark :: (bs.flatMap (quotedByte mark) ++ [mark])

theorem quote_ne_nil (cs : List CodePoint) : quote cs ≠ [] := by simp [quote]

theorem quoteBytes_ne_nil (bs : List UInt8) : quoteBytes bs ≠ [] := by simp [quoteBytes]

end ModuleKeeper.Text
