import ModuleKeeper.Text

/-!
# Places in a document

A cursor is the part of a document that was not read yet, with the line and
the column where it starts. Indentation decides the structure of a document,
so every step keeps count of columns. The byte order mark has no width.

A cursor also knows how far the document was looked at. A document that cannot
be read to its end is good as far as it goes, so what matters is whether a
step had to look beyond that.

## Main results

* `rest_span`: taking a run of characters leaves what follows it.
* `reach_le_next`: no step looks at less than the one before.
-/

namespace ModuleKeeper.Yaml

/-- What stops the reading of a document. -/
inductive Trouble where
  /-- The text is no document, or a document of values that are not supported. -/
  | malformed
  /-- A scalar is not of the kind that its tag asks for. -/
  | badValue
  /-- A numbered character is too large to be one. -/
  | overflow
  /-- A number has no characters. -/
  | outOfRange
  /-- A truth value is not one of the known words. -/
  | missingKey
  /-- A point in time does not have the form of one. -/
  | missingAttribute
  /-- The bytes of the document are no text. -/
  | badEncoding
  /-- A mapping is used where only a text can be. -/
  | wrongType
  /-- A mapping stands for one of its own values, and so on without end. -/
  | endless
  deriving DecidableEq, Inhabited

/-- Where reading stops: the trouble, and how far the document was looked at by then. -/
structure Stop where
  trouble : Trouble
  reach : Nat
  deriving DecidableEq, Inhabited

/-- Whether a character ends a line. -/
def isBreak (c : CodePoint) : Bool := c = '\n' || c = '\u0085' || c = '\u2028' || c = '\u2029'

/-- What is seen at the end of a document. No document holds this character. -/
def endMark : CodePoint := '\x00'

/-- Whether a character ends a line or a document. -/
def isBreakOrEnd (c : CodePoint) : Bool := c = endMark || isBreak c

/-- Whether a character is a space or ends a line or a document. -/
def isSpaceOrEnd (c : CodePoint) : Bool := c = ' ' || isBreakOrEnd c

/-- Whether a character is a space or a tab or ends a line or a document. -/
def isBlankOrEnd (c : CodePoint) : Bool := c = '\t' || isSpaceOrEnd c

/-- A place in a document. -/
structure Cursor where
  rest : List CodePoint
  line : Nat
  column : Nat
  index : Nat
  /-- The last index that was looked at. -/
  reach : Nat

namespace Cursor

/-- The start of a document. -/
def start (cs : List CodePoint) : Cursor := ⟨cs, 0, 0, 0, 0⟩

/-- The cursor after a look at the character `n` places further on. -/
def look (c : Cursor) (n : Nat) : Cursor := { c with reach := max c.reach (c.index + n) }

/-- Stops here. -/
def stop {α : Type} (c : Cursor) (t : Trouble) : Except Stop α := .error ⟨t, c.reach⟩

/-- The character `n` places further on. -/
def peekAt (c : Cursor) (n : Nat) : CodePoint := (c.rest.drop n).headD endMark

/-- The next character. -/
def peek (c : Cursor) : CodePoint := c.rest.headD endMark

/-- The place behind the next character. -/
def next (c : Cursor) : Cursor :=
  match c.rest with
  | [] => c
  | ch :: cs =>
    let reach := max c.reach (c.index + 1)
    if isBreak ch then ⟨cs, c.line + 1, 0, c.index + 1, reach⟩
    else if ch = '\ufeff' then ⟨cs, c.line, c.column, c.index + 1, reach⟩
    else ⟨cs, c.line, c.column + 1, c.index + 1, reach⟩

theorem reach_le_next (c : Cursor) : c.reach ≤ c.next.reach := by
  unfold next
  split
  · exact Nat.le_refl _
  · dsimp only
    repeat' split
    all_goals exact Nat.le_max_left _ _

/-- The place behind the next `n` characters. -/
def skip (c : Cursor) : Nat → Cursor
  | 0 => c
  | n + 1 => c.next.skip n

/-- The run of characters of a class that has no line breaks, and the place behind it. -/
def span (c : Cursor) (p : CodePoint → Bool) : List CodePoint × Cursor :=
  let taken := c.rest.takeWhile p
  (taken, ⟨c.rest.dropWhile p, c.line, c.column + taken.countP (· != .char '\ufeff'),
    c.index + taken.length, max c.reach (c.index + taken.length)⟩)

theorem rest_span (c : Cursor) (p : CodePoint → Bool) :
    (c.span p).1 ++ (c.span p).2.rest = c.rest := List.takeWhile_append_dropWhile

/-- The place behind the next characters of a class. -/
def skipWhile (c : Cursor) (p : CodePoint → Bool) : Cursor := (c.span p).2

/-- The place behind spaces. -/
def skipSpaces (c : Cursor) : Cursor := c.skipWhile (· = .char ' ')

/-- The place behind a comment, if one starts here. -/
def skipComment (c : Cursor) : Cursor :=
  if c.peek = '#' then c.skipWhile (! isBreak ·) else c

/-- The line break at this place, in the form in which it counts, and the place behind it. -/
def lineBreak? (c : Cursor) : Option (CodePoint × Cursor) :=
  let ch := c.peek
  if ch = '\n' ∨ ch = '\u0085' then some ('\n', c.next)
  else if isBreak ch then some (ch, c.next)
  else none

/-- Whether three equal marks stand at this place. -/
def atThree (c : Cursor) (mark : CodePoint) : Bool :=
  c.peekAt 0 = mark && c.peekAt 1 = mark && c.peekAt 2 = mark

/-- Whether three equal marks that separate documents stand at this place. -/
def atMarks (c : Cursor) (mark : CodePoint) : Bool := c.atThree mark && isBlankOrEnd (c.peekAt 3)

/-- Whether a separator of documents stands at this place. -/
def atSeparator (c : Cursor) : Bool := c.atMarks '-' || c.atMarks '.'

/-- The cursor after a look for a separator of documents. -/
def lookForSeparator (c : Cursor) : Cursor :=
  if c.atThree '-' || c.atThree '.' then c.look 3 else c.look 2

end Cursor

/-- A step of reading: a result with the place behind it, or a stop. -/
abbrev Scan (α : Type) := Except Stop (α × Cursor)

end ModuleKeeper.Yaml
