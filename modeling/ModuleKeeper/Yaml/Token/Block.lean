import ModuleKeeper.Yaml.Cursor

/-!
# Block scalars

A scalar of whole lines that are indented alike. Its header says whether the
lines are folded, what becomes of the line breaks at the end, and how far the
lines are indented where that cannot be seen.
-/

namespace ModuleKeeper.Yaml

/-- What becomes of the line breaks at the end. -/
inductive Chomping where
  | strip
  | clip
  | keep
  deriving DecidableEq

/-- The line breaks at the end that remain: of the last line, and of the empty lines after it. -/
def Chomping.remaining (k : Chomping) (last more : List CodePoint) : List CodePoint :=
  match k with
  | .strip => []
  | .clip => last
  | .keep => last ++ more

/-- The header of a block scalar. -/
structure BlockHeader where
  chomping : Chomping
  increment : Option Nat

/-- The chomping that a mark asks for. -/
def chompingMark? (c : CodePoint) : Option Chomping :=
  if c = '+' then some .keep else if c = '-' then some .strip else none

/-- The increment that a digit asks for. -/
def incrementAt (c : Cursor) : Scan (Option Nat) :=
  let ch := c.peek
  if ch.isDigit then
    if ch = '0' then c.stop .malformed else .ok (some (ch.toNat - '0'.toNat), c.next)
  else .ok (none, c)

/-- The marks of a header, in either order. -/
def blockMarks (c : Cursor) : Scan BlockHeader :=
  match chompingMark? c.peek with
  | some k => (incrementAt c.next).map fun (n, c) => (⟨k, n⟩, c)
  | none =>
    match incrementAt c with
    | .error s => .error s
    | .ok (none, c) => .ok (⟨.clip, none⟩, c)
    | .ok (some n, c) =>
      match chompingMark? c.peek with
      | some k => .ok (⟨k, some n⟩, c.next)
      | none => .ok (⟨.clip, some n⟩, c)

/-- The place behind the rest of a line that may hold a comment only. -/
def lineEnd (c : Cursor) : Except Stop Cursor :=
  let c := c.skipSpaces.skipComment
  if isBreakOrEnd c.peek then .ok ((c.lineBreak?.map (·.2)).getD c) else c.stop .malformed

/-- The empty lines at a place, and how far the widest of them or the next line is indented. -/
def blockIndentation (done : List CodePoint) (widest : Nat) :
    Nat → Cursor → List CodePoint × Nat × Cursor
  | 0, c => (done.reverse, widest, c)
  | limit + 1, c =>
    if c.peek = ' ' then
      let c := c.skipSpaces
      blockIndentation done (max widest c.column) limit c
    else
      match c.lineBreak? with
      | some (b, c) => blockIndentation (b :: done) widest limit c
      | none => (done.reverse, widest, c)

/-- The place behind spaces up to a column. -/
def spacesUpTo (column : Nat) : Nat → Cursor → Cursor
  | 0, c => c
  | limit + 1, c =>
    if c.column < column && c.peek = ' ' then spacesUpTo column limit c.next else c

/-- The empty lines at a place, with the spaces up to a column of the line after them. -/
def blockBreaks (column : Nat) (done : List CodePoint) : Nat → Cursor → List CodePoint × Cursor
  | 0, c => (done.reverse, c)
  | limit + 1, c =>
    let c := spacesUpTo column column c
    match c.lineBreak? with
    | some (b, c) => blockBreaks column (b :: done) limit c
    | none => (done.reverse, c)

/-- Whether a character may start a line that is not folded. -/
def isIndented (c : CodePoint) : Bool := c = ' ' || c = '\t'

/--
The lines of a block scalar, indented by `column`. `done` holds the text so far, last
character first, and `more` the empty lines before this place.
-/
def blockLines (isFolded : Bool) (k : Chomping) (column : Nat) (done more : List CodePoint) :
    Nat → Cursor → List CodePoint × Cursor
  | 0, c => (done.reverse, c)
  | limit + 1, c =>
    let flush := !isIndented c.peek
    let (line, c) := c.span (! isBreak ·)
    let done := line.reverse ++ more.reverse ++ done
    let (last, c) :=
      match c.lineBreak? with
      | some (b, c) => ([b], c)
      | none => ([], c)
    let (more, c) := blockBreaks column [] limit c
    if c.column = column && c.peek != endMark then
      let joint :=
        if isFolded && last == Text.letters "\n" && flush && !isIndented c.peek then
          if more.isEmpty then Text.letters " " else []
        else last
      blockLines isFolded k column (joint.reverse ++ done) more limit c
    else ((((k.remaining last more).reverse) ++ done).reverse, c)

/--
The block scalar at a place, which is behind its first mark. `indent` is the column of
the block around it.
-/
def blockAt (isFolded : Bool) (indent : Int) (limit : Nat) (c : Cursor) : Scan (List CodePoint) :=
  match blockMarks c with
  | .error s => .error s
  | .ok (header, c) =>
    if !isSpaceOrEnd c.peek then c.stop .malformed
    else
      match lineEnd c with
      | .error s => .error s
      | .ok c =>
        let least := max 1 (indent + 1).toNat
        let (more, column, c) :=
          match header.increment with
          | none =>
            let (more, widest, c) := blockIndentation [] 0 limit c
            (more, max least widest, c)
          | some n =>
            let column := least + n - 1
            let (more, c) := blockBreaks column [] limit c
            (more, column, c)
        if c.column = column && c.peek != endMark then
          .ok (blockLines isFolded header.chomping column [] more limit c)
        else .ok (header.chomping.remaining [] more, c)

end ModuleKeeper.Yaml
