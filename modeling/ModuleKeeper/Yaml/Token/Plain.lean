import ModuleKeeper.Yaml.Cursor

/-!
# Plain scalars

A scalar without quotes ends before a colon with a blank behind it, before a
comment, and where the indentation falls back; between brackets also before
the marks that brackets need. Its lines fold as in quotes, but tabs end it.
-/

namespace ModuleKeeper.Yaml

/-- Whether a character is a mark between brackets. -/
def isFlowMark (c : CodePoint) : Bool :=
  c = ',' || c = '?' || c = '[' || c = ']' || c = '\x7b' || c = '\x7d'

/-- Whether a colon with `next` behind it ends a scalar. -/
def colonEnds (flow : Bool) (next : CodePoint) : Bool :=
  isBlankOrEnd next || (flow && isFlowMark next && next != '?')

/-- The length of the run of characters that a plain scalar can hold, counted on from `n`. -/
def plainLength (flow : Bool) (n : Nat) : List CodePoint → Nat
  | [] => n
  | c :: cs =>
    if isBlankOrEnd c || (c = ':' && colonEnds flow (cs.headD endMark)) || (flow && isFlowMark c)
    then n
    else plainLength flow (n + 1) cs

/-- The breaks and spaces at a place; the flag says whether a separator of documents was met. -/
def plainBreaks (done : List CodePoint) : Nat → Cursor → Bool × List CodePoint × Cursor
  | 0, c => (true, done.reverse, c)
  | limit + 1, c =>
    if c.peek = ' ' then plainBreaks done limit c.next
    else
      match c.lineBreak? with
      | some (b, c) =>
        let c := c.lookForSeparator
        if c.atSeparator then (true, (b :: done).reverse, c)
        else plainBreaks (b :: done) limit c
      | none => (false, done.reverse, c)

/-- What stands between two runs of a plain scalar. -/
structure Gap where
  /-- What it amounts to; nothing at all ends the scalar. -/
  text : List CodePoint
  /-- Whether it holds a line break. -/
  broken : Bool
  /-- The place behind it. -/
  place : Cursor

/-- The gap at a place. -/
def gapAt (limit : Nat) (c : Cursor) : Gap :=
  let (spaces, c) := c.span (· = .char ' ')
  match c.lineBreak? with
  | none => ⟨spaces, false, c⟩
  | some (first, c) =>
    let c := c.lookForSeparator
    if c.atSeparator then ⟨[], true, c⟩
    else
      match plainBreaks [] limit c with
      | (true, _, c) => ⟨[], true, c⟩
      | (false, more, c) =>
        ⟨if first != '\n' then first :: more else if more.isEmpty then [' '] else more, true, c⟩

/-- A plain scalar: its text, whether a line break stands behind it, and the place behind that. -/
structure PlainScalar where
  text : List CodePoint
  broken : Bool
  place : Cursor

/--
A plain scalar from a place on. `done` holds the text so far, last character first,
`gap` what stands before this place. A line that starts left of `indent` does not belong to it.
-/
def plainFrom (flow : Bool) (indent : Int) (done : List CodePoint) (gap : Gap) : Nat → PlainScalar
  | 0 => ⟨done.reverse, gap.broken, gap.place⟩
  | limit + 1 =>
    let c := gap.place
    let n := if c.peek = '#' then 0 else plainLength flow 0 c.rest
    let c := if c.peekAt n = ':' then c.look (n + 1) else c.look n
    if n = 0 then ⟨done.reverse, gap.broken, c⟩
    else
      let run := c.rest.take n
      let done := run.reverse ++ gap.text.reverse ++ done
      let next := gapAt limit (c.skip n)
      let place := next.place
      if next.text.isEmpty || place.peek = '#' || (!flow && decide ((place.column : Int) < indent))
      then ⟨done.reverse, next.broken, place⟩
      else plainFrom flow indent done next limit

/-- The plain scalar at a place. -/
def plainAt (flow : Bool) (indent : Int) (limit : Nat) (c : Cursor) : PlainScalar :=
  plainFrom flow indent [] ⟨[], false, c⟩ limit

end ModuleKeeper.Yaml
