import ModuleKeeper.Yaml.Token.Mark
import ModuleKeeper.Yaml.Token.Plain
import ModuleKeeper.Yaml.Token.Quoted

/-!
# From text to tokens

The lexer goes through a document once. It turns indentation into tokens that
open and close blocks, and it remembers where a key without a mark may have
started, because only the colon behind it shows that it is one. Such a key
stays on one line and within 1024 characters.

As long as a token may turn out to be such a key it is not handed out, because
the mark of the key belongs before it. So where the lexer stops, the tokens
from the first candidate on are lost. It stops as well where it has to look
behind the end of what could be read.

Each step reads one token at least one character long, so a document has no
more steps than characters.
-/

namespace ModuleKeeper.Yaml

/-- A place where a key without a mark may have started. -/
structure Candidate where
  /-- The number of tokens before it. -/
  place : Nat
  /-- Whether a key has to start there. -/
  required : Bool
  line : Nat
  column : Nat
  index : Nat

/-- The state of the lexer. -/
structure Lexer where
  cursor : Cursor
  /-- The column of the innermost block; `-1` outside of all. -/
  indent : Int
  /-- The columns of the blocks around it, innermost first. -/
  outer : List Int
  /-- The number of open brackets. -/
  flow : Nat
  /-- Whether a key without a mark may start here. -/
  keyAllowed : Bool
  /-- The candidates for keys, by the number of brackets around them. -/
  candidates : List (Nat × Candidate)
  /-- The tokens, last one first. -/
  tokens : List Token
  /-- The number of tokens. -/
  count : Nat

namespace Lexer

/-- The lexer at the start of a document. -/
def start (cs : List CodePoint) : Lexer := ⟨Cursor.start cs, -1, [], 0, true, [], [], 0⟩

/-- Appends a token. -/
def push (l : Lexer) (t : Token) : Lexer := { l with tokens := t :: l.tokens, count := l.count + 1 }

/-- Inserts a token before the one of the number `place`. -/
def insert (l : Lexer) (place : Nat) (t : Token) : Lexer :=
  let later := l.count - place
  { l with tokens := l.tokens.take later ++ t :: l.tokens.drop later, count := l.count + 1 }

/-! ## Candidates -/

/-- The longest distance between the start of a key without a mark and its colon. -/
def keyLength : Nat := 1024

/-- Whether a candidate can no longer become a key. -/
def isStale (c : Cursor) (k : Candidate) : Bool :=
  k.line != c.line || decide (keyLength < c.index - k.index)

/-- Drops the candidates that can no longer become keys; a required one may not be dropped. -/
def dropStale (l : Lexer) : Except Stop Lexer :=
  if l.candidates.any fun k => isStale l.cursor k.2 && k.2.required then l.cursor.stop .malformed
  else .ok { l with candidates := l.candidates.filter fun k => !isStale l.cursor k.2 }

/-- The candidate between the present brackets. -/
def candidate? (l : Lexer) : Option Candidate :=
  (l.candidates.find? (·.1 = l.flow)).map (·.2)

/-- Forgets the candidate between the present brackets. -/
def forget (l : Lexer) : Lexer :=
  { l with candidates := l.candidates.filter (·.1 ≠ l.flow) }

/-- Forgets the candidate between the present brackets; a required one may not be forgotten. -/
def dropCandidate (l : Lexer) : Except Stop Lexer :=
  match l.candidate? with
  | some k => if k.required then l.cursor.stop .malformed else .ok l.forget
  | none => .ok l

/-- Remembers that a key may start here. -/
def remember (l : Lexer) : Except Stop Lexer :=
  if l.keyAllowed then
    let required := l.flow = 0 && l.indent == (l.cursor.column : Int)
    l.dropCandidate.map fun l =>
      { l with candidates :=
          (l.flow, ⟨l.count, required, l.cursor.line, l.cursor.column, l.cursor.index⟩) ::
            l.candidates }
  else .ok l

/-! ## Blocks -/

/-- Closes the blocks that are indented further than a column. -/
def closeFrom (column : Int) : List Int → Lexer → Lexer
  | [], l => l
  | outer :: more, l =>
    if column < l.indent then
      closeFrom column more { l.push .blockEnd with indent := outer, outer := more }
    else l

/-- Closes the blocks that are indented further than a column; brackets know no blocks. -/
def close (l : Lexer) (column : Int) : Lexer :=
  if l.flow = 0 then closeFrom column l.outer l else l

/-- Whether a block at a column is a new one. -/
def opens (l : Lexer) (column : Nat) : Bool := decide (l.indent < (column : Int))

/-- Enters a block at a column. -/
def enter (l : Lexer) (column : Nat) : Lexer :=
  { l with outer := l.indent :: l.outer, indent := (column : Int) }

/-- Opens a block at the present column, unless one is open there. -/
def openBlock (l : Lexer) (t : Token) : Lexer :=
  if l.opens l.cursor.column then (l.enter l.cursor.column).push t else l

/-! ## Steps -/

/-- Moves on by `n` characters. -/
def skip (l : Lexer) (n : Nat) : Lexer := { l with cursor := l.cursor.skip n }

/-- Allows a key here or forbids it. -/
def allowKey (l : Lexer) (allowed : Bool) : Lexer := { l with keyAllowed := allowed }

/-- Moves on to the next token, over spaces, comments and line breaks. -/
def toToken : Nat → Lexer → Lexer
  | 0, l => l
  | limit + 1, l =>
    let c := l.cursor.skipSpaces.skipComment
    match c.lineBreak? with
    | some (_, c) =>
      toToken limit { l with cursor := c, keyAllowed := l.keyAllowed || l.flow == 0 }
    | none => { l with cursor := c }

/-- Moves over a byte order mark at the start of the document. -/
def skipMark (l : Lexer) : Lexer :=
  if l.cursor.index = 0 && l.cursor.peek = '\ufeff' then l.skip 1 else l

/-- Takes a token that a scan found. -/
def take (l : Lexer) (found : Scan Token) : Except Stop Lexer :=
  found.map fun (t, c) => { l.push t with cursor := c }

/-- Ends all blocks before something that stands outside of them. -/
def leaveBlocks (l : Lexer) : Except Stop Lexer :=
  ((l.close (-1)).dropCandidate).map (·.allowKey false)

/-- An opening bracket. -/
def openBracket (l : Lexer) (t : Token) : Except Stop Lexer :=
  l.remember.map fun l => ({ l with flow := l.flow + 1, keyAllowed := true }.skip 1).push t

/-- A closing bracket. -/
def closeBracket (l : Lexer) (t : Token) : Except Stop Lexer :=
  l.dropCandidate.map fun l => ({ l with flow := l.flow - 1, keyAllowed := false }.skip 1).push t

/-- A comma between brackets. -/
def comma (l : Lexer) : Except Stop Lexer :=
  (l.allowKey true).dropCandidate.map fun l => (l.skip 1).push .comma

/-- The mark of an item or of a key, which may open a block. -/
def blockMark (l : Lexer) (opening mark : Token) (allowed : Bool) : Except Stop Lexer :=
  if l.flow = 0 && !l.keyAllowed then l.cursor.stop .malformed
  else
    let l := if l.flow = 0 then l.openBlock opening else l
    (l.allowKey allowed).dropCandidate.map fun l => (l.skip 1).push mark

/-- A colon: behind a candidate it makes a key of it. -/
def colon (l : Lexer) : Except Stop Lexer :=
  match l.candidate? with
  | some k =>
    let l := l.forget.insert k.place .key
    let l :=
      if l.flow = 0 && l.opens k.column then (l.enter k.column).insert k.place .blockMapping else l
    .ok (((l.allowKey false).skip 1).push .value)
  | none => l.blockMark .blockMapping .value (l.flow == 0)

/-- A token that may be a key, and behind which no key can start. -/
def keyLike (l : Lexer) (found : Lexer → Scan Token) : Except Stop Lexer :=
  l.remember.bind fun l => (l.allowKey false).take (found l)

/-- A block scalar. -/
def blockScalar (l : Lexer) (isFolded : Bool) (limit : Nat) : Except Stop Lexer :=
  (l.allowKey true).dropCandidate.bind fun l =>
    l.take ((blockAt isFolded l.indent limit l.cursor.next).map fun (cs, c) =>
      (.scalar cs false, c))

/-- A plain scalar. A key may start behind it if it ends with its line. -/
def plainScalar (l : Lexer) (limit : Nat) : Except Stop Lexer :=
  l.remember.map fun l =>
    let s := plainAt (l.flow != 0) (l.indent + 1) limit l.cursor
    { l.push (.scalar s.text true) with cursor := s.place, keyAllowed := s.broken }

/-- Whether a plain scalar can start here. -/
def startsPlain (l : Lexer) : Bool :=
  let ch := l.cursor.peek
  !(isBlankOrEnd ch || (Text.letters "-?:,[]\x7b\x7d#&*!|>'\"%@\x60").contains ch) ||
    (!isBlankOrEnd (l.cursor.peekAt 1) &&
      (ch == '-' || (l.flow == 0 && (ch == '?' || ch == ':'))))

/-- Whether the mark here stands alone, or between brackets. -/
def isLone (l : Lexer) : Bool := isBlankOrEnd (l.cursor.peekAt 1)

/-- The lexer after a look at what follows a mark, without which the mark is not understood. -/
def lookAhead (l : Lexer) : Lexer :=
  let ch := l.cursor.peek
  if l.cursor.column == 0 && (ch == '-' || ch == '.') then
    { l with cursor := l.cursor.lookForSeparator }
  else if ch == '-' || (l.flow == 0 && (ch == '?' || ch == ':')) then
    { l with cursor := l.cursor.look 1 }
  else l

/-- The token at a place that is not the end. -/
def token (l : Lexer) (limit : Nat) : Except Stop Lexer :=
  let l := l.lookAhead
  let ch := l.cursor.peek
  let atStart := l.cursor.column == 0
  if ch = '%' && atStart then
    l.leaveBlocks.bind fun l => l.take (directiveAt limit l.cursor.next)
  else if atStart && l.cursor.atMarks '-' then
    l.leaveBlocks.map fun l => (l.skip 3).push .documentStart
  else if atStart && l.cursor.atMarks '.' then
    l.leaveBlocks.map fun l => (l.skip 3).push .documentEnd
  else if ch = '[' then l.openBracket .flowSequence
  else if ch = '\x7b' then l.openBracket .flowMapping
  else if ch = ']' then l.closeBracket .flowSequenceEnd
  else if ch = '\x7d' then l.closeBracket .flowMappingEnd
  else if ch = ',' then l.comma
  else if ch = '-' && l.isLone then l.blockMark .blockSequence .dash true
  else if ch = '?' && (l.flow != 0 || l.isLone) then l.blockMark .blockMapping .key (l.flow == 0)
  else if ch = ':' && (l.flow != 0 || l.isLone) then l.colon
  else if ch = '*' then
    l.keyLike fun l => (nameAt l.cursor.next).map fun (n, c) => (.reference n, c)
  else if ch = '&' then
    l.keyLike fun l => (nameAt l.cursor.next).map fun (n, c) => (.anchor n, c)
  else if ch = '!' then l.keyLike fun l => tagAt limit l.cursor
  else if ch = '|' && l.flow == 0 then l.blockScalar false limit
  else if ch = '>' && l.flow == 0 then l.blockScalar true limit
  else if ch = '\'' || ch = '"' then
    l.keyLike fun l =>
      (quotedFrom ch [] limit l.cursor.next).map fun (cs, c) => (.scalar cs false, c)
  else if l.startsPlain then l.plainScalar limit
  else (l.cursor.look 1).stop .malformed

/-- The lexer after the last token: all blocks are closed. -/
def finish (l : Lexer) : Except Stop Lexer := l.leaveBlocks

/-- The tokens that are handed out although the lexer stops with trouble. -/
def stopped (l : Lexer) (t : Trouble) : List Token :=
  let place := l.candidates.foldl (fun n k => min n k.2.place) l.count
  l.tokens.reverse.take place ++ [Token.broken t]

/-- A step: the lexer behind the next token, and whether the document ends there. -/
def step (l : Lexer) (limit : Nat) : Except Stop (Bool × Lexer) :=
  (toToken limit l).dropStale.bind fun l =>
    let l := l.close (l.cursor.column : Int)
    if l.cursor.rest.isEmpty then l.finish.map (true, ·) else (l.token limit).map (false, ·)

/--
Runs the lexer to the end, or to a place where the text cannot be read on. The end may be
one behind which the document goes on, but cannot be read: `cut` is the trouble there and
`size` the number of characters before it.
-/
def run (size : Nat) (cut : Option Trouble) (limit : Nat) : Nat → Lexer → List Token
  | 0, l => l.stopped .malformed
  | steps + 1, l =>
    let atCut (reach : Nat) : Option Trouble := if size ≤ reach then cut else none
    match l.dropStale with
    | .error s => l.stopped s.trouble
    | .ok l =>
      match l.step limit with
      | .error s => l.stopped ((atCut s.reach).getD s.trouble)
      | .ok (atEnd, next) =>
        match atCut next.cursor.reach with
        | some t => l.stopped t
        | none => if atEnd then next.tokens.reverse else run size cut limit steps next

end Lexer

/-- The tokens of a document. It may be cut off, with trouble behind the cut. -/
def Token.ofText (cs : List CodePoint) (cut : Option Trouble) : List Token :=
  let limit := cs.length + 1
  Lexer.run cs.length cut limit limit (Lexer.start cs).skipMark

end ModuleKeeper.Yaml
