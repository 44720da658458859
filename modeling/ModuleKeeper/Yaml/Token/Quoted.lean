import ModuleKeeper.Json.Reader
import ModuleKeeper.Yaml.Cursor

/-!
# Scalars in quotes

A scalar between single quotes knows one escape, the doubled quote; between
double quotes a backslash starts many. In both, line breaks fold: one break
with the blanks around it counts as a space, each further one as a break.
-/

namespace ModuleKeeper.Yaml

open ModuleKeeper.Json

/--
The line breaks at a place and the blanks between them, with the place behind.
A separator of documents may not stand at the start of such a line.
-/
def quotedBreaks (done : List CodePoint) : Nat → Cursor → Scan (List CodePoint)
  | 0, c => c.stop .malformed
  | limit + 1, c =>
    let c := c.lookForSeparator
    if c.atSeparator then c.stop .malformed
    else
      let c := c.skipWhile fun ch => ch = ' ' || ch = '\t'
      match c.lineBreak? with
      | some (b, c) => quotedBreaks (b :: done) limit c
      | none => .ok (done.reverse, c)

/-- What the line breaks from `first` on amount to. -/
def folded (first : CodePoint) (more : List CodePoint) : List CodePoint :=
  if first != '\n' then first :: more else if more.isEmpty then [' '] else more

/-- The characters that a letter stands for after a backslash. -/
def letterEscape? (c : CodePoint) : Option CodePoint :=
  match c with
  | '0' => some '\x00'
  | 'a' => some '\x07'
  | 'b' => some '\x08'
  | 't' => some '\t'
  | '\t' => some '\t'
  | 'n' => some '\n'
  | 'v' => some '\x0b'
  | 'f' => some '\x0c'
  | 'r' => some '\r'
  | 'e' => some '\x1b'
  | ' ' => some ' '
  | '"' => some '"'
  | '\\' => some '\\'
  | '/' => some '/'
  | 'N' => some '\u0085'
  | '_' => some '\u00a0'
  | 'L' => some '\u2028'
  | 'P' => some '\u2029'
  | _ => none

/-- The number of hexadecimal digits that a letter asks for after a backslash. -/
def escapeWidth? (c : CodePoint) : Option Nat :=
  match c with
  | 'x' => some 2
  | 'u' => some 4
  | 'U' => some 8
  | _ => none

/-- The value of the hexadecimal digits at the start of a text. -/
def hexNumber (cs : List CodePoint) : Nat :=
  (cs.filterMap hexValue?).foldl (fun n d => n * 16 + d) 0

/-- A character by its number. -/
def numberedChar (n : Nat) : Except Trouble CodePoint :=
  if 0x7fffffff < n then .error .overflow
  else if 0x10ffff < n then .error .badValue
  else .ok (CodePoint.ofNat n)

/-- What a backslash in double quotes stands for; the place is behind the backslash. -/
def escapeAt (limit : Nat) (c : Cursor) : Scan (List CodePoint) :=
  match letterEscape? c.peek with
  | some ch => .ok ([ch], c.next)
  | none =>
    match escapeWidth? c.peek with
    | some width =>
      let c := c.next
      let digits := (c.rest.take width).takeWhile fun d => (hexValue? d).isSome
      if digits.length < width then (c.look digits.length).stop .malformed
      else
        match numberedChar (hexNumber digits) with
        | .ok ch => .ok ([ch], c.skip width)
        | .error t => (c.look (width - 1)).stop t
    | none =>
      match c.lineBreak? with
      | some (_, c) => quotedBreaks [] limit c
      | none => c.stop .malformed

/--
A scalar in quotes behind its opening quote, which is `quote`. `done` holds what was
read so far, last character first; `limit` bounds the steps.
-/
def quotedFrom (quote : CodePoint) (done : List CodePoint) : Nat → Cursor → Scan (List CodePoint)
  | 0, c => c.stop .malformed
  | limit + 1, c =>
    let ch := c.peek
    if quote = '\'' && ch = '\'' && c.peekAt 1 = '\'' then
      quotedFrom quote ('\'' :: done) limit (c.skip 2)
    else if ch = quote then .ok (done.reverse, c.next)
    else if ch = endMark then c.stop .malformed
    else if quote = '"' && ch = '\\' then
      match escapeAt limit c.next with
      | .error s => .error s
      | .ok (cs, c) => quotedFrom quote (cs.reverse ++ done) limit c
    else if isBlankOrEnd ch then
      let (blanks, c) := c.span fun ch => ch = ' ' || ch = '\t'
      match c.lineBreak? with
      | some (first, c) =>
        match quotedBreaks [] limit c with
        | .error s => .error s
        | .ok (more, c) => quotedFrom quote ((folded first more).reverse ++ done) limit c
      | none =>
        if c.peek = endMark then c.stop .malformed
        else quotedFrom quote (blanks.reverse ++ done) limit c
    else quotedFrom quote (ch :: done) limit c.next

end ModuleKeeper.Yaml
