import ModuleKeeper.Json.Reader
import ModuleKeeper.Text.Utf8
import ModuleKeeper.Yaml.Token
import ModuleKeeper.Yaml.Token.Block

/-!
# Names, tags and directives

The tokens that start with a mark and go on with a name: anchors, aliases,
tags and the directives before a document.
-/

namespace ModuleKeeper.Yaml

open ModuleKeeper.Text

/-- Whether a character may be part of a name. -/
def isNameChar (c : CodePoint) : Bool := c.isAlphanum || c = '-' || c = '_'

/-- Whether a character may be part of a tag. -/
def isTagChar (c : CodePoint) : Bool :=
  c.isAlphanum || (letters "-;/?:@&=+$,_.!~*'()[]%").contains c

/-- Whether a character may stand behind the name of an anchor or a reference. -/
def endsName (c : CodePoint) : Bool :=
  isBlankOrEnd c || (letters "?:,]\x7d%@\x60").contains c

/-- The name of an anchor or a reference behind its mark. -/
def nameAt (c : Cursor) : Scan Text :=
  let (name, c) := c.span isNameChar
  if name.isEmpty || !endsName c.peek then c.stop .malformed else .ok (Text.ofList name, c)

/-! ## Tags -/

/-- The bytes of a run of percent signs with two hexadecimal digits each, after `done`. -/
def percentBytes (done : List UInt8) : Nat → Cursor → Scan (List UInt8)
  | 0, c => c.stop .malformed
  | limit + 1, c =>
    if c.peek = '%' then
      match Json.hexValue? (c.peekAt 1) with
      | none => c.next.stop .malformed
      | some a =>
        match Json.hexValue? (c.peekAt 2) with
        | none => (c.look 2).stop .malformed
        | some b => percentBytes (UInt8.ofNat (a * 16 + b) :: done) limit (c.skip 3)
    else .ok (done.reverse, c)

/-- The text of a tag from a place on, after `done`, last character first. -/
def tagTextFrom (done : List CodePoint) : Nat → Cursor → Scan (List CodePoint)
  | 0, c => c.stop .malformed
  | limit + 1, c =>
    if c.peek = '%' then
      match percentBytes [] limit c with
      | .error s => .error s
      | .ok (bytes, c) =>
        match Utf8.decode bytes with
        | none => c.stop .malformed
        | some cs => tagTextFrom (cs.reverse ++ done) limit c
    else if isTagChar c.peek then tagTextFrom (c.peek :: done) limit c.next
    else .ok (done.reverse, c)

/-- The text of a tag, which is not empty as it is written. -/
def tagText (limit : Nat) (c : Cursor) : Scan (List CodePoint) :=
  if isTagChar c.peek then tagTextFrom [] limit c else c.stop .malformed

/-- A handle: an exclamation mark alone, or a name between two. -/
def handleAt (c : Cursor) : Scan Text :=
  if c.peek != '!' then c.stop .malformed
  else if c.peekAt 1 = ' ' then .ok ("!", c.next)
  else
    let (name, c) := c.next.span isNameChar
    if c.peek = '!' then .ok ("!" ++ Text.ofList name ++ "!", c.next)
    else c.stop .malformed

/-- The number of characters of the word at a place before an exclamation mark. -/
def wordLength (c : Cursor) : Nat :=
  (c.rest.takeWhile fun ch => !isSpaceOrEnd ch && ch != '!').length

/-- The tag at a place. -/
def tagAt (limit : Nat) (c : Cursor) : Scan Token :=
  let found : Scan Token :=
    if c.peekAt 1 = '<' then
      match tagText limit (c.skip 2) with
      | .error s => .error s
      | .ok (cs, c) =>
        if c.peek = '>' then .ok (.tag none (Text.ofList cs), c.next) else c.stop .malformed
    else if isBlankOrEnd (c.peekAt 1) then .ok (.tag none "!", c.next)
    else
      let n := wordLength c.next + 1
      let c := c.look n
      let handle : Scan Text := if c.peekAt n = '!' then handleAt c else .ok ("!", c.next)
      match handle with
      | .error s => .error s
      | .ok (handle, c) =>
        (tagText limit c).map fun (cs, c) => (.tag (some handle) (Text.ofList cs), c)
  match found with
  | .error s => .error s
  | .ok (token, c) => if isSpaceOrEnd c.peek then .ok (token, c) else c.stop .malformed

/-! ## Directives -/

/-- A number of a version. -/
def versionNumber (c : Cursor) : Scan Nat :=
  let (digits, c) := c.span CodePoint.isDigit
  if digits.isEmpty then c.stop .malformed
  else if Numeral.digitLimit < digits.length then c.stop .badValue
  else .ok (Json.digitsValue digits, c)

/-- The version behind the name of its directive. -/
def versionAt (c : Cursor) : Scan Token :=
  match versionNumber c.skipSpaces with
  | .error s => .error s
  | .ok (major, c) =>
    if c.peek != '.' then c.stop .malformed
    else
      match versionNumber c.next with
      | .error s => .error s
      | .ok (_, c) =>
        if isSpaceOrEnd c.peek then .ok (.version major, c) else c.stop .malformed

/-- A handle and what it stands for, behind the name of their directive. -/
def handleDirectiveAt (limit : Nat) (c : Cursor) : Scan Token :=
  match handleAt c.skipSpaces with
  | .error s => .error s
  | .ok (name, c) =>
    if c.peek != ' ' then c.stop .malformed
    else
      match tagText limit c.skipSpaces with
      | .error s => .error s
      | .ok (cs, c) =>
        if isSpaceOrEnd c.peek then .ok (.handle name (Text.ofList cs), c)
        else c.stop .malformed

/-- The directive behind a percent sign. -/
def directiveAt (limit : Nat) (c : Cursor) : Scan Token :=
  let (name, c) := c.span isNameChar
  if name.isEmpty || !isSpaceOrEnd c.peek then c.stop .malformed
  else
    let found : Scan Token :=
      if name = "YAML" then versionAt c
      else if name = "TAG" then handleDirectiveAt limit c
      else .ok (.directive, c.skipWhile (! isBreak ·))
    match found with
    | .error s => .error s
    | .ok (token, c) => (lineEnd c).map (token, ·)

end ModuleKeeper.Yaml
