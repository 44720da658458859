import ModuleKeeper.Text.Blank
import ModuleKeeper.Url.Host
import ModuleKeeper.Url.Lookalike
import ModuleKeeper.Value

/-!
# Addresses

Which addresses of a service are accepted, and how a path is added to one.
An address is judged by its scheme and its host as a reader sees them that
ignores controls at the start and tabs and line breaks everywhere.
-/

namespace ModuleKeeper.Url

open ModuleKeeper.Text

/-! ## Splitting -/

/-- The address as it is read: no controls or blanks at the start, no tabs or line breaks. -/
def cleaned (cs : List CodePoint) : List CodePoint :=
  (cs.dropWhile fun c => c.toNat ≤ 0x20).filter fun c => c != '\t' && c != '\r' && c != '\n'

/-- Whether a character may occur in a scheme. -/
def isSchemeChar (c : CodePoint) : Bool := c.isAlphanum || c = '+' || c = '-' || c = '.'

/-- The scheme in lower case and the rest of a cleaned address; an empty scheme if there is none. -/
def splitScheme (cs : List CodePoint) : List CodePoint × List CodePoint :=
  let front := cs.takeWhile (· != .char ':')
  match cs.dropWhile (· != .char ':'), front with
  | _ :: rest, c :: _ =>
    if c.isAlpha && front.all isSchemeChar then (front.map CodePoint.toLower, rest) else ([], cs)
  | _, _ => ([], cs)

/-- The host part behind the scheme, if there is one. -/
def host? : List CodePoint → Option (List CodePoint)
  | '/' :: '/' :: rest => some (rest.takeWhile fun c => c != '/' && c != '?' && c != '#')
  | _ => none

/-- The part of a host behind its last at sign. -/
def withoutUser (host : List CodePoint) : List CodePoint :=
  (host.reverse.takeWhile (· != .char '@')).reverse

/--
Whether the brackets of a host enclose an address and nothing stands around them but what a
colon starts.
-/
def bracketsFit (host : List CodePoint) : Bool :=
  let place := withoutUser host
  if place.contains '[' then
    let inside := (place.dropWhile (· != .char '[')).drop 1
    let behind := (inside.dropWhile (· != .char ']')).drop 1
    (place.head? == some '[') && (behind.isEmpty || behind.head? == some ':') &&
      isBracketed (inside.takeWhile (· != .char ']'))
  else isBracketed (place.takeWhile (· != .char ':'))

/-- Whether a host part is well formed: brackets in pairs and no lookalike of a delimiter. -/
def hostFits (host : List CodePoint) : Bool :=
  let opens := host.contains '['
  let closes := host.contains ']'
  (opens == closes) && (!opens || bracketsFit host) && !host.any isLookalike

/-! ## Judging -/

/-- Why a value is not accepted as an address. -/
inductive Refusal where
  /-- A value of another kind that counts as true. -/
  | notText
  /-- Bytes that are not all ASCII. -/
  | notAscii
  /-- A host part that is not well formed. -/
  | badHost
  /-- A scheme that is not allowed, as it was read from the address. -/
  | badScheme (scheme : Value) (address : Value)

/-- The schemes that are allowed. -/
def allowedSchemes : List Text := ["http", "https"]

/-- The scheme of a text, unless its host part is malformed. -/
def scheme? (cs : List CodePoint) : Option (List CodePoint) :=
  let (scheme, rest) := splitScheme (cleaned cs)
  if ((host? rest).map hostFits).getD true then some scheme else none

/-- Judges a value as an address. Only texts are accepted. -/
def check (address : Value) : Except Refusal Unit :=
  match address with
  | .str s =>
    match scheme? s.toList with
    | none => .error .badHost
    | some scheme =>
      let scheme := Text.ofList scheme
      if allowedSchemes.contains scheme then .ok ()
      else .error (.badScheme (.str scheme) address)
  | .bytes bs =>
    if bs.all (· < 128) then
      match scheme? (bs.map fun b => CodePoint.ofNat b.toNat) with
      | none => .error .badHost
      | some scheme =>
        .error (.badScheme (.bytes (scheme.map fun c => UInt8.ofNat c.toNat)) address)
    else .error .notAscii
  | _ =>
    if address.truthy then .error .notText else .error (.badScheme (.bytes []) address)

/-- The words for a scheme that is not allowed. `setting` names the place of the address. -/
def schemeMessage (scheme : Value) (setting : Text) (address : Value) : Text :=
  let place : Text := if setting.isEmpty then "" else " (" ++ setting ++ ")"
  "不允许的 URL 协议 '" ++ scheme.text ++ "'" ++ place ++ "，仅支持 http/https: " ++ address.text

/-! ## Joining -/

/-- The text without the slashes at its end. -/
def trimEnd (cs : List CodePoint) : List CodePoint := trimEndBy (· = .char '/') cs

/-- The text without the slashes at both ends. -/
def trim (cs : List CodePoint) : List CodePoint := trimBy (· = .char '/') cs

/-- The parts of a path that are more than slashes, without slashes at their ends. -/
def segments (parts : List (List CodePoint)) : List (List CodePoint) :=
  (parts.map trim).filter (! ·.isEmpty)

/-- The base and the segments of the parts, with one slash between two of them. -/
def joinChars (base : List CodePoint) (parts : List (List CodePoint)) : List CodePoint :=
  trimEnd base ++ (segments parts).flatMap (.char '/' :: ·)

/-- The address of a path below a base. -/
def join (base : Text) (parts : List Text) : Text :=
  Text.ofList (joinChars base.toList (parts.map Text.toList))

end ModuleKeeper.Url
