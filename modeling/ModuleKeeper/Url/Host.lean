import ModuleKeeper.Text

/-!
# Hosts in brackets

Which texts may stand between brackets in the host part of an address: the
addresses of version six, with a zone or with a version four tail, and the
form reserved for later versions.
-/

namespace ModuleKeeper.Url

open ModuleKeeper.Text

/-- The parts of a text between separators; one more than there are separators. -/
def splitAt (separator : CodePoint) : List CodePoint → List (List CodePoint)
  | [] => [[]]
  | c :: cs =>
    if c = separator then [] :: splitAt separator cs
    else
      match splitAt separator cs with
      | [] => [[c]]
      | part :: parts => (c :: part) :: parts

/-- Whether a character is a hexadecimal digit. -/
def isHex (c : CodePoint) : Bool :=
  c.isDigit || (decide ('a' ≤ c) && decide (c ≤ 'f')) || (decide ('A' ≤ c) && decide (c ≤ 'F'))

/-- Whether a text is one group of an address: one to four hexadecimal digits. -/
def isHextet (cs : List CodePoint) : Bool := !cs.isEmpty && cs.length ≤ 4 && cs.all isHex

/-- Whether a text is one number of a version four address: up to 255, no needless zero. -/
def isOctet (cs : List CodePoint) : Bool :=
  !cs.isEmpty && cs.all CodePoint.isDigit && cs.length ≤ 3 &&
    (cs.head? != some '0' || cs.length == 1) &&
    cs.foldl (fun n c => n * 10 + (c.toNat - '0'.toNat)) 0 ≤ 255

/-- Whether a text is an address of version four. -/
def isVersionFour (cs : List CodePoint) : Bool :=
  let parts := splitAt '.' cs
  parts.length == 4 && parts.all isOctet

/-- The groups with a version four tail replaced by the two groups that it stands for. -/
def plainGroups? (parts : List (List CodePoint)) : Option (List (List CodePoint)) :=
  match parts.getLast? with
  | some tail =>
    if tail.contains '.' then
      if isVersionFour tail then some (parts.dropLast ++ [letters "0", letters "0"]) else none
    else some parts
  | none => none

/-- The positions of the empty groups between the first group and the last. -/
def innerGaps (parts : List (List CodePoint)) : List Nat :=
  (List.range parts.length).filter fun i =>
    decide (1 ≤ i) && decide (i + 1 < parts.length) && (parts.getD i []).isEmpty

/--
Whether groups with the gap at position `gap` make an address: the gap stands for
at least one group, and an empty end belongs to it.
-/
def fitsWithGap (parts : List (List CodePoint)) (gap : Nat) : Bool :=
  let before := parts.take gap
  let after := parts.drop (gap + 1)
  let before := if before == [[]] then [] else before
  let after := if after == [[]] then [] else after
  before.all isHextet && after.all isHextet && decide (before.length + after.length < 8)

/-- Whether a text is an address of version six. -/
def isVersionSix (cs : List CodePoint) : Bool :=
  let zone := (cs.dropWhile (· != .char '%')).drop 1
  let parts := splitAt ':' (cs.takeWhile (· != .char '%'))
  if cs.contains '%' && (zone.isEmpty || zone.contains '%') then false
  else if parts.length < 3 then false
  else
    match plainGroups? parts with
    | none => false
    | some groups =>
      if 9 < groups.length then false
      else
        match innerGaps groups with
        | [] => groups.length == 8 && groups.all isHextet
        | [gap] => fitsWithGap groups gap
        | _ => false

/-- Whether a text is an address of a later version: its number, a point and something. -/
def isLaterVersion (cs : List CodePoint) : Bool :=
  match cs with
  | 'v' :: rest =>
    let number := rest.takeWhile isHex
    match rest.dropWhile isHex with
    | '.' :: address => !number.isEmpty && !address.isEmpty && !address.contains '\n'
    | _ => false
  | _ => false

/-- Whether a text may stand between brackets. -/
def isBracketed (cs : List CodePoint) : Bool :=
  if cs.head? = some 'v' then isLaterVersion cs else isVersionSix cs

end ModuleKeeper.Url
