import ModuleKeeper.Settings.File

/-!
# Paths

A path may start in the home directory of a user: of the one who runs the
program, or of one whom it names. What a path leads to is found by following
its parts from the root or from the working directory.

## Main results

* `find_of_nul`: nothing is found under a path with a character that ends it.
-/

namespace ModuleKeeper.Settings

open ModuleKeeper.Text

/-- A path: its root, if it has one, and the names of its parts. -/
structure Path where
  /-- Nothing for a path from the working directory. The root may be doubled. -/
  root : Text
  parts : List Text
  deriving DecidableEq, Inhabited

namespace Path

/-- The root that a path starts with: exactly two slashes are kept. -/
def rootOf (path : List CodePoint) : Text :=
  match (path.takeWhile (· = .char '/')).length with
  | 0 => ""
  | 2 => "//"
  | _ => "/"

/-- The path that a text spells. Slashes may be repeated, and a single dot is no part. -/
def ofText (path : Text) : Path :=
  let names := (Url.splitAt '/' path.toList).filter fun name => !name.isEmpty && name != letters "."
  ⟨rootOf path.toList, names.map Text.ofList⟩

/-- A path in its shortest form. -/
def text (p : Path) : Text :=
  if p.root.isEmpty ∧ p.parts = [] then "." else p.root ++ Text.intercalate "/" p.parts

/-! ## Bytes -/

/-- The byte that a surrogate stands for in the name of a file, if it stands for one. -/
def strayByte? (c : CodePoint) : Option UInt8 :=
  if 0xdc80 ≤ c.toNat ∧ c.toNat ≤ 0xdcff then some (UInt8.ofNat (c.toNat - 0xdc00)) else none

/-- The bytes of a code point of a path. There are none for zero, which would end the path. -/
def bytesOf? (c : CodePoint) : Option (List UInt8) :=
  if c.toNat = 0 then none
  else if c.isSurrogate then (strayByte? c).map ([·])
  else some (Utf8.encode [c])

/-- The bytes of a path. A byte that is part of no character is held by a surrogate. -/
def bytes? (cs : List CodePoint) : Option (List UInt8) := (cs.mapM bytesOf?).map List.flatten

theorem bytes?_eq_none_of_mem {cs : List CodePoint} {c : CodePoint} (hc : bytesOf? c = none)
    (h : c ∈ cs) : bytes? cs = none := by
  have hm : cs.mapM bytesOf? = none := by
    induction cs with
    | nil => cases h
    | cons d ds ih =>
      rw [List.mapM_cons]
      rcases List.mem_cons.1 h with rfl | h
      · simp [hc]
      · simp [ih h]
  simp [bytes?, hm]

/-- The number of bytes of a name. -/
def size (name : Text) : Nat := ((bytes? name.toList).map List.length).getD 0

/-! ## Home directories -/

/-- The home directories of users. -/
structure Homes where
  /-- That of the user who runs the program, if it is known. -/
  own : Option Text
  /-- Those of users by name. -/
  others : List (Text × Text)

/-- The home directory of a user; the empty name is that of the user who runs the program. -/
def Homes.find (h : Homes) (user : List CodePoint) : Except FileFailure Text :=
  if (bytes? user).isNone then .error (.fault .badPath)
  else
    let home :=
      if user.isEmpty then h.own else (h.others.find? (·.1.toList = user)).map (·.2)
    match home with
    | some path => .ok (if path.isEmpty then "/" else path)
    | none => .error (.mishap .homeless)

/-- A path with a home directory in the place of a part that starts with a tilde. -/
def expand (h : Homes) (p : Path) : Except FileFailure Path :=
  match p.root.isEmpty, p.parts with
  | true, part :: rest =>
    match part.toList with
    | '~' :: user =>
      (h.find user).map fun home =>
        let home := ofText home
        { home with parts := home.parts ++ rest }
    | _ => .ok p
  | _, _ => .ok p

end Path

/-! ## Disks -/

/-- The files of a system by the parts of their paths, and the directory to start from. -/
structure Disk where
  here : List Text
  files : List (List Text × File)

namespace Disk

/-- The number of bytes up to which a name can be that of a file. -/
def nameLimit : Nat := 255

/-- The number of bytes below which a path can be followed. -/
def pathLimit : Nat := 4096

/-- What stands at a place. What holds a file is a directory, and so is where one starts. -/
def fileAt (d : Disk) (place : List Text) : File :=
  match d.files.find? (·.1 = place) with
  | some (_, file) => file
  | none =>
    if place.isPrefixOf d.here || d.files.any fun f => place.isPrefixOf f.1 then .directory
    else .missing

/-- Follows the parts of a path from a place. -/
def walk (d : Disk) (place : List Text) : List Text → File
  | [] => d.fileAt place
  | name :: rest =>
    match d.fileAt place with
    | .directory =>
      if name = ".." then walk d place.dropLast rest
      else if nameLimit < Path.size name then .blocked
      else walk d (place ++ [name]) rest
    | _ => .missing

/-- What a path leads to. -/
def find (d : Disk) (path : Text) : File :=
  match Path.bytes? path.toList with
  | none => .missing
  | some bytes =>
    if pathLimit ≤ bytes.length then .blocked
    else
      let p := Path.ofText path
      d.walk (if p.root.isEmpty then d.here else []) p.parts

theorem find_of_nul {path : Text} (h : .char '\x00' ∈ path.toList) (d : Disk) :
    d.find path = .missing := by
  rw [find, Path.bytes?_eq_none_of_mem rfl h]

end Disk

/-! ## Looking for settings -/

/-- Where a path leads, as `find` says, with the path in its shortest form. -/
def look {m : Type → Type} [Monad m] (homes : Path.Homes) (find : Text → m File)
    (path : Text) : m Finding :=
  match (Path.ofText path).expand homes with
  | .error f => pure (.error f)
  | .ok p => do return .ok (p.text, ← find p.text)

end ModuleKeeper.Settings
