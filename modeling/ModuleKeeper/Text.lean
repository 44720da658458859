import ModuleKeeper.Text.CodePoint

/-!
# Texts

A text is a sequence of code points. Lengths, places and cuts count code
points, and texts are ordered by the numbers of their code points.

A text that holds no surrogate is a string; what stands between quotes in this
library is used as a text directly.

## Main results

* `string?_ofString`: a string that is used as a text is still that string.
* `ofString_inj`: strings are the same exactly if they are the same as texts.
* `notAfter_self`, `notAfter_total`: the order of texts.
-/

namespace ModuleKeeper

/-- A sequence of code points. -/
structure Text where
  /-- The text of a list of code points. -/
  ofList ::
  /-- The code points of a text. -/
  toList : List CodePoint
  deriving DecidableEq, Inhabited

namespace Text

/-- The code points of a string. -/
def letters (s : String) : List CodePoint := s.toList.map CodePoint.char

/-- A string as a text. -/
def ofString (s : String) : Text := ofList (letters s)

instance : Coe String Text := ⟨ofString⟩

instance : Coe String (List CodePoint) := ⟨letters⟩

/-- The empty text. -/
def empty : Text := ofList []

/-- Two texts, one behind the other. -/
def append (s t : Text) : Text := ofList (s.toList ++ t.toList)

instance : Append Text := ⟨append⟩

@[simp] theorem toList_append (s t : Text) : (s ++ t).toList = s.toList ++ t.toList := rfl

@[simp] theorem toList_ofString (s : String) : (ofString s).toList = letters s := rfl

@[simp] theorem letters_eq_nil_iff {s : String} : letters s = [] ↔ s = "" := by
  simp [letters]

/-- Whether a text is empty. -/
def isEmpty (t : Text) : Bool := t.toList.isEmpty

theorem isEmpty_iff {t : Text} : t.isEmpty = true ↔ t = empty := by
  cases t
  simp [isEmpty, empty]

/-- Texts in one, with another one between each two. -/
def intercalate (between : Text) : List Text → Text
  | [] => empty
  | [t] => t
  | t :: ts => t ++ between ++ intercalate between ts

/-! ## Strings -/

/-- The string that a text is, if it holds no surrogate. -/
def string? (t : Text) : Option String := (t.toList.mapM CodePoint.char?).map String.ofList

theorem mapM_char?_map (cs : List Char) :
    (cs.map CodePoint.char).mapM CodePoint.char? = some cs := by
  induction cs with
  | nil => rfl
  | cons c cs ih => rw [List.map_cons, List.mapM_cons, ih]; rfl

theorem string?_ofString (s : String) : (ofString s).string? = some s := by
  rw [string?, toList_ofString, letters, mapM_char?_map, Option.map_some, String.ofList_toList]

@[simp] theorem ofString_inj {s t : String} : ofString s = ofString t ↔ s = t := by
  constructor
  · intro h
    have := congrArg string? h
    simpa [string?_ofString] using this
  · rintro rfl
    rfl

/-! ## Order -/

/-- Whether code points do not come after others in the order of the numbers. -/
def listNotAfter : List CodePoint → List CodePoint → Bool
  | [], _ => true
  | _ :: _, [] => false
  | c :: cs, d :: ds => if c = d then listNotAfter cs ds else decide (c < d)

/-- Whether a text does not come after another one in the order of the numbers. -/
def notAfter (s t : Text) : Bool := listNotAfter s.toList t.toList

theorem listNotAfter_self (cs : List CodePoint) : listNotAfter cs cs = true := by
  induction cs with
  | nil => rfl
  | cons c cs ih => simpa [listNotAfter] using ih

theorem notAfter_self (t : Text) : t.notAfter t = true := listNotAfter_self _

theorem listNotAfter_total (cs ds : List CodePoint) :
    listNotAfter cs ds = true ∨ listNotAfter ds cs = true := by
  induction cs generalizing ds with
  | nil => exact .inl rfl
  | cons c cs ih =>
    cases ds with
    | nil => exact .inr rfl
    | cons d ds =>
      by_cases h : c = d
      · subst h
        simpa [listNotAfter] using ih ds
      · have hne : c.toNat ≠ d.toNat := fun e =>
          h (by rw [← CodePoint.ofNat_toNat c, e, CodePoint.ofNat_toNat])
        have hlt : c < d ∨ d < c := Nat.lt_or_gt_of_ne hne
        simpa [listNotAfter, h, Ne.symm h] using hlt

theorem notAfter_total (s t : Text) : s.notAfter t = true ∨ t.notAfter s = true :=
  listNotAfter_total _ _

end Text

end ModuleKeeper
