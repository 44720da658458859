import ModuleKeeper.Text.Column

/-!
# Texts with surrogates

A text that holds a surrogate cannot be written as bytes. What must be shown
nevertheless is shown with the numbers of its surrogates.

## Main results

* `isWritable_append`: a text can be written if its parts can.
* `withSurrogatesShown_of_isWritable`: what can be written is shown as it is.
-/

namespace ModuleKeeper.Text

/-- Whether a text can be written as bytes. -/
def isWritable (cs : List CodePoint) : Bool := !cs.any CodePoint.isSurrogate

theorem isWritable_append (cs ds : List CodePoint) :
    isWritable (cs ++ ds) = (isWritable cs && isWritable ds) := by
  simp [isWritable]

/-- A code point as it is, but a surrogate by its number. -/
def shown (c : CodePoint) : List CodePoint :=
  if c.isSurrogate then '\\' :: 'u' :: hexadecimal 4 c.toNat else [c]

/-- A text that can be written: every surrogate is shown by its number. -/
def withSurrogatesShown (cs : List CodePoint) : List CodePoint := cs.flatMap shown

theorem withSurrogatesShown_of_isWritable {cs : List CodePoint} (h : isWritable cs = true) :
    withSurrogatesShown cs = cs := by
  induction cs with
  | nil => rfl
  | cons c cs ih =>
    simp only [isWritable, List.any_cons, Bool.not_or, Bool.and_eq_true, Bool.not_eq_true'] at h
    have hshown : shown c = [c] := by
      rw [shown, h.1]
      rfl
    have hrest : withSurrogatesShown cs = cs := ih (by rw [isWritable, h.2]; rfl)
    rw [withSurrogatesShown, List.flatMap_cons, hshown]
    exact congrArg (c :: ·) hrest

end ModuleKeeper.Text
