import ModuleKeeper.Text

/-!
# Control sequences

Sequences of characters that colour a text or move the cursor of a terminal.
Where a text does not go to a terminal they are left out.

## Main results

* `withoutSequences_of_not_mem`: a text without an escape character stays as it is.
-/

namespace ModuleKeeper.Text

/-- Whether a character is part of the parameters of a control sequence. -/
def isParameter (c : CodePoint) : Bool := c.isDigit || c = ';' || c = '?'

/-- What follows the parameters and the letter of a control sequence. -/
def afterSequence? : List CodePoint → Option (List CodePoint)
  | [] => none
  | c :: cs =>
    if isParameter c then afterSequence? cs else if c.isAlpha then some cs else none

theorem length_afterSequence?_lt {cs rest : List CodePoint} (h : afterSequence? cs = some rest) :
    rest.length < cs.length := by
  induction cs with
  | nil => cases h
  | cons c cs ih =>
    simp only [afterSequence?] at h
    split at h
    · exact Nat.lt_succ_of_lt (ih h)
    · split at h
      · cases h
        exact Nat.lt_succ_self _
      · cases h

/-- The character that starts a control sequence. -/
def escapeCharacter : CodePoint := '\x1b'

/-- What follows the control sequence at the start of a text, if there is one. -/
def behindSequence? : List CodePoint → Option (List CodePoint)
  | e :: b :: cs => if e = escapeCharacter ∧ b = '[' then afterSequence? cs else none
  | _ => none

theorem length_behindSequence?_lt {cs rest : List CodePoint} (h : behindSequence? cs = some rest) :
    rest.length < cs.length := by
  unfold behindSequence? at h
  split at h
  · split at h
    · have := length_afterSequence?_lt h
      simp only [List.length_cons]
      omega
    · cases h
  · cases h

/-- The text without control sequences. -/
def withoutSequences (cs : List CodePoint) : List CodePoint :=
  match _h : behindSequence? cs with
  | some rest => withoutSequences rest
  | none =>
    match cs with
    | [] => []
    | c :: cs => c :: withoutSequences cs
termination_by cs.length
decreasing_by
  · exact length_behindSequence?_lt _h
  · simp

theorem behindSequence?_of_ne {c : CodePoint} (h : c ≠ escapeCharacter) (cs : List CodePoint) :
    behindSequence? (c :: cs) = none := by
  cases cs <;> simp [behindSequence?, h]

theorem withoutSequences_of_not_mem {cs : List CodePoint} (h : escapeCharacter ∉ cs) :
    withoutSequences cs = cs := by
  induction cs with
  | nil => rw [withoutSequences]; rfl
  | cons c cs ih =>
    have hc : c ≠ escapeCharacter := fun he => h (he ▸ List.mem_cons_self)
    rw [withoutSequences]
    split
    · rename_i hb
      rw [behindSequence?_of_ne hc] at hb
      cases hb
    · simp only [List.cons.injEq, true_and]
      exact ih fun hm => h (List.mem_cons_of_mem _ hm)

end ModuleKeeper.Text
