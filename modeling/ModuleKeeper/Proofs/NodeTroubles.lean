import Mathlib.Logic.Relation
import ModuleKeeper.Proofs.ScalarMishaps
import ModuleKeeper.Proofs.SpokenText

/-!
# Nodes of which no value is made

A node that is no collection is read as its tag says.  The tag may be written, and
the node may be a mapping that stands for a scalar somewhere else, so what is read
and what it is read as need not be made for each other.  The nodes for which this
comes to light in a way that no reader of documents is ready for are told apart
here (`Stumbles`).

They are nodes of the document as it was written.  Mappings are merged before
values are made of them, but merging leaves scalars and tags alone, so a node that
fails behind it has the same text and the same tag before it.

## Main results

* `MergedFrom.kept`: what all merging leaves alone.
* `accounted_scalarValue`: why no value is made of a node that is no collection.
* `scalarValue_ne_map`: no such value is a map.
-/

namespace ModuleKeeper.Yaml.Assembly

open Node Node.Table

variable {t u : Table} {n : Nat} {x : Trouble}

/-! ## Troubles -/

/-- Nodes that come from others when mappings are merged. -/
def MergedFrom : Table → Table → Prop :=
  Relation.ReflTransGen fun t u => ∃ n, merged t n = .ok u

theorem MergedFrom.kept (h : MergedFrom t u) (n : Nat) : Kept (get t n) (get u n) := by
  induction h with
  | refl => exact .refl _
  | @tail u u' _ hstep ih =>
      obtain ⟨m, hmerged⟩ := hstep
      have hmerges := merged_merged u m
      rw [hmerged] at hmerges
      exact ih.trans (hmerges.1.kept n)

/-- The nodes of which no values can be made, and the troubles that they lead to. -/
inductive Stumbles (t : Table) : Trouble → Prop
  /-- The text of a scalar is not what a tag says, its own or that of a mapping it stands for. -/
  | scalar {n m : Nat} {tag : Text} {cs : List CodePoint} {x : Trouble}
      (htext : get t m = .scalar tag cs)
      (hnode : m = n ∨ ∃ tag es, get t n = .mapping tag es)
      (hfails : Scalar.Fails (get t n).tag cs x) : Stumbles t x
  /-- A mapping is to be a point in time. -/
  | time {n : Nat} {es : List (Nat × Nat)} (h : get t n = .mapping Tag.timestamp es) :
      Stumbles t .wrongType
  /-- The text of a mapping is to be that of another one, and so on without end. -/
  | endless {u : Table} {n : Nat} (hmerged : MergedFrom t u)
      (hknown : (get u n).tag ∈ Scalar.knownTags)
      (h : ∀ depth, textOf u depth n = .error .endless) : Stumbles t .endless

/-- The troubles that have an explanation: every document may have them, or nodes lead to them. -/
def Accounted (t : Table) (x : Trouble) : Prop := x.Foreseen ∨ Stumbles t x

theorem accounted_malformed : Accounted t .malformed := .inl Trouble.foreseen_malformed

theorem MergedFrom.mapping (h : MergedFrom t u) {tag : Text} {es : List (Nat × Nat)}
    (hnode : get u n = .mapping tag es) :
    ∃ old es, get t n = .mapping old es ∧ TagKept old tag := by
  have hkept := h.kept n
  rw [hnode] at hkept
  generalize get t n = node at hkept
  cases hkept with
  | mapping htag => exact ⟨_, _, rfl, htag⟩

theorem MergedFrom.scalar (h : MergedFrom t u) {tag : Text} {cs : List CodePoint}
    (hnode : get u n = .scalar tag cs) : ∃ old, get t n = .scalar old cs := by
  have hkept := h.kept n
  rw [hnode] at hkept
  generalize get t n = node at hkept
  cases hkept with
  | scalar htag => exact ⟨_, rfl⟩

/-- A scalar that fails after merging would have failed before. -/
theorem MergedFrom.fails (h : MergedFrom t u) {cs : List CodePoint}
    (hfails : Scalar.Fails (get u n).tag cs x) : Scalar.Fails (get t n).tag cs x := by
  rcases (h.kept n).tag with hsame | ⟨-, hstr⟩
  · rwa [← hsame]
  · exact absurd hstr hfails.ne_str

theorem accounted_of_read (h : MergedFrom t u) {cs : List CodePoint} {depth : Nat}
    (htext : textOf u depth n = .ok cs) (hread : Scalar.read (get u n).tag cs = .error x) :
    Accounted t x := by
  rcases Scalar.foreseen_or_of_read hread with hforeseen | hfails
  · exact .inl hforeseen
  · obtain ⟨m, tag, hscalar, hnode⟩ := exists_of_textOf htext
    obtain ⟨old, hold⟩ := h.scalar hscalar
    refine .inr (.scalar hold ?_ (h.fails hfails))
    rcases hnode with rfl | ⟨tag, es, hmapping⟩
    · exact .inl rfl
    · obtain ⟨old, es, hmapping, -⟩ := h.mapping hmapping
      exact .inr ⟨old, es, hmapping⟩

/-- The ways to the value of a node that is no collection. -/
theorem scalarValue_cases (u : Table) (n : Nat) :
    scalarValue u n = .error .malformed ∨
      (get u n).tag ∈ Scalar.knownTags ∧
        ((∃ x, textOf u (u.size + 1) n = .error x ∧ scalarValue u n = .error x) ∨
          (∃ es, get u n = .mapping Tag.timestamp es ∧ scalarValue u n = .error .wrongType) ∨
          ∃ cs, textOf u (u.size + 1) n = .ok cs ∧
            scalarValue u n = Scalar.read (get u n).tag cs) := by
  unfold scalarValue
  dsimp only
  split
  · rename_i hknown
    refine .inr ⟨List.contains_iff_mem.1 hknown, ?_⟩
    cases htext : textOf u (u.size + 1) n with
    | error y => exact .inl ⟨y, rfl, rfl⟩
    | ok cs =>
        refine .inr ?_
        cases hnode : get u n with
        | scalar tag text => exact .inr ⟨cs, rfl, rfl⟩
        | sequence tag ns => exact .inr ⟨cs, rfl, rfl⟩
        | mapping tag es =>
            by_cases htime : tag = Tag.timestamp
            · subst htime
              exact .inl ⟨es, rfl, rfl⟩
            · exact .inr ⟨cs, rfl, if_neg htime⟩
  · exact .inl rfl

/-- Why no value is made of a node that is no collection. -/
theorem accounted_scalarValue (h : MergedFrom t u) (hvalue : scalarValue u n = .error x) :
    Accounted t x := by
  rcases scalarValue_cases u n with hunknown | ⟨hknown, ⟨y, htext, hy⟩ | ⟨es, hnode, htime⟩ |
    ⟨cs, htext, hread⟩⟩
  · rw [hunknown] at hvalue
    cases hvalue
    exact accounted_malformed
  · rw [hy] at hvalue
    cases hvalue
    rcases textOf_error htext with rfl | rfl
    · exact accounted_malformed
    · exact .inr (.endless h hknown (endless_of_textOf htext))
  · rw [htime] at hvalue
    cases hvalue
    obtain ⟨old, es, hold, htag⟩ := h.mapping hnode
    rw [(htag.iff (by decide) (by decide)).1 rfl] at hold
    exact .inr (.time hold)
  · rw [hread] at hvalue
    exact accounted_of_read h htext hvalue

theorem scalarValue_ne_map (entries : List (Value × Value)) :
    scalarValue u n ≠ .ok (.map entries) := by
  intro h
  rcases scalarValue_cases u n with hunknown | ⟨-, ⟨y, -, hy⟩ | ⟨es, -, htime⟩ | ⟨cs, -, hread⟩⟩
  · rw [hunknown] at h
    cases h
  · rw [hy] at h
    cases h
  · rw [htime] at h
    cases h
  · rw [hread] at h
    exact Scalar.read_ne_map entries h

end ModuleKeeper.Yaml.Assembly
