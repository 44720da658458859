import Mathlib.Data.List.Infix
import ModuleKeeper.Proofs.Firsts
import ModuleKeeper.Yaml.Node

/-!
# Why tokens describe no nodes

The parser reads tokens from the front and leaves the others alone.  Where it stops, a token
does not belong, or a name is not known, and then the document is malformed; or the token
is the sign of trouble, and then the trouble is what the parser stops with.

The functions of the parser call each other, and the number of calls that are left is what
they have in common, so all of them are looked at together (`Sound`).

## Main results

* `parses_refuse`: what stops the parser at a token.
* `sound_zero`, `sound_succ`, `sound`: the functions of the parser, with any number of calls.
* `comes_ofTokens`: the trouble of tokens that describe no nodes.
-/

namespace ModuleKeeper.Yaml.Node

/-- The troubles that tokens account for. -/
def Refuses (ts : List Token) (t : Trouble) : Prop := t = .malformed ∨ Token.broken t ∈ ts

theorem Refuses.of_suffix {ts us : List Token} {t : Trouble} (h : Refuses us t) (hs : us <:+ ts) :
    Refuses ts t := by
  rcases h with hmalformed | hmem
  · exact .inl hmalformed
  · exact .inr (hs.subset hmem)

theorem refuses_unexpected (ts : List Token) : Refuses ts (Token.unexpected ts) := by
  unfold Token.unexpected
  split
  · exact .inr List.mem_cons_self
  · exact .inl rfl

/-- What a step of the parser comes to: fewer tokens, or a trouble that the tokens account for. -/
abbrev Parses {α : Type} (ts : List Token) (outcome : Parse α) : Prop :=
  Comes (Refuses ts) (fun r => r.2.tokens <:+ ts) outcome

section Steps

variable {α β : Type} {ts us : List Token} {p : Parser}

theorem Parses.of_suffix {outcome : Parse α} (h : Parses us outcome) (hs : us <:+ ts) :
    Parses ts outcome :=
  h.imp (fun _ ht => ht.of_suffix hs) fun _ hr => hr.trans hs

theorem parses_refuse (p : Parser) : Parses p.tokens (p.refuse : Parse α) :=
  refuses_unexpected p.tokens

theorem Parser.drop_suffix (p : Parser) : p.drop.tokens <:+ p.tokens := List.drop_suffix 1 _

/-- The tokens behind the comma, which the first item in brackets does not have. -/
theorem Parser.pastComma_suffix (p : Parser) (first : Bool) :
    (if first then p else p.drop).tokens <:+ p.tokens := by
  split
  · exact List.suffix_refl _
  · exact p.drop_suffix

theorem Parser.bind_tokens (p : Parser) (anchor : Option Text) (n : Nat) :
    (p.bind anchor n).tokens = p.tokens := by
  cases anchor <;> rfl

theorem Parser.name_tokens (p : Parser) (anchor : Option Text) (node : Node) :
    (p.name anchor node).2.tokens = p.tokens := Parser.bind_tokens _ anchor _

theorem comes_expand (p : Parser) (handle : Option Text) (suffix : Text) :
    Comes (Refuses ts) (fun _ => True) (p.expand handle suffix) := by
  unfold Parser.expand
  split
  · trivial
  · split
    · trivial
    · exact .inl rfl

theorem parses_properties (p : Parser) : Parses p.tokens p.properties := by
  have hone := p.drop_suffix
  have htwo := p.drop.drop_suffix.trans hone
  unfold Parser.properties
  split
  · exact (comes_expand p _ _).map fun _ _ => htwo
  · exact hone
  · rename_i htokens
    rw [htokens]
    exact .inr (by simp)
  · exact (comes_expand p _ _).map fun _ _ => htwo
  · exact (comes_expand p _ _).map fun _ _ => hone
  · exact List.suffix_refl _

theorem comes_allowAnchor (p : Parser) (anchor : Option Text) :
    Comes (Refuses p.tokens) (fun _ => True) (p.allowAnchor anchor) := by
  unfold Parser.allowAnchor
  split
  · rename_i htokens
    rw [htokens]
    exact .inr List.mem_cons_self
  · trivial
  · split
    · exact .inl rfl
    · trivial

end Steps

/-! ## The parser -/

/-- The functions of the parser with a number of calls. -/
structure Sound (fuel : Nat) : Prop where
  node : ∀ position p, Parses p.tokens (parseAt fuel position p)
  content : ∀ position anchor written p,
    Parses p.tokens (parseContent fuel position anchor written p)
  items : ∀ done p, Parses p.tokens (parseItems fuel done p)
  looseItems : ∀ done p, Parses p.tokens (parseLooseItems fuel done p)
  entries : ∀ done p, Parses p.tokens (parseEntries fuel done p)
  value : ∀ p, Parses p.tokens (parseValue fuel p)
  half : ∀ p, Parses p.tokens (parseHalf fuel p)
  flowHalf : ∀ isKey closing p, Parses p.tokens (parseFlowHalf fuel isKey closing p)
  flowValue : ∀ closing p, Parses p.tokens (parseFlowValue fuel closing p)
  flowItems : ∀ first done p, Parses p.tokens (parseFlowItems fuel first done p)
  flowEntries : ∀ first done p, Parses p.tokens (parseFlowEntries fuel first done p)

/-- Without calls left the parser stops where it is. -/
theorem sound_zero : Sound 0 where
  node := fun _ p => parses_refuse p
  content := fun _ _ _ p => parses_refuse p
  items := fun _ p => parses_refuse p
  looseItems := fun _ p => parses_refuse p
  entries := fun _ p => parses_refuse p
  value := fun p => parses_refuse p
  half := fun p => parses_refuse p
  flowHalf := fun _ _ p => parses_refuse p
  flowValue := fun _ p => parses_refuse p
  flowItems := fun _ _ p => parses_refuse p
  flowEntries := fun _ _ p => parses_refuse p

section Calls

variable {α : Type} {fuel : Nat} (h : Sound fuel)
include h

theorem parses_parseAt (position : Position) (p : Parser) :
    Parses p.tokens (parseAt (fuel + 1) position p) := by
  unfold parseAt
  split
  · unfold Parser.resolve
    split
    · exact p.drop_suffix
    · exact .inl rfl
  · refine (parses_properties p).elim (fun _ => id) fun r hproperties => ?_
    dsimp only
    refine (comes_allowAnchor r.2 r.1.1).elim (fun _ ht => ?_) fun _ _ => ?_
    · exact Refuses.of_suffix ht hproperties
    · exact (h.content _ _ _ _).of_suffix hproperties

theorem parses_parseContent (position : Position) (anchor written : Option Text) (p : Parser) :
    Parses p.tokens (parseContent (fuel + 1) position anchor written p) := by
  have hname : ∀ node, (p.drop.name anchor node).2.tokens <:+ p.tokens := by
    intro node
    rw [Parser.name_tokens]
    exact p.drop_suffix
  have hblank : ∀ node, (p.name anchor node).2.tokens <:+ p.tokens := by
    intro node
    rw [Parser.name_tokens]
  have hnothing : Parses p.tokens
      (if anchor.isSome || written.isSome then
        .ok (p.name anchor (scalar (scalarTag written [] true) []))
      else p.refuse) := by
    split
    · exact hblank _
    · exact parses_refuse p
  unfold parseContent
  dsimp only
  split
  · exact hname _
  · exact (h.flowItems _ _ _).of_suffix (hname _) |>.map fun _ hr => hr
  · exact (h.flowEntries _ _ _).of_suffix (hname _) |>.map fun _ hr => hr
  · split
    · exact (h.looseItems _ _).of_suffix (hblank _) |>.map fun _ hr => hr
    split
    · exact (h.items _ _).of_suffix (hname _) |>.map fun _ hr => hr
    split
    · exact (h.entries _ _).of_suffix (hname _) |>.map fun _ hr => hr
    · exact hnothing
  · exact hnothing

/-- A node, and what is made of it. -/
theorem parses_node (position : Position) (p : Parser) {rest : Nat → Parser → Parse α}
    (hrest : ∀ n q, Parses q.tokens (rest n q)) :
    Parses p.tokens
      (match parseAt fuel position p with
      | .error t => .error t
      | .ok (n, q) => rest n q) := by
  refine (h.node position p).elim (fun _ => id) fun r hnode => ?_
  exact (hrest _ _).of_suffix hnode

theorem parses_parseItems (done : List Nat) (p : Parser) :
    Parses p.tokens (parseItems (fuel + 1) done p) := by
  unfold parseItems
  split
  · split
    · exact (h.items _ _).of_suffix p.drop_suffix
    · exact (parses_node h _ p.drop fun _ _ => h.items _ _).of_suffix p.drop_suffix
  · exact p.drop_suffix
  · exact parses_refuse p

theorem parses_parseLooseItems (done : List Nat) (p : Parser) :
    Parses p.tokens (parseLooseItems (fuel + 1) done p) := by
  unfold parseLooseItems
  split
  · split
    · exact (h.looseItems _ _).of_suffix p.drop_suffix
    · exact (parses_node h _ p.drop fun _ _ => h.looseItems _ _).of_suffix p.drop_suffix
  · exact List.suffix_refl _

theorem parses_parseEntries (done : List (Nat × Nat)) (p : Parser) :
    Parses p.tokens (parseEntries (fuel + 1) done p) := by
  unfold parseEntries
  split
  · exact p.drop_suffix
  · refine ((h.half p.drop).of_suffix p.drop_suffix).elim (fun _ => id) fun r hkey => ?_
    dsimp only
    refine ((h.value r.2).of_suffix hkey).elim (fun _ => id) fun q hvalue => ?_
    exact (h.entries _ _).of_suffix hvalue
  · exact parses_refuse p

theorem parses_parseValue (p : Parser) : Parses p.tokens (parseValue (fuel + 1) p) := by
  unfold parseValue
  split
  · exact (h.half p.drop).of_suffix p.drop_suffix
  · exact List.suffix_refl _

theorem parses_parseHalf (p : Parser) : Parses p.tokens (parseHalf (fuel + 1) p) := by
  unfold parseHalf
  split
  · exact List.suffix_refl _
  · exact h.node _ p

theorem parses_parseFlowHalf (isKey : Bool) (closing : Token) (p : Parser) :
    Parses p.tokens (parseFlowHalf (fuel + 1) isKey closing p) := by
  unfold parseFlowHalf
  split
  · exact List.suffix_refl _
  · exact h.node _ p

theorem parses_parseFlowValue (closing : Token) (p : Parser) :
    Parses p.tokens (parseFlowValue (fuel + 1) closing p) := by
  unfold parseFlowValue
  split
  · exact (h.flowHalf _ _ p.drop).of_suffix p.drop_suffix
  · exact List.suffix_refl _

/-- A key and its value between brackets, and what is made of them. -/
theorem parses_pair (closing : Token) (p : Parser) {rest : Nat → Nat → Parser → Parse α}
    (hrest : ∀ k v q, Parses q.tokens (rest k v q)) :
    Parses p.tokens
      (match parseFlowHalf fuel true closing p with
      | .error t => .error t
      | .ok (k, q) =>
        match parseFlowValue fuel closing q with
        | .error t => .error t
        | .ok (v, q) => rest k v q) := by
  refine (h.flowHalf true closing p).elim (fun _ => id) fun r hkey => ?_
  dsimp only
  refine ((h.flowValue closing r.2).of_suffix hkey).elim (fun _ => id) fun u hvalue => ?_
  exact (hrest _ _ _).of_suffix hvalue

theorem parses_parseFlowItems (first : Bool) (done : List Nat) (p : Parser) :
    Parses p.tokens (parseFlowItems (fuel + 1) first done p) := by
  unfold parseFlowItems
  split
  · exact p.drop_suffix
  split
  · exact parses_refuse p
  refine Parses.of_suffix ?_ (p.pastComma_suffix first)
  dsimp only
  generalize (if first then p else p.drop) = q
  split
  · exact q.drop_suffix
  · refine (parses_pair h _ q.drop fun _ _ r => ?_).of_suffix q.drop_suffix
    exact h.flowItems _ _ (r.add _).2
  · exact parses_node h _ q fun _ _ => h.flowItems _ _ _

theorem parses_parseFlowEntries (first : Bool) (done : List (Nat × Nat)) (p : Parser) :
    Parses p.tokens (parseFlowEntries (fuel + 1) first done p) := by
  unfold parseFlowEntries
  split
  · exact p.drop_suffix
  split
  · exact parses_refuse p
  refine Parses.of_suffix ?_ (p.pastComma_suffix first)
  dsimp only
  generalize (if first then p else p.drop) = q
  split
  · exact q.drop_suffix
  · exact (parses_pair h _ q.drop fun _ _ _ => h.flowEntries _ _ _).of_suffix q.drop_suffix
  · exact parses_node h _ q fun _ r => h.flowEntries _ _ (r.add _).2

theorem sound_succ : Sound (fuel + 1) where
  node := parses_parseAt h
  content := parses_parseContent h
  items := parses_parseItems h
  looseItems := parses_parseLooseItems h
  entries := parses_parseEntries h
  value := parses_parseValue h
  half := parses_parseHalf h
  flowHalf := parses_parseFlowHalf h
  flowValue := parses_parseFlowValue h
  flowItems := parses_parseFlowItems h
  flowEntries := parses_parseFlowEntries h

end Calls

theorem sound (fuel : Nat) : Sound fuel := by
  induction fuel with
  | zero => exact sound_zero
  | succ fuel ih => exact sound_succ ih

/-! ## Documents -/

theorem comes_directives (versions : Nat) (handles : List (Text × Text)) (ts : List Token) :
    Comes (Refuses ts) (fun r => r.2 <:+ ts) (directives versions handles ts) := by
  have hcons : ∀ {token : Token} {us : List Token} {outcome : Except Trouble _},
      Comes (Refuses us) (fun r : List (Text × Text) × List Token => r.2 <:+ us) outcome →
        Comes (Refuses (token :: us)) (fun r => r.2 <:+ token :: us) outcome := fun h =>
    h.imp (fun _ ht => ht.of_suffix (List.suffix_cons _ _)) fun _ hr =>
      hr.trans (List.suffix_cons _ _)
  fun_induction directives versions handles ts with
  | case1 => exact .inl rfl
  | case2 _ _ _ _ _ ih => exact hcons ih
  | case3 => exact .inl rfl
  | case4 _ _ _ _ _ _ ih => exact hcons ih
  | case5 _ _ _ ih => exact hcons ih
  | case6 => exact List.suffix_refl _

theorem comes_nothingAfter (ts : List Token) :
    Comes (Refuses ts) (fun _ => True) (nothingAfter ts) := by
  unfold nothingAfter
  have hrest := List.dropWhile_suffix (l := ts) (decide <| · = Token.documentEnd)
  split
  · trivial
  · refine ((comes_directives 0 [] _).imp (fun _ ht => ht.of_suffix hrest) fun _ => id).bind ?_
    intro r hr
    exact (refuses_unexpected r.2).of_suffix (hr.trans hrest)

theorem comes_ofDocument (handles : List (Text × Text)) (ts : List Token) :
    Comes (Refuses ts) (fun _ => True) (ofDocument handles ts) := by
  unfold ofDocument
  refine ((sound _).node _ _).bind ?_
  intro r hr
  refine ((comes_nothingAfter r.2.tokens).imp (fun _ ht => ht.of_suffix hr) fun _ => id).bind ?_
  exact fun _ _ => trivial

/-- Tokens that describe no nodes account for that. -/
theorem comes_ofTokens (ts : List Token) : Comes (Refuses ts) (fun _ => True) (ofTokens ts) := by
  unfold ofTokens
  split
  · trivial
  · exact .inl rfl
  · split
    · refine (comes_directives 0 [] ts).bind ?_
      rintro ⟨handles, us⟩ hus
      dsimp only
      split
      · rename_i vs
        have hvs := (List.suffix_cons _ vs).trans hus
        split
        · refine ((comes_nothingAfter vs).imp (fun _ ht => ht.of_suffix hvs) fun _ => id).bind ?_
          exact fun _ _ => trivial
        · exact (comes_ofDocument handles vs).imp (fun _ ht => ht.of_suffix hvs) fun _ => id
      · exact (refuses_unexpected us).of_suffix hus
    · exact comes_ofDocument usualHandles ts

end ModuleKeeper.Yaml.Node
