import ModuleKeeper.Proofs.Firsts
import ModuleKeeper.Proofs.NodeTroubles
import ModuleKeeper.Yaml.Document

/-!
# What making values of nodes comes to

Values are made of the nodes of a document one by one, and mappings are merged
on the way, so the nodes change while the work goes on.  Each step either fails
or leads on, and this file says for all of them together what that means (`Ends`).

A step that fails does so for a trouble that has an explanation in the nodes.  A
step that leads on leaves what was made before as it was (`Grows`), and no map is ever
made that has two entries under one text (`TextsOnce`).

## Main results

* `TextsOnce.put`, `Orderly.note`: what keeps the work in order.
* `ends_make`, `ends_fill`, `ends_complete`: what the steps of the work come to.
* `accounted_of_value`, `textKeysOnce_of_value`: what a graph of nodes comes to.
-/

namespace ModuleKeeper.Yaml

namespace Assembly

open Node Node.Table

variable {t u : Table} {a b : Assembly} {n : Nat} {x : Trouble}

/-! ## The state of the work -/

/-- What was made is kept, and collections stay collections. -/
def Grows (a b : Assembly) : Prop :=
  ∀ n, (a.made? n).isSome → (b.made? n).isSome ∧ b.scalar? n = a.scalar? n

theorem Grows.refl (a : Assembly) : Grows a a := fun _ h => ⟨h, rfl⟩

theorem Grows.trans {c : Assembly} (h : Grows a b) (h' : Grows b c) : Grows a c := by
  intro n hn
  obtain ⟨hmade, hscalar⟩ := h n hn
  obtain ⟨hmade', hscalar'⟩ := h' n hmade
  exact ⟨hmade', hscalar'.trans hscalar⟩

theorem scalar?_eq_some_iff {v : Value} : a.scalar? n = some v ↔ a.made? n = some (.value v) := by
  unfold scalar?
  split
  · rename_i w hmade
    rw [hmade]
    simp
  · rename_i hnone
    refine iff_of_false nofun ?_
    exact fun hmade => hnone v hmade

theorem Grows.scalar (h : Grows a b) {v : Value} (hv : a.scalar? n = some v) :
    b.scalar? n = some v := by
  rw [(h n (by rw [scalar?_eq_some_iff.1 hv]; rfl)).2, hv]

/-- Entries with scalars as keys, of which no two are the same text. -/
structure TextsOnce (a : Assembly) (entries : List (Nat × Nat)) : Prop where
  scalars : ∀ e ∈ entries, (a.scalar? e.1).isSome
  once : entries.Pairwise fun e f => ∀ s, a.scalar? e.1 = some (.str s) →
    a.scalar? f.1 ≠ some (.str s)

theorem TextsOnce.nil (a : Assembly) : TextsOnce a [] := ⟨nofun, .nil⟩

theorem TextsOnce.grows {entries : List (Nat × Nat)} (h : TextsOnce a entries)
    (hgrows : Grows a b) : TextsOnce b entries := by
  have hsame : ∀ e ∈ entries, b.scalar? e.1 = a.scalar? e.1 := by
    intro e he
    obtain ⟨v, hv⟩ := Option.isSome_iff_exists.1 (h.scalars e he)
    rw [hgrows.scalar hv, hv]
  refine ⟨?_, ?_⟩
  · intro e he
    rw [hsame e he]
    exact h.scalars e he
  · refine h.once.imp_of_mem ?_
    intro e f he hf honce s
    rw [hsame e he, hsame f hf]
    exact honce s

/-! ### Setting an entry -/

/-- Two keys that are the same text are the same key. -/
theorem areSame_of_str {m : Nat} {s : Text} (hm : a.scalar? m = some (.str s))
    (hn : a.scalar? n = some (.str s)) : a.areSame m n = true := by
  have hsame : (Value.str s).sameKey (.str s) = true := by simp [Value.sameKey]
  have hm' : a.isUnique m = false := by rw [isUnique, hm]
  have hn' : a.isUnique n = false := by rw [isUnique, hn]
  rw [areSame, hm, hn, Bool.or_eq_true]
  dsimp only
  rw [hsame, hm', hn']
  exact .inr rfl

theorem fst_of_mem_put {key value : Nat} {entries : List (Nat × Nat)} {f : Nat × Nat}
    (h : f ∈ a.put key value entries) : f.1 = key ∨ ∃ e ∈ entries, f.1 = e.1 := by
  induction entries with
  | nil =>
      obtain rfl := List.mem_singleton.1 h
      exact .inl rfl
  | cons e es ih =>
      unfold put at h
      split at h
      · rcases List.mem_cons.1 h with rfl | hmem
        · exact .inr ⟨e, by simp, rfl⟩
        · exact .inr ⟨f, by simp [hmem], rfl⟩
      · rcases List.mem_cons.1 h with rfl | hmem
        · exact .inr ⟨f, by simp, rfl⟩
        · rcases ih hmem with hkey | ⟨e', he', hfst⟩
          · exact .inl hkey
          · exact .inr ⟨e', by simp [he'], hfst⟩

theorem TextsOnce.put {entries : List (Nat × Nat)} (h : TextsOnce a entries) {key : Nat}
    (hkey : (a.scalar? key).isSome) (value : Nat) : TextsOnce a (a.put key value entries) := by
  induction entries with
  | nil =>
      refine ⟨?_, List.pairwise_singleton _ _⟩
      intro e he
      obtain rfl := List.mem_singleton.1 he
      exact hkey
  | cons e es ih =>
      obtain ⟨hfirst, hrest⟩ := List.pairwise_cons.1 h.once
      obtain ⟨hscalar, hscalars⟩ := List.forall_mem_cons.1 h.scalars
      unfold Assembly.put
      split
      · -- The key is there already, and only its value is set.
        exact ⟨List.forall_mem_cons.2 ⟨hscalar, hscalars⟩, List.pairwise_cons.2 ⟨hfirst, hrest⟩⟩
      · rename_i hother
        have hput := ih ⟨hscalars, hrest⟩
        refine ⟨List.forall_mem_cons.2 ⟨hscalar, hput.scalars⟩,
          List.pairwise_cons.2 ⟨?_, hput.once⟩⟩
        intro f hf s hs
        rcases fst_of_mem_put hf with hfst | ⟨e', he', hfst⟩
        · rw [hfst]
          exact fun hs' => hother (areSame_of_str hs hs')
        · rw [hfst]
          exact hfirst e' he' s hs

/-! ### Notes -/

theorem made?_note (a : Assembly) (n m : Nat) (made : Made) :
    (a.note n made).made? m = if m = n ∧ n < a.made.size then some made else a.made? m := by
  unfold note made?
  dsimp only
  rw [Array.getElem?_setIfInBounds]
  by_cases hm : m = n
  · subst hm
    by_cases hsize : m < a.made.size
    · rw [if_pos rfl, if_pos hsize, if_pos ⟨rfl, hsize⟩]
      rfl
    · rw [if_pos rfl, if_neg hsize, if_neg (fun h => hsize h.2),
        Array.getElem?_eq_none (Nat.le_of_not_lt hsize)]
  · rw [if_neg (Ne.symm hm), if_neg (fun h => hm h.1)]

/-- A note about a node of which nothing was made. -/
theorem grows_note_of_none (h : a.made? n = none) (made : Made) : Grows a (a.note n made) := by
  intro m hm
  have hne : ¬(m = n ∧ n < a.made.size) := by
    rintro ⟨rfl, -⟩
    rw [h] at hm
    cases hm
  rw [scalar?, scalar?, made?_note, if_neg hne]
  exact ⟨hm, rfl⟩

/-- A note about a collection that is still a collection. -/
theorem grows_note_of_collection (h : a.scalar? n = none) {made : Made}
    (hmade : ∀ v, made ≠ .value v) : Grows a (a.note n made) := by
  intro m hm
  by_cases hnoted : m = n ∧ n < a.made.size
  · obtain ⟨rfl, -⟩ := id hnoted
    rw [h, scalar?, made?_note, if_pos hnoted]
    refine ⟨rfl, ?_⟩
    cases made with
    | value v => exact absurd rfl (hmade v)
    | _ => rfl
  · rw [scalar?, scalar?, made?_note, if_neg hnoted]
    exact ⟨hm, rfl⟩

/-! ## Steps -/

/-- The work in order: on nodes that come from those of the document, with maps that are maps. -/
structure Orderly (t : Table) (a : Assembly) : Prop where
  merged : MergedFrom t a.nodes
  maps : ∀ n entries, a.made? n = some (.map entries) → TextsOnce a entries
  values : ∀ n entries, a.made? n ≠ some (.value (.map entries))

/-- The work goes on. -/
structure Continues (t : Table) (a b : Assembly) : Prop where
  orderly : Orderly t b
  grows : Grows a b

/-- What a step comes to: something good, or a trouble that has an explanation. -/
abbrev Ends {β : Type} (t : Table) (good : β → Prop) : Except Trouble β → Prop :=
  Comes (Accounted t) good

theorem Continues.refl (h : Orderly t a) : Continues t a a := ⟨h, .refl a⟩

theorem Continues.trans {c : Assembly} (h : Continues t a b) (h' : Continues t b c) :
    Continues t a c := ⟨h'.orderly, h.grows.trans h'.grows⟩

/-- A note keeps the work in order if it is no map, or one without a text twice. -/
theorem Orderly.note (h : Orderly t a) {made : Made} (hgrows : Grows a (a.note n made))
    (hmap : ∀ entries, made = .map entries → TextsOnce a entries)
    (hvalue : ∀ entries, made ≠ .value (.map entries)) : Continues t a (a.note n made) := by
  refine ⟨⟨h.merged, ?_, ?_⟩, hgrows⟩
  · intro m entries hm
    rw [made?_note] at hm
    split at hm
    · exact (hmap entries (Option.some.inj hm)).grows hgrows
    · exact (h.maps m entries hm).grows hgrows
  · intro m entries hm
    rw [made?_note] at hm
    split at hm
    · exact hvalue entries (Option.some.inj hm)
    · exact h.values m entries hm

/-- What was made is in order with other nodes, and with another list of what is waiting. -/
theorem Orderly.withSame (h : Orderly t a) (hmerged : MergedFrom t b.nodes)
    (hmade : b.made = a.made) : Continues t a b := by
  have hsame : ∀ n, b.made? n = a.made? n := by
    intro n
    rw [made?, made?, hmade]
  have hgrows : Grows a b := by
    intro n hn
    rw [scalar?, scalar?, hsame]
    exact ⟨hn, rfl⟩
  refine ⟨⟨hmerged, ?_, ?_⟩, hgrows⟩
  · intro n entries hn
    rw [hsame] at hn
    exact (h.maps n entries hn).grows hgrows
  · intro n entries hn
    rw [hsame] at hn
    exact h.values n entries hn

/-- What a collection is announced with is no scalar, and has nothing in it. -/
theorem emptyOf?_eq_some {tag : Text} {made : Made} (h : emptyOf? tag = some made) :
    (∀ v, made ≠ .value v) ∧ ∀ entries, made = .map entries → entries = [] := by
  unfold emptyOf? at h
  split at h
  · cases h
    exact ⟨nofun, nofun⟩
  split at h
  · cases h
    exact ⟨nofun, fun entries hmap => (Made.map.inj hmap).symm⟩
  split at h
  · cases h
    exact ⟨nofun, nofun⟩
  split at h
  · cases h
    exact ⟨nofun, nofun⟩
  · cases h

theorem ends_make (h : Orderly t a) (n : Nat) : Ends t (Continues t a) (a.make n) := by
  unfold make
  split
  · exact .refl h
  · rename_i hnone
    have hgrows := grows_note_of_none (Option.not_isSome_iff_eq_none.1 hnone)
    cases hempty : emptyOf? (get a.nodes n).tag with
    | some made =>
        obtain ⟨hvalue, hmap⟩ := emptyOf?_eq_some hempty
        have hnote : Continues t a (a.note n made) := by
          refine h.note (hgrows made) ?_ fun _ => hvalue _
          intro entries hentries
          rw [hmap entries hentries]
          exact .nil a
        exact hnote.trans (hnote.orderly.withSame hnote.orderly.merged rfl)
    | none =>
        cases hvalue : scalarValue a.nodes n with
        | error x => exact accounted_scalarValue h.merged hvalue
        | ok v =>
            refine h.note (hgrows _) nofun ?_
            rintro entries ⟨⟩
            exact scalarValue_ne_map entries hvalue

theorem ends_foldlM {f : Assembly → Nat → Except Trouble Assembly}
    (hstep : ∀ a n, Orderly t a → Ends t (Continues t a) (f a n)) (ns : List Nat) :
    ∀ a, Orderly t a → Ends t (Continues t a) (ns.foldlM f a) := by
  induction ns with
  | nil => exact fun a h => .refl h
  | cons n ns ih =>
      intro a h
      rw [List.foldlM_cons]
      refine (hstep a n h).bind ?_
      intro b hb
      exact (ih b hb.orderly).imp (fun _ => id) fun c hc => hb.trans hc

/-! ### Entries -/

theorem ends_makeEntry (h : Orderly t a) {entries : List (Nat × Nat)} (ht : TextsOnce a entries)
    (e : Nat × Nat) :
    Ends t (fun r => Continues t a r.2 ∧ TextsOnce r.2 r.1) (makeEntry entries a e) := by
  unfold makeEntry
  refine (ends_make h e.1).bind ?_
  intro b hb
  split
  · rename_i hkey
    refine (ends_make hb.orderly e.2).bind ?_
    intro c hc
    have hkey' : (c.scalar? e.1).isSome := by
      obtain ⟨v, hv⟩ := Option.isSome_iff_exists.1 hkey
      rw [hc.grows.scalar hv]
      rfl
    exact ⟨hb.trans hc, ((ht.grows hb.grows).grows hc.grows).put hkey' e.2⟩
  · exact accounted_malformed

theorem ends_makeEntries (es : List (Nat × Nat)) :
    ∀ {entries : List (Nat × Nat)} {a : Assembly}, Orderly t a → TextsOnce a entries →
      Ends t (fun r => Continues t a r.2 ∧ TextsOnce r.2 r.1) (makeEntries entries a es) := by
  induction es with
  | nil => exact fun h ht => ⟨.refl h, ht⟩
  | cons e es ih =>
      intro entries a h ht
      unfold makeEntries
      refine (ends_makeEntry h ht e).elim (fun _ => id) fun r hstep => ?_
      have hrest := ih hstep.1.orderly hstep.2
      exact hrest.imp (fun _ => id) fun r' hr' => ⟨hstep.1.trans hr'.1, hr'.2⟩

theorem ends_makePairs (ns : List Nat) :
    ∀ (done : List (Nat × Nat)) {a : Assembly}, Orderly t a →
      Ends t (fun r => Continues t a r.2) (makePairs done a ns) := by
  induction ns with
  | nil => exact fun done a h => .refl h
  | cons n ns ih =>
      intro done a h
      have hpair : Ends t (fun _ => True) (pair? a.nodes n) := by
        unfold pair?
        split
        · trivial
        · exact accounted_malformed
      unfold makePairs
      refine hpair.bind ?_
      intro e _
      refine (ends_make h e.1).bind ?_
      intro b hb
      refine (ends_make hb.orderly e.2).bind ?_
      intro c hc
      exact (ih (e :: done) hc.orderly).imp (fun _ => id) fun r hr => (hb.trans hc).trans hr

/-! ### Collections -/

/-- A collection that was announced is still one, whatever was made since. -/
theorem Grows.noteCollection (h : Grows a b) {made made' : Made} (ha : a.made? n = some made)
    (hmade : ∀ v, made ≠ .value v) (hmade' : ∀ v, made' ≠ .value v) :
    Grows b (b.note n made') := by
  refine grows_note_of_collection ?_ hmade'
  rw [(h n (by rw [ha]; rfl)).2]
  refine Option.eq_none_iff_forall_ne_some.2 ?_
  intro v hv
  rw [scalar?_eq_some_iff, ha] at hv
  exact hmade v (Option.some.inj hv)

theorem ends_merged (h : Orderly t a) (n : Nat) :
    Ends t (fun u => Continues t a { a with nodes := u }) (merged a.nodes n) := by
  cases hmerged : merged a.nodes n with
  | error x =>
      have hmalformed := merged_merged a.nodes n
      rw [hmerged] at hmalformed
      obtain rfl : x = .malformed := hmalformed
      exact accounted_malformed
  | ok u => exact h.withSame (h.merged.tail ⟨n, hmerged⟩) rfl

theorem ends_fill (h : Orderly t a) (n : Nat) : Ends t (Continues t a) (a.fill n) := by
  have hmake := fun ns => ends_foldlM (t := t) (fun a n h => ends_make h n) ns a h
  unfold fill
  split
  case h_1 hmade _ =>
      refine (hmake _).map ?_
      intro b hb
      exact hb.trans (hb.orderly.note (hb.grows.noteCollection hmade nofun nofun) nofun nofun)
  case h_2 hmade _ =>
      refine (ends_makePairs _ [] h).map ?_
      intro r hr
      exact hr.trans (hr.orderly.note (hr.grows.noteCollection hmade nofun nofun) nofun nofun)
  case h_3 hmade _ =>
      refine (ends_merged h n).bind ?_
      intro u hu
      refine (ends_makeEntries _ hu.orderly (.nil _)).bind ?_
      rintro ⟨entries, b⟩ ⟨hb, htexts⟩
      have hall := hu.trans hb
      refine hall.trans (hall.orderly.note (hall.grows.noteCollection hmade nofun nofun) ?_ nofun)
      rintro _ ⟨⟩
      exact htexts
  case h_4 hmade _ =>
      refine (ends_merged h n).bind ?_
      intro u hu
      refine (ends_makeEntries _ hu.orderly (.nil _)).bind ?_
      rintro ⟨entries, b⟩ ⟨hb, -⟩
      have hall := hu.trans hb
      exact hall.trans (hall.orderly.note (hall.grows.noteCollection hmade nofun nofun) nofun nofun)
  case h_5 => exact .refl h
  case h_6 => exact accounted_malformed

theorem ends_fillAll (levels : Nat) :
    ∀ (ns : List Nat) {a : Assembly}, Orderly t a →
      Ends t (Continues t a) (fillAll levels ns a) := by
  induction levels with
  | zero => exact fun ns a h => .refl h
  | succ levels ih =>
      intro ns a h
      unfold fillAll
      split
      · exact .refl h
      · have hstart : Continues t a { a with waiting := [] } := h.withSame h.merged rfl
        have hfill := ends_foldlM (fun a n h => ends_fill h n) ns _ hstart.orderly
        refine hfill.elim (fun _ => id) fun b hb => ?_
        have hrest := ih b.waiting.reverse hb.orderly
        exact hrest.imp (fun _ => id) fun c hc => (hstart.trans hb).trans hc

theorem ends_complete (h : Orderly t a) (n : Nat) : Ends t (Continues t a) (a.complete n) := by
  unfold complete
  refine (ends_make h n).bind ?_
  intro b hb
  have hrest := ends_fillAll (b.nodes.size + 1) b.waiting.reverse hb.orderly
  exact hrest.imp (fun _ => id) fun c hc => hb.trans hc

theorem orderly_start (t : Table) : Orderly t (start t) := by
  have hnothing : ∀ n, (start t).made? n = none := by
    intro n
    unfold made? start
    dsimp only
    rw [Array.getElem?_replicate]
    split <;> rfl
  refine ⟨.refl, ?_, ?_⟩
  · intro n entries hn
    rw [hnothing] at hn
    cases hn
  · intro n entries hn
    rw [hnothing] at hn
    cases hn

/-! ## Values -/

/-- Entries of which no two have the same text as key. -/
def TextKeysOnce (entries : List (Value × Value)) : Prop :=
  entries.Pairwise fun e f => ∀ s, e.1 = .str s → f.1 ≠ .str s

theorem length_unfoldParts (unfold : Nat → Known → Unfolded × Known) (ns : List Nat) :
    ∀ known, (unfoldParts unfold known ns).1.1.length = ns.length := by
  induction ns with
  | nil => exact fun _ => rfl
  | cons n ns ih => exact fun known => congrArg (· + 1) (ih _)

theorem textKeysOnce_zip {entries : List (Nat × Nat)} (h : TextsOnce a entries) {vs : List Value}
    (hlength : vs.length = entries.length) :
    TextKeysOnce ((a.keys (entries.map (·.1))).zip vs) := by
  have hkeys : ((a.keys (entries.map (·.1))).zip vs).map (·.1) = a.keys (entries.map (·.1)) := by
    refine List.map_fst_zip (Nat.le_of_eq ?_)
    rw [keys, List.length_map, List.length_map, hlength]
  have honce : (((a.keys (entries.map (·.1))).zip vs).map (·.1)).Pairwise
      fun v w => ∀ s, v = Value.str s → w ≠ .str s := by
    rw [hkeys, keys, List.map_map, List.pairwise_map]
    refine h.once.imp ?_
    intro e f honce s he hf
    have htext : ∀ n, (a.scalar? n).getD .null = .str s → a.scalar? n = some (.str s) := by
      intro n hn
      cases hscalar : a.scalar? n with
      | none =>
          rw [hscalar] at hn
          cases hn
      | some v =>
          rw [hscalar] at hn
          exact congrArg some hn
    exact honce s (htext _ he) (htext _ hf)
  exact List.pairwise_map.1 honce

/-- What is no map is not unfolded to one. -/
theorem textKeysOnce_of_valueOf (h : Orderly t a) {entries : List (Value × Value)}
    (hvalue : a.valueOf n = .map entries) : TextKeysOnce entries := by
  unfold valueOf at hvalue
  dsimp only at hvalue
  split at hvalue
  · rename_i es hmade
    obtain rfl := Value.map.inj hvalue
    refine textKeysOnce_zip (h.maps n es hmade) ?_
    rw [length_unfoldParts, List.length_map]
  · rename_i hother
    -- Nothing is known when unfolding starts, so all is as it was made.
    exfalso
    unfold unfold at hvalue
    have hknown : ((Array.replicate a.nodes.size (none : Option Value))[n]?).join = none := by
      rw [Array.getElem?_replicate]
      split <;> rfl
    rw [hknown] at hvalue
    cases hmade : a.made? n with
    | none =>
        rw [hmade] at hvalue
        cases hvalue
    | some made =>
        rw [hmade] at hvalue
        cases made with
        | value v =>
            obtain rfl : v = .map entries := hvalue
            exact h.values n entries hmade
        | map es => exact hother es hmade
        | list ns => cases hvalue
        | set ns => cases hvalue
        | pairs ps => cases hvalue

end Assembly

namespace Node

/-- No value is made of a graph only if its nodes account for that. -/
theorem Graph.accounted_of_value {g : Graph} {x : Trouble} (h : g.value = .error x) :
    Assembly.Accounted g.nodes x := by
  have hcomplete := Assembly.ends_complete (Assembly.orderly_start g.nodes) g.root
  unfold Graph.value at h
  cases houtcome : (Assembly.start g.nodes).complete g.root with
  | ok a =>
      rw [houtcome] at h
      cases h
  | error y =>
      rw [houtcome] at h hcomplete
      cases h
      exact hcomplete

/-- A map that a graph stands for has no text twice as key. -/
theorem Graph.textKeysOnce_of_value {g : Graph} {entries : List (Value × Value)}
    (h : g.value = .ok (.map entries)) : Assembly.TextKeysOnce entries := by
  have hcomplete := Assembly.ends_complete (Assembly.orderly_start g.nodes) g.root
  unfold Graph.value at h
  cases houtcome : (Assembly.start g.nodes).complete g.root with
  | ok a =>
      rw [houtcome] at h hcomplete
      exact Assembly.textKeysOnce_of_valueOf hcomplete.orderly (Except.ok.inj h)
  | error y =>
      rw [houtcome] at h
      cases h

end Node

end ModuleKeeper.Yaml
