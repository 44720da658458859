import Mathlib.Logic.Relation
import ModuleKeeper.Proofs.Closure

/-!
# Exact cycle detection

The depth-first search of `ModuleKeeper.Install.Cycle` refuses a list of names
exactly if the declarations among these names contain a cycle, and the cycle
that it reports is one.

Two invariants carry the proof, one for each way the search can end.  The way
to where the search stands is a simple path of declarations (`OnWay`); this is
what makes a reported cycle real.  The names that are done form a list in
which every name comes before the members that it declares (`Settled`); this
is what makes a search without a report conclusive, because no name of such a
list lies on a cycle.

## Main results

* `search_eq_error`: a reported cycle is a simple cycle among the members.
* `search_eq_ok`: what is done after a search without a report is settled.
* `cycle?_isSome_iff`: there is a report exactly if there is a cycle.
* `transitiveAdditions_refused_iff`: all of it for a transitive request.
-/

namespace ModuleKeeper.Install

open Relation

/-- A declaration between two names of a list. -/
def DeclaresWithin (catalog : Roster) (members : List Text) (n d : Text) : Prop :=
  n ∈ members ∧ d ∈ members ∧ Declares catalog n d

/-- Whether the declarations among the names of a list contain a directed cycle. -/
def Cyclic (catalog : Roster) (members : List Text) : Prop :=
  ∃ n, TransGen (DeclaresWithin catalog members) n n

/--
A closed path of declarations among the names of a list, written with its
first name again at the end and with no other repetition.
-/
structure SimpleCycle (catalog : Roster) (members path : List Text) : Prop where
  two_le : 2 ≤ path.length
  closes : path.head? = path.getLast?
  nodup : path.dropLast.Nodup
  within : ∀ n ∈ path, n ∈ members
  declares : path.IsChain (Declares catalog)

theorem SimpleCycle.cyclic {catalog : Roster} {members path : List Text}
    (h : SimpleCycle catalog members path) : Cyclic catalog members := by
  obtain ⟨hlen, hcloses, -, hwithin, hchain⟩ := h
  match path, hlen with
  | a :: b :: rest, _ =>
      have hedges : (a :: b :: rest).IsChain (DeclaresWithin catalog members) := by
        refine hchain.imp_of_mem_imp ?_
        intro x y hx hy hxy
        exact ⟨hwithin x hx, hwithin y hy, hxy⟩
      obtain ⟨hab, hrest⟩ := List.isChain_cons_cons.1 hedges
      have hreach : ReflTransGen (DeclaresWithin catalog members) b
          ((b :: rest).getLast (List.cons_ne_nil b rest)) :=
        List.relationReflTransGen_of_exists_isChain_cons rest hrest rfl
      have hlast : (b :: rest).getLast (List.cons_ne_nil b rest) = a := by
        rw [List.head?_cons, List.getLast?_cons_cons,
          List.getLast?_eq_some_getLast (List.cons_ne_nil b rest)] at hcloses
        exact (Option.some.inj hcloses).symm
      rw [hlast] at hreach
      exact ⟨a, TransGen.head' hab hreach⟩

theorem not_cyclic_nil (catalog : Roster) : ¬Cyclic catalog [] := by
  rintro ⟨n, hcycle⟩
  obtain ⟨_, hn, -⟩ := TransGen.head'_iff.1 hcycle
  exact List.not_mem_nil hn.1

theorem Cyclic.mono {catalog : Roster} {members more : List Text}
    (h : Cyclic catalog members) (hsub : ∀ n ∈ members, n ∈ more) : Cyclic catalog more := by
  obtain ⟨n, hcycle⟩ := h
  refine ⟨n, hcycle.lift id ?_⟩
  rintro a b ⟨ha, hb, hab⟩
  exact ⟨hsub a ha, hsub b hb, hab⟩

/-! ## The way of the search -/

/--
What holds of the way to where the search stands, last name first, and of the
names that it looks at there: the way is a simple path of declarations among
the members, and its last name declares the names that are looked at.
-/
structure OnWay (catalog : Roster) (members path names : List Text) : Prop where
  chain : path.IsChain fun d n => Declares catalog n d
  nodup : path.Nodup
  within : ∀ n ∈ path, n ∈ members
  next : ∀ n ∈ path.head?, ∀ d ∈ names, Declares catalog n d

theorem onWay_start (catalog : Roster) (members names : List Text) :
    OnWay catalog members [] names where
  chain := List.isChain_nil
  nodup := List.nodup_nil
  within := by simp
  next := by simp

theorem OnWay.rest {catalog : Roster} {members path names : List Text} {name : Text}
    (h : OnWay catalog members path (name :: names)) : OnWay catalog members path names :=
  { h with next := fun n hn d hd => h.next n hn d (List.mem_cons_of_mem _ hd) }

/-- The search goes down to a member that is not on its way. -/
theorem OnWay.down {catalog : Roster} {members path names : List Text} {name : Text}
    (h : OnWay catalog members path (name :: names)) (hpath : name ∉ path)
    (hmember : name ∈ members) :
    OnWay catalog members (name :: path) (catalog.dependenciesOf name) where
  chain := h.chain.cons fun n hn => h.next n hn name (by simp)
  nodup := List.nodup_cons.2 ⟨hpath, h.nodup⟩
  within := by
    intro n hn
    rcases List.mem_cons.1 hn with rfl | hn
    · exact hmember
    · exact h.within n hn
  next := by
    intro n hn d hd
    obtain rfl : name = n := by simpa using hn
    exact declares_iff.2 hd

/-- The way from a name on is its part before that name, then the name itself. -/
theorem takeWhile_ne_of_nodup {front back : List Text} {name : Text}
    (h : (front ++ name :: back).Nodup) :
    (front ++ name :: back).takeWhile (· ≠ name) = front := by
  have hfront : ∀ n ∈ front, n ≠ name := by
    intro n hn
    exact (List.nodup_append.1 h).2.2 n hn name (by simp)
  rw [List.takeWhile_append_of_pos (by simpa using hfront)]
  simp

/-- A name that is met on the way closes a simple cycle. -/
theorem OnWay.closing {catalog : Roster} {members path names : List Text} {name : Text}
    (h : OnWay catalog members path (name :: names)) (hpath : name ∈ path) :
    SimpleCycle catalog members (closing name path) := by
  obtain ⟨front, back, rfl⟩ := List.append_of_mem hpath
  have hsplit : front ++ name :: back = (front ++ [name]) ++ back := by simp
  have hsub : ∀ n ∈ front ++ [name], n ∈ front ++ name :: back := by
    intro n hn
    rw [hsplit]
    exact List.mem_append_left _ hn
  -- Read backwards, the cycle is the way down to `name` with `name` put before its last name.
  have hback : (name :: (front ++ [name])).IsChain fun d n => Declares catalog n d := by
    have hway := h.chain
    rw [hsplit] at hway
    refine hway.left_of_append.cons ?_
    intro n hn
    refine h.next n ?_ name (by simp)
    rw [hsplit, List.head?_append_of_ne_nil _ (by simp)]
    exact hn
  have hclosing : ModuleKeeper.Install.closing name (front ++ name :: back) =
      (name :: (front ++ [name])).reverse := by
    rw [ModuleKeeper.Install.closing, takeWhile_ne_of_nodup h.nodup]
    simp
  rw [hclosing]
  refine
    { two_le := by simp
      closes := by rw [List.getLast?_reverse]; simp
      nodup := ?_
      within := ?_
      declares := List.isChain_reverse.2 hback }
  · have hnodup := h.nodup
    rw [hsplit] at hnodup
    rw [List.dropLast_reverse, List.tail_cons]
    exact List.nodup_reverse.2 (List.nodup_append.1 hnodup).1
  · intro n hn
    refine h.within n (hsub n ?_)
    rcases List.mem_cons.1 (List.mem_reverse.1 hn) with rfl | hn
    · simp
    · exact hn

/-! ## Steps of the search -/

section Steps

variable {catalog : Roster} {members path done names : List Text} {name : Text}

theorem search_cons_done (hdone : name ∈ done) :
    search catalog members path done (name :: names) =
      search catalog members path done names := by
  rw [search, if_pos hdone]

theorem search_cons_closing (hdone : name ∉ done) (hpath : name ∈ path) :
    search catalog members path done (name :: names) = .error (closing name path) := by
  rw [search, if_neg hdone, if_pos hpath]

theorem search_cons_outside (hdone : name ∉ done) (hpath : name ∉ path)
    (hmember : name ∉ members) :
    search catalog members path done (name :: names) =
      search catalog members path done names := by
  rw [search, if_neg hdone, if_neg hpath, dif_neg hmember]

/-- The search behind a member comes first, and what is done then counts for the rest. -/
theorem search_cons_down (hdone : name ∉ done) (hpath : name ∉ path) (hmember : name ∈ members) :
    search catalog members path done (name :: names) =
      (search catalog members (name :: path) done (catalog.dependenciesOf name)).bind
        fun done => search catalog members path (name :: done) names := by
  rw [search, if_neg hdone, if_neg hpath, dif_pos hmember]
  cases search catalog members (name :: path) done (catalog.dependenciesOf name) <;> rfl

end Steps

/-! ## A report is real -/

theorem search_eq_error {catalog : Roster} {members path done names cycle : List Text}
    (hway : OnWay catalog members path names)
    (h : search catalog members path done names = .error cycle) :
    SimpleCycle catalog members cycle := by
  induction path, done, names using search.induct catalog members with
  | case1 path done =>
      rw [search_nil] at h
      cases h
  | case2 path done name names hdone ih =>
      rw [search_cons_done hdone] at h
      exact ih hway.rest h
  | case3 path done name names hdone hpath =>
      rw [search_cons_closing hdone hpath] at h
      obtain rfl : closing name path = cycle := Except.error.inj h
      exact hway.closing hpath
  | case4 path done name names hdone hpath hmember cycle' hdown ih =>
      rw [search_cons_down hdone hpath hmember, hdown] at h
      obtain rfl : cycle' = cycle := Except.error.inj h
      exact ih (hway.down hpath hmember) hdown
  | case5 path done name names hdone hpath hmember done' hdown _ ih =>
      rw [search_cons_down hdone hpath hmember, hdown] at h
      exact ih hway.rest h
  | case6 path done name names hdone hpath hmember ih =>
      rw [search_cons_outside hdone hpath hmember] at h
      exact ih hway.rest h

/-! ## No report is conclusive -/

/-- Names in an order in which each one comes before all members that it declares. -/
def Settled (catalog : Roster) (members : List Text) : List Text → Prop
  | [] => True
  | n :: rest => (∀ d ∈ members, Declares catalog n d → d ∈ rest) ∧ Settled catalog members rest

/-- A settled list holds whatever its names reach among the members. -/
theorem Settled.mem_of_reaches {catalog : Roster} {members done : List Text} {n d : Text}
    (h : Settled catalog members done) (hn : n ∈ done)
    (hreach : ReflTransGen (DeclaresWithin catalog members) n d) : d ∈ done := by
  have hstep : ∀ done, Settled catalog members done → ∀ n ∈ done, ∀ d,
      DeclaresWithin catalog members n d → d ∈ done := by
    intro done
    induction done with
    | nil => intro _ n hn; cases hn
    | cons x rest ih =>
        rintro ⟨hx, hrest⟩ n hn d hnd
        rcases List.mem_cons.1 hn with rfl | hn
        · exact List.mem_cons_of_mem _ (hx d hnd.2.1 hnd.2.2)
        · exact List.mem_cons_of_mem _ (ih hrest n hn d hnd)
  induction hreach with
  | refl => exact hn
  | tail _ hlast ih => exact hstep done h _ ih _ hlast

/-- No name of a settled list lies on a cycle. -/
theorem Settled.not_transGen {catalog : Roster} {members done : List Text}
    (h : Settled catalog members done) :
    ∀ n ∈ done, ¬TransGen (DeclaresWithin catalog members) n n := by
  induction done with
  | nil => intro n hn; cases hn
  | cons x rest ih =>
      obtain ⟨hx, hrest⟩ := h
      have hfree : ∀ n ∈ rest, ¬TransGen (DeclaresWithin catalog members) n n := ih hrest
      intro n hn hcycle
      by_cases hnrest : n ∈ rest
      · exact hfree n hnrest hcycle
      · -- A cycle through the first name goes through the rest, and so would stay there.
        obtain rfl : n = x := (List.mem_cons.1 hn).resolve_right hnrest
        obtain ⟨d, hnd, hback⟩ := TransGen.head'_iff.1 hcycle
        have hd : d ∈ rest := hx d hnd.2.1 hnd.2.2
        exact hnrest (hrest.mem_of_reaches hd hback)

theorem search_eq_ok {catalog : Roster} {members path done names done' : List Text}
    (hdone : Settled catalog members done)
    (h : search catalog members path done names = .ok done') :
    Settled catalog members done' ∧ (∀ n ∈ done, n ∈ done') ∧
      ∀ n ∈ names, n ∈ members → n ∈ done' := by
  induction path, done, names using search.induct catalog members generalizing done' with
  | case1 path done =>
      rw [search_nil] at h
      obtain rfl := Except.ok.inj h
      exact ⟨hdone, fun n hn => hn, by simp⟩
  | case2 path done name names hmem ih =>
      rw [search_cons_done hmem] at h
      obtain ⟨hsettled, hkeep, hall⟩ := ih hdone h
      refine ⟨hsettled, hkeep, ?_⟩
      intro n hn hmember
      rcases List.mem_cons.1 hn with rfl | hn
      · exact hkeep n hmem
      · exact hall n hn hmember
  | case3 path done name names hmem hpath =>
      rw [search_cons_closing hmem hpath] at h
      cases h
  | case4 path done name names hmem hpath hmember cycle hdown =>
      rw [search_cons_down hmem hpath hmember, hdown] at h
      cases h
  | case5 path done name names hmem hpath hmember done₁ hdown ihdown ihrest =>
      rw [search_cons_down hmem hpath hmember, hdown] at h
      obtain ⟨hsettled₁, hkeep₁, hall₁⟩ := ihdown hdone hdown
      -- All members that `name` declares are done before `name` is.
      have hname : Settled catalog members (name :: done₁) :=
        ⟨fun d hd hdecl => hall₁ d (declares_iff.1 hdecl) hd, hsettled₁⟩
      obtain ⟨hsettled, hkeep, hall⟩ := ihrest hname h
      refine ⟨hsettled, fun n hn => hkeep n (List.mem_cons_of_mem _ (hkeep₁ n hn)), ?_⟩
      intro n hn hnmember
      rcases List.mem_cons.1 hn with rfl | hn
      · exact hkeep n (by simp)
      · exact hall n hn hnmember
  | case6 path done name names hmem hpath hmember ih =>
      rw [search_cons_outside hmem hpath hmember] at h
      obtain ⟨hsettled, hkeep, hall⟩ := ih hdone h
      refine ⟨hsettled, hkeep, ?_⟩
      intro n hn hnmember
      rcases List.mem_cons.1 hn with rfl | hn
      · exact absurd hnmember hmember
      · exact hall n hn hnmember

/-! ## The search as a whole -/

theorem simpleCycle_of_cycle? {catalog : Roster} {members path : List Text}
    (h : cycle? catalog members = some path) : SimpleCycle catalog members path := by
  unfold cycle? at h
  split at h
  · rename_i cycle hsearch
    obtain rfl := Option.some.inj h
    exact search_eq_error (onWay_start catalog members members) hsearch
  · cases h

theorem not_cyclic_of_cycle? {catalog : Roster} {members : List Text}
    (h : cycle? catalog members = none) : ¬Cyclic catalog members := by
  unfold cycle? at h
  split at h
  · cases h
  · rename_i done hsearch
    have hnone : Settled catalog members [] := trivial
    obtain ⟨hsettled, -, hall⟩ := search_eq_ok hnone hsearch
    rintro ⟨n, hcycle⟩
    obtain ⟨d, hnd, -⟩ := TransGen.head'_iff.1 hcycle
    exact hsettled.not_transGen n (hall n hnd.1 hnd.1) hcycle

theorem cycle?_isSome_iff {catalog : Roster} {members : List Text} :
    (cycle? catalog members).isSome = true ↔ Cyclic catalog members := by
  cases h : cycle? catalog members with
  | none => simpa using not_cyclic_of_cycle? h
  | some path => simpa using (simpleCycle_of_cycle? h).cyclic

/--
**Cycle detection is exact.**  A transitive request is refused exactly if the
declarations among the requested names and the names that the search adds to
them contain a directed cycle.  It is refused for nothing else, and the path
that goes with the refusal is a simple cycle of declarations among these names.
-/
theorem transitiveAdditions_refused_iff (catalog installed : Roster) (names : List Text) :
    ((∃ path, additions catalog installed true names = .error (.cycle path)) ↔
        Cyclic catalog (hull catalog installed names)) ∧
      ∀ f, additions catalog installed true names = .error f →
        ∃ path, f = .cycle path ∧
          SimpleCycle catalog (hull catalog installed names) path := by
  rw [additions_true, ← cycle?_isSome_iff]
  cases h : cycle? catalog (hull catalog installed names) with
  | none =>
      refine ⟨by simp, ?_⟩
      intro f hf
      cases hf
  | some path =>
      refine ⟨by simp, ?_⟩
      intro f hf
      exact ⟨path, (Except.error.inj hf).symm, simpleCycle_of_cycle? h⟩

-- Where `mail` is not installed, `orders` and `mail` need each other.
example : additions shopCatalog ⟨[], List.nodup_nil⟩ true ["report"] =
    .error (.cycle ["orders", "mail", "orders"]) := by cbv

end ModuleKeeper.Install
