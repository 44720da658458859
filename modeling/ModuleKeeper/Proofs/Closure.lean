import ModuleKeeper.Proofs.Dependency

/-!
# The least closure

The breadth-first search of `ModuleKeeper.Install.Closure` adds exactly the
names that the requested ones need.  Its state is the pair of the names that
were seen and the names that wait in the queue.  Two facts about one round
carry everything: a round adds only names that a declaration forces, and the
names that were seen and no longer wait have all their declarations among
the seen ones (`Explored`).

## Main results

* `closedUnder_hull`: the requested names and what is added need nothing else.
* `mem_of_mem_hull`: every closed set that holds the requested names holds them
  all.
* `mem_closure_iff`: what is added, as reachability.
* `transitiveAdditions_isLeast`: all of it for an accepted request.
-/

namespace ModuleKeeper.Install

/-! ## Rounds of the search -/

/-- The names that a search adds when it has seen `seen` and `queue` waits. -/
def foundNames (catalog installed : Roster) (seen queue : List Text) : List Text :=
  (findings catalog installed seen queue).map Finding.name

theorem foundNames_nil (catalog installed : Roster) (seen : List Text) :
    foundNames catalog installed seen [] = [] := by
  rw [foundNames, findings, List.map_nil]

/-- One round: the new names behind the first waiting one come first. -/
theorem foundNames_cons (catalog installed : Roster) (seen : List Text) (name : Text)
    (queue : List Text) :
    foundNames catalog installed seen (name :: queue) =
      unseen installed seen (catalog.dependenciesOf name) ++
        foundNames catalog installed
          (seen ++ unseen installed seen (catalog.dependenciesOf name))
          (queue ++ unseen installed seen (catalog.dependenciesOf name)) := by
  rw [foundNames, findings]
  simp [foundNames, Function.comp_def]

theorem mem_unseen_dependencies {catalog installed : Roster} {seen : List Text} {name d : Text} :
    d ∈ unseen installed seen (catalog.dependenciesOf name) ↔
      Declares catalog name d ∧ d ∉ installed.names ∧ d ∉ seen := by
  rw [mem_unseen_iff, declares_iff]

/-- A search adds no name twice and none that is installed or was seen. -/
theorem foundNames_fresh (catalog installed : Roster) (seen queue : List Text) :
    (foundNames catalog installed seen queue).Nodup ∧
      ∀ d ∈ foundNames catalog installed seen queue, d ∉ installed.names ∧ d ∉ seen := by
  induction seen, queue using findings.induct catalog installed with
  | case1 seen => simp [foundNames_nil]
  | case2 seen name queue new ih =>
      obtain ⟨hnodup, hfresh⟩ := ih
      rw [foundNames_cons]
      refine ⟨?_, ?_⟩
      · refine (unseen_nodup _ _ _).append hnodup ?_
        intro d hd hlater
        exact (hfresh d hlater).2 (List.mem_append_right _ hd)
      · intro d hd
        rcases List.mem_append.1 hd with hnew | hlater
        · exact (mem_unseen_iff.1 hnew).2
        · obtain ⟨hi, hs⟩ := hfresh d hlater
          exact ⟨hi, fun h => hs (List.mem_append_left _ h)⟩

/-! ## Nothing is added without need -/

theorem mem_of_mem_foundNames {catalog installed : Roster} {s : Set Text} {seen queue : List Text}
    (hs : ClosedUnder catalog installed s) (hq : ∀ n ∈ queue, n ∈ s) :
    ∀ d ∈ foundNames catalog installed seen queue, d ∈ s := by
  induction seen, queue using findings.induct catalog installed with
  | case1 seen => simp [foundNames_nil]
  | case2 seen name queue new ih =>
      have hnew : ∀ d ∈ new, d ∈ s := by
        intro d hd
        obtain ⟨hdecl, hi, -⟩ := mem_unseen_dependencies.1 hd
        exact hs name (hq name (by simp)) d hdecl hi
      intro d hd
      rw [foundNames_cons] at hd
      rcases List.mem_append.1 hd with hd | hd
      · exact hnew d hd
      · refine ih ?_ d hd
        intro n hn
        rcases List.mem_append.1 hn with hn | hn
        · exact hq n (by simp [hn])
        · exact hnew n hn

/-- The names that a transitive request comes to: those requested and those added. -/
def hull (catalog installed : Roster) (names : List Text) : List Text :=
  names ++ closure catalog installed names

theorem hull_nil (catalog installed : Roster) : hull catalog installed [] = [] := by
  rw [hull, closure_nil, List.append_nil]

theorem mem_of_mem_hull {catalog installed : Roster} {s : Set Text} {names : List Text}
    (hs : ClosedUnder catalog installed s) (hn : ∀ n ∈ names, n ∈ s) :
    ∀ d ∈ hull catalog installed names, d ∈ s := by
  intro d hd
  rcases List.mem_append.1 hd with hd | hd
  · exact hn d hd
  · exact mem_of_mem_foundNames hs hn d hd

/-! ## Nothing is missing -/

/--
What a search keeps true of the names that it has seen: those that wait were
seen, and those that no longer wait have all their declarations among the
installed and the seen names.
-/
structure Explored (catalog installed : Roster) (seen queue : List Text) : Prop where
  queued : ∀ n ∈ queue, n ∈ seen
  behind : ∀ n ∈ seen, n ∉ queue → ∀ d, Declares catalog n d → d ∉ installed.names → d ∈ seen

theorem explored_start (catalog installed : Roster) (names : List Text) :
    Explored catalog installed names names where
  queued := fun _ hn => hn
  behind := fun _ hn hq => absurd hn hq

theorem Explored.round {catalog installed : Roster} {seen queue : List Text} {name : Text}
    (h : Explored catalog installed seen (name :: queue)) :
    Explored catalog installed
      (seen ++ unseen installed seen (catalog.dependenciesOf name))
      (queue ++ unseen installed seen (catalog.dependenciesOf name)) where
  queued := by
    intro n hn
    rcases List.mem_append.1 hn with hn | hn
    · exact List.mem_append_left _ (h.queued n (by simp [hn]))
    · exact List.mem_append_right _ hn
  behind := by
    intro n hn hq d hd hi
    have hqueue : n ∉ queue := fun hm => hq (List.mem_append_left _ hm)
    rcases List.mem_append.1 hn with hseen | hnew
    · by_cases hname : n = name
      · -- The round that just ended looked at all declarations of `name`.
        subst hname
        by_cases hds : d ∈ seen
        · exact List.mem_append_left _ hds
        · exact List.mem_append_right _ (mem_unseen_dependencies.2 ⟨hd, hi, hds⟩)
      · have hwait : n ∉ name :: queue := by simp [hname, hqueue]
        exact List.mem_append_left _ (h.behind n hseen hwait d hd hi)
    · exact absurd (List.mem_append_right _ hnew) hq

/-- When the queue is empty, the seen names need nothing else. -/
theorem Explored.closedUnder_append {catalog installed : Roster} {seen queue : List Text}
    (h : Explored catalog installed seen queue) :
    ClosedUnder catalog installed
      {n | n ∈ seen ++ foundNames catalog installed seen queue} := by
  induction seen, queue using findings.induct catalog installed with
  | case1 seen =>
      intro n hn d hd hi
      rw [foundNames_nil, List.append_nil] at hn ⊢
      exact h.behind n hn (by simp) d hd hi
  | case2 seen name queue new ih =>
      have hclosed := ih h.round
      rw [foundNames_cons, ← List.append_assoc]
      exact hclosed

theorem closedUnder_hull (catalog installed : Roster) (names : List Text) :
    ClosedUnder catalog installed {n | n ∈ hull catalog installed names} :=
  (explored_start catalog installed names).closedUnder_append

/-! ## The closure -/

theorem closure_nodup (catalog installed : Roster) (names : List Text) :
    (closure catalog installed names).Nodup :=
  (foundNames_fresh catalog installed names names).1

theorem not_mem_of_mem_closure {catalog installed : Roster} {names : List Text} {d : Text}
    (h : d ∈ closure catalog installed names) : d ∉ names ∧ d ∉ installed.names :=
  ((foundNames_fresh catalog installed names names).2 d h).symm

/-- No name of a hull is installed, if no requested name is. -/
theorem not_mem_installed_of_mem_hull {catalog installed : Roster} {names : List Text}
    (h : ∀ n ∈ names, n ∉ installed.names) :
    ∀ n ∈ hull catalog installed names, n ∉ installed.names := by
  intro n hn
  rcases List.mem_append.1 hn with hn | hn
  · exact h n hn
  · exact (not_mem_of_mem_closure hn).2

theorem mem_closure_iff {catalog installed : Roster} {names : List Text} {d : Text} :
    d ∈ closure catalog installed names ↔
      d ∉ names ∧ d ∉ installed.names ∧ ∃ start ∈ names, Reaches catalog installed start d := by
  constructor
  · intro h
    obtain ⟨hn, hi⟩ := not_mem_of_mem_closure h
    -- The requested names and the free names that they reach are a closed set.
    let reached : Set Text :=
      {n | n ∈ names ∨ n ∉ installed.names ∧ ∃ start ∈ names, Reaches catalog installed start n}
    have hclosed : ClosedUnder catalog installed reached := by
      rintro n (hnames | ⟨hfree, start, hstart, hreach⟩) d hd hdi
      · exact Or.inr ⟨hdi, n, hnames, Reaches.single hd⟩
      · exact Or.inr ⟨hdi, start, hstart, hreach.tail hfree hd⟩
    have hmem := mem_of_mem_hull hclosed (fun n hm => Or.inl hm) d (List.mem_append_right _ h)
    rcases hmem with hm | hm
    · exact absurd hm hn
    · exact ⟨hn, hm⟩
  · rintro ⟨hn, hi, start, hstart, hreach⟩
    have hmem := (closedUnder_hull catalog installed names).mem_of_reaches
      (List.mem_append_left _ hstart) hreach hi
    exact (List.mem_append.1 hmem).resolve_left hn

/-- What a transitive request comes to depends on the cycle search alone. -/
theorem additions_true (catalog installed : Roster) (names : List Text) :
    additions catalog installed true names =
      match cycle? catalog (hull catalog installed names) with
      | some path => .error (.cycle path)
      | none => .ok (closure catalog installed names) := rfl

theorem eq_closure_of_additions {catalog installed : Roster} {names added : List Text}
    (h : additions catalog installed true names = .ok added) :
    added = closure catalog installed names := by
  rw [additions_true] at h
  cases hc : cycle? catalog (hull catalog installed names) with
  | none =>
      rw [hc] at h
      exact (Except.ok.inj h).symm
  | some path =>
      rw [hc] at h
      cases h

/--
**The additions are the least solution.**  An accepted transitive request
adds each name once, none that was requested or is installed, and exactly
those that a chain of declarations behind a requested name comes to without
going through installed names.  With the requested names they need nothing
else, and every set with this property that holds the requested names holds
them all.
-/
theorem transitiveAdditions_isLeast (catalog installed : Roster) (names added : List Text)
    (h : additions catalog installed true names = .ok added) :
    added.Nodup ∧
      (∀ d ∈ added, d ∉ names ∧ d ∉ installed.names) ∧
      (∀ d, d ∈ added ↔ d ∉ names ∧ d ∉ installed.names ∧
        ∃ start ∈ names, Reaches catalog installed start d) ∧
      ClosedUnder catalog installed {n | n ∈ names ++ added} ∧
      ∀ s : Set Text, (∀ n ∈ names, n ∈ s) → ClosedUnder catalog installed s →
        ∀ d ∈ names ++ added, d ∈ s := by
  obtain rfl := eq_closure_of_additions h
  refine ⟨closure_nodup _ _ _, fun d hd => not_mem_of_mem_closure hd, fun d => mem_closure_iff,
    closedUnder_hull _ _ _, ?_⟩
  intro s hnames hs
  exact mem_of_mem_hull hs hnames

/-- `orders` needs `stock` and `units`; what `mail` declares does not count, it is installed. -/
theorem transitiveAdditions_orders :
    additions shopCatalog mailInstalled true ["orders"] = .ok ["stock", "units"] ∧
      ∀ s : Set Text, (∀ n ∈ [Text.ofString "orders"], n ∈ s) →
        ClosedUnder shopCatalog mailInstalled s →
          ∀ d ∈ [Text.ofString "orders"] ++ [Text.ofString "stock", Text.ofString "units"],
            d ∈ s := by
  have hadded : additions shopCatalog mailInstalled true ["orders"] =
      .ok ["stock", "units"] := by cbv
  obtain ⟨-, -, -, -, hleast⟩ := transitiveAdditions_isLeast _ _ _ _ hadded
  exact ⟨hadded, hleast⟩

end ModuleKeeper.Install
