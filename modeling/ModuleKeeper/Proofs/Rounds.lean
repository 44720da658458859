import ModuleKeeper.Proofs.Closure

/-!
# The closure as a limit of rounds

The default mode adds one level of dependencies.  Here its names are fed back
into it, round after round.  The rounds come to an end, and where they end is
what the breadth-first search adds in one go, in the same order.

The search and the rounds meet at the ends of the levels.  A level of the
queue is looked at as a whole (`foundNames_level`), and the names of a round
behind which everything was seen add nothing new (`implied_append_implied`).

## Main results

* `hull_eq_rounds`: after each round, the search still has to look at the last
  level only.
* `transitiveAdditions_limit`: the rounds end with what a transitive request
  comes to.
-/

namespace ModuleKeeper.Install

/-- The names of a request after some rounds, in each of which the dependencies that the names
declare join them. -/
def rounds (catalog installed : Roster) (names : List Text) : Nat → List Text
  | 0 => names
  | k + 1 => rounds catalog installed names k ++
      implied catalog installed (rounds catalog installed names k)

variable {catalog installed : Roster} {names seen : List Text}

/-! ## Levels of the search -/

theorem unseen_congr {seen' : List Text} (h : ∀ n, n ∈ seen ↔ n ∈ seen') (names : List Text) :
    unseen installed seen names = unseen installed seen' names := by
  induction names generalizing seen seen' with
  | nil => rfl
  | cons d ds ih =>
      have hcons : ∀ n, n ∈ d :: seen ↔ n ∈ d :: seen' := by simp [h]
      simp only [unseen, h d, ih h, ih hcons]

theorem unseen_append (seen first second : List Text) :
    unseen installed seen (first ++ second) =
      unseen installed seen first ++
        unseen installed (seen ++ unseen installed seen first) second := by
  induction first generalizing seen with
  | nil => simp [unseen]
  | cons d ds ih =>
      rw [List.cons_append, unseen, unseen]
      split
      · exact ih seen
      · rw [ih, List.cons_append]
        congr 2
        exact unseen_congr (by simp [or_left_comm]) _

theorem unseen_eq_nil (h : ∀ d ∈ names, d ∈ installed.names ∨ d ∈ seen) :
    unseen installed seen names = [] := by
  rw [List.eq_nil_iff_forall_not_mem]
  intro d hd
  obtain ⟨hname, hi, hs⟩ := mem_unseen_iff.1 hd
  rcases h d hname with h | h
  · exact hi h
  · exact hs h

/-- A level of the queue is looked at as a whole; what it adds waits behind what waited already. -/
theorem foundNames_level (catalog installed : Roster) (seen level rest : List Text) :
    foundNames catalog installed seen (level ++ rest) =
      unseen installed seen (level.flatMap catalog.dependenciesOf) ++
        foundNames catalog installed
          (seen ++ unseen installed seen (level.flatMap catalog.dependenciesOf))
          (rest ++ unseen installed seen (level.flatMap catalog.dependenciesOf)) := by
  induction level generalizing seen rest with
  | nil => simp [unseen]
  | cons name level ih =>
      rw [List.cons_append, foundNames_cons, List.append_assoc, ih, List.flatMap_cons,
        unseen_append]
      simp only [List.append_assoc]

/-! ## Rounds -/

/-- Behind the names of a round everything was seen, so only the names that it added count. -/
theorem implied_append_implied (catalog installed : Roster) (names : List Text) :
    implied catalog installed (names ++ implied catalog installed names) =
      unseen installed (names ++ implied catalog installed names)
        ((implied catalog installed names).flatMap catalog.dependenciesOf) := by
  have hseen : unseen installed (names ++ implied catalog installed names)
      (names.flatMap catalog.dependenciesOf) = [] := by
    refine unseen_eq_nil fun d hd => ?_
    by_cases hi : d ∈ installed.names
    · exact Or.inl hi
    · by_cases hn : d ∈ names
      · exact Or.inr (List.mem_append_left _ hn)
      · exact Or.inr (List.mem_append_right _ (mem_unseen_iff.2 ⟨hd, hi, hn⟩))
  generalize hnew : implied catalog installed names = new at hseen ⊢
  rw [implied, List.flatMap_append, unseen_append, hseen, List.nil_append, List.append_nil]

/-- After each round, the search still has to look at the last level only. -/
theorem hull_eq_rounds (catalog installed : Roster) (names : List Text) (k : Nat) :
    hull catalog installed names =
      rounds catalog installed names (k + 1) ++
        foundNames catalog installed (rounds catalog installed names (k + 1))
          (implied catalog installed (rounds catalog installed names k)) := by
  induction k with
  | zero =>
      have hlevel := foundNames_level catalog installed names names []
      rw [List.append_nil, List.nil_append] at hlevel
      rw [hull, closure, found, ← foundNames, hlevel, ← List.append_assoc]
      rfl
  | succ k ih =>
      have hlevel := foundNames_level catalog installed (rounds catalog installed names (k + 1))
        (implied catalog installed (rounds catalog installed names k)) []
      have hnext := implied_append_implied catalog installed (rounds catalog installed names k)
      rw [← rounds] at hnext
      rw [List.append_nil, List.nil_append, ← hnext, ← rounds] at hlevel
      rw [ih, hlevel, ← List.append_assoc, ← rounds]

/-! ## The end of the rounds -/

theorem rounds_eq_of_implied_eq_nil {k : Nat}
    (h : implied catalog installed (rounds catalog installed names k) = []) {j : Nat}
    (hj : k ≤ j) : rounds catalog installed names j = rounds catalog installed names k := by
  induction j, hj using Nat.le_induction with
  | base => rfl
  | succ j _ ih => rw [rounds, ih, h, List.append_nil]

/-- Where the rounds end, nothing waits to be looked at. -/
theorem hull_eq_of_implied_eq_nil {k : Nat}
    (h : implied catalog installed (rounds catalog installed names k) = []) :
    hull catalog installed names = rounds catalog installed names k := by
  have hround := hull_eq_rounds catalog installed names k
  rw [h, foundNames_nil, List.append_nil, rounds, h, List.append_nil] at hround
  exact hround

theorem add_le_length_rounds {k : Nat}
    (h : ∀ j < k, implied catalog installed (rounds catalog installed names j) ≠ []) :
    names.length + k ≤ (rounds catalog installed names k).length := by
  induction k with
  | zero => exact Nat.le_refl _
  | succ k ih =>
      have hrest := ih fun j hj => h j (Nat.lt_succ_of_lt hj)
      have hlast := List.length_pos_iff.2 (h k (Nat.lt_succ_self k))
      rw [rounds, List.length_append]
      omega

/-- The rounds end after at most as many rounds as the search has additions. -/
theorem exists_implied_eq_nil (catalog installed : Roster) (names : List Text) :
    ∃ k ≤ (closure catalog installed names).length,
      implied catalog installed (rounds catalog installed names k) = [] := by
  by_contra hnone
  push Not at hnone
  -- Otherwise the names outgrow the hull that they are a part of.
  have hgrown := add_le_length_rounds (k := (closure catalog installed names).length + 1)
    fun j hj => hnone j (Nat.le_of_lt_succ hj)
  have hround := congrArg List.length
    (hull_eq_rounds catalog installed names (closure catalog installed names).length)
  simp only [hull, List.length_append] at hround
  omega

theorem implied_prefix_closure (catalog installed : Roster) (names : List Text) :
    implied catalog installed names <+: closure catalog installed names := by
  have hround := hull_eq_rounds catalog installed names 0
  rw [hull, rounds, rounds, List.append_assoc] at hround
  exact ⟨_, (List.append_cancel_left hround).symm⟩

/--
**The transitive mode is the limit of the default mode.**  When the names that
one level of dependencies adds are fed back, round after round, they stay as
they are from some round on.  If a transitive request is not refused, they are
then the requested names and what the request adds, in this order; and what
the default mode adds is the first part of it.
-/
theorem transitiveAdditions_limit (catalog installed : Roster) (names : List Text) :
    ∃ k, (∀ j, k ≤ j → rounds catalog installed names j = rounds catalog installed names k) ∧
      ∀ added, additions catalog installed true names = .ok added →
        rounds catalog installed names k = names ++ added ∧
          ∃ direct, additions catalog installed false names = .ok direct ∧ direct <+: added := by
  obtain ⟨k, -, hk⟩ := exists_implied_eq_nil catalog installed names
  refine ⟨k, fun j hj => rounds_eq_of_implied_eq_nil hk hj, ?_⟩
  intro added hadded
  obtain rfl := eq_closure_of_additions hadded
  refine ⟨(hull_eq_of_implied_eq_nil hk).symm, implied catalog installed names, rfl, ?_⟩
  exact implied_prefix_closure catalog installed names

/-- Where `mail` is installed, the rounds behind `orders` end with its two additions. -/
theorem transitiveAdditions_limit_orders :
    additions shopCatalog mailInstalled true ["orders"] = .ok ["stock", "units"] ∧
      ∃ k, (∀ j, k ≤ j → rounds shopCatalog mailInstalled ["orders"] j =
          ["orders", "stock", "units"]) ∧
        ∃ direct, additions shopCatalog mailInstalled false ["orders"] = .ok direct ∧
          direct <+: ["stock", "units"] := by
  have hadded : additions shopCatalog mailInstalled true ["orders"] =
      .ok ["stock", "units"] := by cbv
  obtain ⟨k, hend, hlimit⟩ := transitiveAdditions_limit shopCatalog mailInstalled ["orders"]
  obtain ⟨hk, hdirect⟩ := hlimit _ hadded
  exact ⟨hadded, k, fun j hj => (hend j hj).trans hk, hdirect⟩

-- `units` comes in the second round only: `stock` declares it, and so the default mode leaves it.
example : rounds shopCatalog mailInstalled ["orders"] 1 = ["orders", "stock"] := by cbv

end ModuleKeeper.Install
