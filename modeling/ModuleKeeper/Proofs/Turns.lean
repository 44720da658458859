import ModuleKeeper.Proofs.Closure

/-!
# The turns of the closure search

The breadth-first search of `ModuleKeeper.Install.Closure` as a loop: each turn
takes the first name from the queue and lets the new names that it declares
join the seen names, the additions and the end of the queue.

The queue grows while it is used up, so it is not plain when it is empty.  But
names join it together with the additions only, and an addition was never seen
before (`Queued`).  So what is ever taken from it are the requested names and
the additions.

## Main results

* `turns_foundNames`: a search from anywhere ends after as many turns as names
  wait or are still to be found.
* `Queued.turn`, `queued_turns`: every addition joins the queue once.
-/

namespace ModuleKeeper.Install

/-- Where the search for a closure stands. -/
structure Worklist where
  /-- The names that were taken from the queue, in order. -/
  taken : List Text
  queue : List Text
  seen : List Text
  added : List Text
  deriving DecidableEq

namespace Worklist

/-- The search before its first turn. -/
def start (names : List Text) : Worklist := ⟨[], names, names, []⟩

/-- The search after a turn; there is none when nothing waits. -/
def turn? (catalog installed : Roster) (w : Worklist) : Option Worklist :=
  match w.queue with
  | [] => none
  | name :: queue =>
    let new := unseen installed w.seen (catalog.dependenciesOf name)
    some ⟨w.taken ++ [name], queue ++ new, w.seen ++ new, w.added ++ new⟩

/-- The search after a number of turns, if it goes on for as many. -/
def turns? (catalog installed : Roster) : Nat → Worklist → Option Worklist
  | 0, w => some w
  | k + 1, w => (turn? catalog installed w).bind (turns? catalog installed k)

variable {catalog installed : Roster}

theorem turn?_cons (taken : List Text) (name : Text) (queue seen added : List Text) :
    turn? catalog installed ⟨taken, name :: queue, seen, added⟩ =
      some ⟨taken ++ [name], queue ++ unseen installed seen (catalog.dependenciesOf name),
        seen ++ unseen installed seen (catalog.dependenciesOf name),
        added ++ unseen installed seen (catalog.dependenciesOf name)⟩ := rfl

/-- A search whose queue is empty is over. -/
theorem turn?_nil (taken seen added : List Text) :
    turn? catalog installed ⟨taken, [], seen, added⟩ = none := rfl

/-! ## How many turns there are -/

/-- A search takes every name that waits and every name that it still finds, each in one turn. -/
theorem turns_foundNames (catalog installed : Roster) (taken queue seen added : List Text) :
    turns? catalog installed (queue.length + (foundNames catalog installed seen queue).length)
        ⟨taken, queue, seen, added⟩ =
      some ⟨taken ++ queue ++ foundNames catalog installed seen queue, [],
        seen ++ foundNames catalog installed seen queue,
        added ++ foundNames catalog installed seen queue⟩ := by
  induction seen, queue using findings.induct catalog installed generalizing taken added with
  | case1 seen => simp [foundNames_nil, turns?]
  | case2 seen name queue new ih =>
      have hfound : foundNames catalog installed seen (name :: queue) =
          new ++ foundNames catalog installed (seen ++ new) (queue ++ new) :=
        foundNames_cons catalog installed seen name queue
      have hcount : (name :: queue).length +
          (new ++ foundNames catalog installed (seen ++ new) (queue ++ new)).length =
          (queue ++ new).length +
            (foundNames catalog installed (seen ++ new) (queue ++ new)).length + 1 := by
        simp only [List.length_cons, List.length_append]
        omega
      rw [hfound, hcount, turns?, turn?_cons, Option.bind_some, ih]
      simp only [List.append_assoc, List.cons_append, List.nil_append]
      rfl

/-- A search that comes to an empty queue goes on until then and no longer. -/
theorem isSome_turns?_iff {n : Nat} {w last : Worklist}
    (h : turns? catalog installed n w = some last) (hlast : last.queue = []) (k : Nat) :
    (turns? catalog installed k w).isSome = true ↔ k ≤ n := by
  induction n generalizing w k with
  | zero =>
      obtain rfl : w = last := Option.some.inj h
      obtain ⟨taken, queue, seen, added⟩ := w
      obtain rfl : queue = [] := hlast
      cases k with
      | zero => exact iff_of_true rfl (Nat.le_refl 0)
      | succ k =>
          rw [turns?, turn?_nil, Option.bind_none]
          exact iff_of_false nofun (Nat.not_succ_le_zero k)
  | succ n ih =>
      obtain ⟨next, hturn, hrest⟩ := Option.bind_eq_some_iff.1 h
      cases k with
      | zero => exact iff_of_true rfl (Nat.zero_le _)
      | succ k =>
          rw [turns?, hturn, Option.bind_some, ih hrest, Nat.succ_le_succ_iff]

/-! ## What joins the queue -/

/--
What the turns keep true: the names that were ever in the queue are the requested ones and
the additions, and every addition is new when it joins.
-/
structure Queued (names : List Text) (w : Worklist) : Prop where
  joined : w.taken ++ w.queue = names ++ w.added
  seen : w.seen = names ++ w.added
  nodup : w.added.Nodup
  fresh : ∀ d ∈ w.added, d ∉ names

theorem queued_start (names : List Text) : Queued names (start names) where
  joined := (List.append_nil names).symm
  seen := (List.append_nil names).symm
  nodup := List.nodup_nil
  fresh := nofun

theorem Queued.turn {names : List Text} {w w' : Worklist} (h : Queued names w)
    (hturn : turn? catalog installed w = some w') : Queued names w' := by
  obtain ⟨taken, queue, seen, added⟩ := w
  cases queue with
  | nil => cases hturn
  | cons name queue =>
      rw [turn?_cons] at hturn
      obtain rfl := Option.some.inj hturn
      have hjoined : taken ++ name :: queue = names ++ added := h.joined
      have hseen : seen = names ++ added := h.seen
      have hnew : ∀ d ∈ unseen installed seen (catalog.dependenciesOf name),
          d ∉ names ∧ d ∉ added := by
        intro d hd
        have hunseen : d ∉ seen := (mem_unseen_iff.1 hd).2.2
        rw [hseen] at hunseen
        exact ⟨fun hn => hunseen (List.mem_append_left _ hn),
          fun ha => hunseen (List.mem_append_right _ ha)⟩
      have hnodup : (unseen installed seen (catalog.dependenciesOf name)).Nodup :=
        unseen_nodup _ _ _
      generalize unseen installed seen (catalog.dependenciesOf name) = new at hnew hnodup ⊢
      exact
        { joined := by
            rw [← List.append_assoc, ← List.append_assoc, ← hjoined, List.append_assoc taken]
            rfl
          seen := by rw [hseen, List.append_assoc]
          nodup := h.nodup.append hnodup fun d hadded hd => (hnew d hd).2 hadded
          fresh := fun d hd =>
            (List.mem_append.1 hd).elim (h.fresh d) fun hd => (hnew d hd).1 }

theorem queued_turns {names : List Text} {w w' : Worklist} (h : Queued names w) {k : Nat}
    (hturns : turns? catalog installed k w = some w') : Queued names w' := by
  induction k generalizing w with
  | zero => exact Option.some.inj hturns ▸ h
  | succ k ih =>
      obtain ⟨next, hturn, hrest⟩ := Option.bind_eq_some_iff.1 hturns
      exact ih (h.turn hturn) hrest

end Worklist

end ModuleKeeper.Install
