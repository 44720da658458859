import Mathlib.Data.Finset.Card
import Mathlib.Logic.Relation
import ModuleKeeper.Proofs.Cycle
import ModuleKeeper.Proofs.Turns

/-!
# The moves of the cycle search

The depth-first search of `ModuleKeeper.Install.Cycle` as a machine that moves
one step at a time: a visit of a name begins, returns at once or goes on the
way, and the loop of the innermost visit looks at its next name.  What a visit
has still to look at is kept in the machine, so the visits that are under way
can be counted at every moment.

One invariant carries all bounds (`OnCourse`): the names on the way and the
names that are done are distinct, and they are the names whose dependencies
were looked at.  That the machine ends, and with what the search finds, is
read off the search (`runs_of_search_eq_ok`, `runs_of_search_eq_error`),
because a machine with one move at a time has one run only.

## Main results

* `Move.unique`: there is one move at a time.
* `OnCourse.move`: what a move keeps true of the way and the done names.
* `exists_end`: every run goes on to one end, where it reports what the search
  finds.
* `searches_terminate`: both searches end, and within which bounds.
-/

namespace ModuleKeeper.Install

open Relation

/-- Where a search for cycles stands. -/
structure Standing where
  /-- The name whose visit begins, if one does. -/
  entered : Option Text
  /--
  What the loops that are under way have still to look at, the innermost loop first.  The
  last one goes through the members, each other one through what a name on the way declares.
  -/
  loops : List (List Text)
  /-- The names on the way, last name first. -/
  path : List Text
  /-- The names behind which there is no cycle. -/
  done : List Text
  /-- The names whose dependencies a loop has begun to look at, last name first. -/
  scanned : List Text

namespace Standing

/-- The search before its first move. -/
def start (members : List Text) : Standing := ⟨none, [members], [], [], []⟩

/-- How many visits are under way: one for each loop but the last, and one that begins. -/
def depth (s : Standing) : Nat := s.loops.length - 1 + s.entered.toList.length

/-- The cycle that a search reports where it stops: the one that the entered name closes. -/
def report (s : Standing) : Option (List Text) := s.entered.map fun name => closing name s.path

end Standing

/-- The moves of a search for cycles. -/
inductive Move (catalog : Roster) (members : List Text) : Standing → Standing → Prop
  /-- A name that is no member is passed over. -/
  | pass {name names loops path done scanned} (houtside : name ∉ members) :
      Move catalog members ⟨none, (name :: names) :: loops, path, done, scanned⟩
        ⟨none, names :: loops, path, done, scanned⟩
  /-- The visit of a member begins. -/
  | enter {name names loops path done scanned} (hmember : name ∈ members) :
      Move catalog members ⟨none, (name :: names) :: loops, path, done, scanned⟩
        ⟨some name, names :: loops, path, done, scanned⟩
  /-- The visit of a name that is done returns at once. -/
  | known {name loops path done scanned} (hdone : name ∈ done) :
      Move catalog members ⟨some name, loops, path, done, scanned⟩
        ⟨none, loops, path, done, scanned⟩
  /-- The visit of a new name goes on the way and looks at what the name declares. -/
  | scan {name loops path done scanned} (hdone : name ∉ done) (hpath : name ∉ path) :
      Move catalog members ⟨some name, loops, path, done, scanned⟩
        ⟨none, catalog.dependenciesOf name :: loops, name :: path, done, name :: scanned⟩
  /-- A visit that has looked at everything leaves the way, and its name is done. -/
  | leave {name loop loops path done scanned} :
      Move catalog members ⟨none, [] :: loop :: loops, name :: path, done, scanned⟩
        ⟨none, loop :: loops, path, name :: done, scanned⟩

/-- Runs of a search for cycles. -/
abbrev Runs (catalog : Roster) (members : List Text) : Standing → Standing → Prop :=
  ReflTransGen (Move catalog members)

variable {catalog : Roster} {members : List Text} {s t : Standing}

/-- There is one move at a time. -/
theorem Move.unique {u : Standing} (ht : Move catalog members s t)
    (hu : Move catalog members s u) : t = u := by
  cases ht with
  | pass houtside =>
      cases hu with
      | pass => rfl
      | enter hmember => exact absurd hmember houtside
  | enter hmember =>
      cases hu with
      | pass houtside => exact absurd hmember houtside
      | enter => rfl
  | known hdone =>
      cases hu with
      | known => rfl
      | scan hopen => exact absurd hdone hopen
  | scan hopen hpath =>
      cases hu with
      | known hdone => exact absurd hdone hopen
      | scan => rfl
  | leave =>
      cases hu with
      | leave => rfl

/-! ## What the moves keep true -/

/--
What holds wherever a search stands: a visit begins for a member, the way leads through
members, no name is on the way or done twice, these are the names whose dependencies were
looked at, and every name on the way has its loop.
-/
structure OnCourse (members : List Text) (s : Standing) : Prop where
  entered : ∀ name ∈ s.entered, name ∈ members
  within : ∀ name ∈ s.path, name ∈ members
  apart : (s.path ++ s.done).Nodup
  scanned : s.scanned.Perm (s.path ++ s.done)
  loops : s.loops.length = s.path.length + 1

theorem onCourse_start (members : List Text) : OnCourse members (.start members) where
  entered := nofun
  within := nofun
  apart := List.nodup_nil
  scanned := .nil
  loops := rfl

theorem OnCourse.move (h : OnCourse members s) (hmove : Move catalog members s t) :
    OnCourse members t := by
  cases hmove with
  | pass => exact { h with loops := h.loops }
  | enter hmember =>
      exact { h with entered := fun _ hname => Option.some.inj hname ▸ hmember, loops := h.loops }
  | known => exact { h with entered := nofun }
  | @scan name loops path done scanned hdone hpath =>
      have hfresh : name ∉ path ++ done := fun hmem =>
        (List.mem_append.1 hmem).elim hpath hdone
      exact
        { entered := nofun
          within := by
            intro n hn
            rcases List.mem_cons.1 hn with rfl | hn
            · exact h.entered n rfl
            · exact h.within n hn
          apart := List.nodup_cons.2 ⟨hfresh, h.apart⟩
          scanned := h.scanned.cons name
          loops := congrArg (· + 1) h.loops }
  | @leave name loop loops path done scanned =>
      have hmiddle : (path ++ name :: done).Perm (name :: path ++ done) := List.perm_middle
      exact
        { entered := nofun
          within := fun n hn => h.within n (List.mem_cons_of_mem _ hn)
          apart := hmiddle.nodup_iff.2 h.apart
          scanned := h.scanned.trans hmiddle.symm
          loops := Nat.succ.inj h.loops }

theorem OnCourse.runs (h : OnCourse members s) (hruns : Runs catalog members s t) :
    OnCourse members t := by
  induction hruns with
  | refl => exact h
  | tail _ hmove ih => exact ih.move hmove

/-- The way is no longer than the members are many. -/
theorem OnCourse.length_path_le (h : OnCourse members s) :
    s.path.length ≤ members.toFinset.card := by
  have hnodup : s.path.Nodup := h.apart.of_append_left
  rw [← List.toFinset_card_of_nodup hnodup]
  refine Finset.card_le_card fun name hname => ?_
  exact List.mem_toFinset.2 (h.within name (List.mem_toFinset.1 hname))

/-- Besides the visits of the names on the way there is at most the one that begins. -/
theorem OnCourse.depth_le (h : OnCourse members s) : s.depth ≤ members.toFinset.card + 1 := by
  have hloops := h.loops
  have hpath := h.length_path_le
  have hentered : s.entered.toList.length ≤ 1 := by
    cases s.entered <;> simp
  unfold Standing.depth
  omega

/-! ## What the search does is what the machine does -/

theorem runs_of_search_eq_ok {path done names done' : List Text}
    (h : search catalog members path done names = .ok done')
    (loops : List (List Text)) (scanned : List Text) :
    ∃ scanned', Runs catalog members ⟨none, names :: loops, path, done, scanned⟩
      ⟨none, [] :: loops, path, done', scanned'⟩ := by
  induction path, done, names using search.induct catalog members
    generalizing done' loops scanned with
  | case1 path done =>
      rw [search_nil] at h
      obtain rfl := Except.ok.inj h
      exact ⟨scanned, .refl⟩
  | case2 path done name names hdone ih =>
      rw [search_cons_done hdone] at h
      obtain ⟨scanned', hrest⟩ := ih h loops scanned
      by_cases hmember : name ∈ members
      · exact ⟨scanned', .head (.enter hmember) (.head (.known hdone) hrest)⟩
      · exact ⟨scanned', .head (.pass hmember) hrest⟩
  | case3 path done name names hdone hpath =>
      rw [search_cons_closing hdone hpath] at h
      cases h
  | case4 path done name names hdone hpath hmember cycle hdown =>
      rw [search_cons_down hdone hpath hmember, hdown] at h
      cases h
  | case5 path done name names hdone hpath hmember done₁ hdown ihdown ihrest =>
      rw [search_cons_down hdone hpath hmember, hdown] at h
      obtain ⟨scanned₁, hvisit⟩ := ihdown hdown (names :: loops) (name :: scanned)
      obtain ⟨scanned', hrest⟩ := ihrest h loops scanned₁
      refine ⟨scanned', .head (.enter hmember) (.head (.scan hdone hpath) ?_)⟩
      exact hvisit.trans (.head .leave hrest)
  | case6 path done name names hdone hpath hmember ih =>
      rw [search_cons_outside hdone hpath hmember] at h
      obtain ⟨scanned', hrest⟩ := ih h loops scanned
      exact ⟨scanned', .head (.pass hmember) hrest⟩

/-- Where the search reports a cycle, the machine stands at the name that closes it. -/
theorem runs_of_search_eq_error {path done names cycle : List Text}
    (h : search catalog members path done names = .error cycle)
    (hpath : ∀ name ∈ path, name ∈ members) (loops : List (List Text)) (scanned : List Text) :
    ∃ name loops' path' done' scanned',
      Runs catalog members ⟨none, names :: loops, path, done, scanned⟩
        ⟨some name, loops', path', done', scanned'⟩ ∧
      name ∉ done' ∧ name ∈ path' ∧ closing name path' = cycle := by
  induction path, done, names using search.induct catalog members
    generalizing loops scanned with
  | case1 path done =>
      rw [search_nil] at h
      cases h
  | case2 path done name names hdone ih =>
      rw [search_cons_done hdone] at h
      obtain ⟨stop, loops', path', done', scanned', hrest, hstop⟩ := ih h hpath loops scanned
      refine ⟨stop, loops', path', done', scanned', ?_, hstop⟩
      by_cases hmember : name ∈ members
      · exact .head (.enter hmember) (.head (.known hdone) hrest)
      · exact .head (.pass hmember) hrest
  | case3 path done name names hdone hon =>
      rw [search_cons_closing hdone hon] at h
      exact ⟨name, names :: loops, path, done, scanned, .single (.enter (hpath name hon)), hdone,
        hon, Except.error.inj h⟩
  | case4 path done name names hdone hon hmember cycle' hdown ih =>
      rw [search_cons_down hdone hon hmember, hdown] at h
      obtain rfl : cycle' = cycle := Except.error.inj h
      have hdownPath : ∀ n ∈ name :: path, n ∈ members :=
        List.forall_mem_cons.2 ⟨hmember, hpath⟩
      obtain ⟨stop, loops', path', done', scanned', hvisit, hstop⟩ :=
        ih hdown hdownPath (names :: loops) (name :: scanned)
      exact ⟨stop, loops', path', done', scanned',
        .head (.enter hmember) (.head (.scan hdone hon) hvisit), hstop⟩
  | case5 path done name names hdone hon hmember done₁ hdown _ ihrest =>
      rw [search_cons_down hdone hon hmember, hdown] at h
      obtain ⟨scanned₁, hvisit⟩ := runs_of_search_eq_ok hdown (names :: loops) (name :: scanned)
      obtain ⟨stop, loops', path', done', scanned', hrest, hstop⟩ := ihrest h hpath loops scanned₁
      refine ⟨stop, loops', path', done', scanned', ?_, hstop⟩
      exact .head (.enter hmember) (.head (.scan hdone hon) (hvisit.trans (.head .leave hrest)))
  | case6 path done name names hdone hon hmember ih =>
      rw [search_cons_outside hdone hon hmember] at h
      obtain ⟨stop, loops', path', done', scanned', hrest, hstop⟩ := ih h hpath loops scanned
      exact ⟨stop, loops', path', done', scanned', .head (.pass hmember) hrest, hstop⟩

/-- The machine comes to an end, where it reports what the search finds. -/
theorem exists_end (catalog : Roster) (members : List Text) :
    ∃ last, Runs catalog members (.start members) last ∧ (∀ t, ¬Move catalog members last t) ∧
      last.report = cycle? catalog members := by
  unfold cycle?
  cases h : search catalog members [] [] members with
  | error cycle =>
      obtain ⟨name, loops, path, done, scanned, hruns, hdone, hpath, rfl⟩ :=
        runs_of_search_eq_error h nofun [] []
      refine ⟨_, hruns, ?_, rfl⟩
      intro t hmove
      cases hmove with
      | known hmem => exact hdone hmem
      | scan _ hnew => exact hnew hpath
  | ok done =>
      obtain ⟨scanned, hruns⟩ := runs_of_search_eq_ok h [] []
      exact ⟨_, hruns, nofun, rfl⟩

/-- A machine that comes to an end, with one move at a time, goes on to this end from everywhere. -/
theorem Runs.to_last {last : Standing} (hlast : Runs catalog members s last)
    (hend : ∀ t, ¬Move catalog members last t) (ht : Runs catalog members s t) :
    Runs catalog members t last := by
  have hunique : Relator.RightUnique (Move catalog members) := fun _ _ _ => Move.unique
  rcases ReflTransGen.total_of_right_unique hunique ht hlast with h | h
  · exact h
  · rcases ReflTransGen.cases_head_iff.1 h with rfl | ⟨u, hmove, -⟩
    · exact .refl
    · exact absurd hmove (hend u)

/-- So it has no run without an end. -/
theorem Runs.acc {last : Standing} (hlast : Runs catalog members s last)
    (hend : ∀ t, ¬Move catalog members last t) : Acc (fun t s => Move catalog members s t) s := by
  induction hlast using ReflTransGen.head_induction_on with
  | refl => exact .intro _ fun t hmove => absurd hmove (hend t)
  | head hmove _ ih => exact .intro _ fun t hother => hother.unique hmove ▸ ih

/--
**Both searches end, and this soon.**  The search for a closure takes as many turns as
names were requested and are added, and no more.  What is ever in its queue are the
requested names and then the additions, each of which joins it once.  The search for
cycles has no run without an end, and every run goes on to the end where the cycle is
reported that is found.  Wherever it stands, no name is on its way twice, all names there
are nodes, at most one more visit is under way than there are nodes, and the dependencies
of no node were looked at twice.
-/
theorem searches_terminate (catalog installed : Roster) (names nodes : List Text) :
    ((∀ k, (Worklist.turns? catalog installed k (.start names)).isSome = true ↔
        k ≤ names.length + (closure catalog installed names).length) ∧
      Worklist.turns? catalog installed
          (names.length + (closure catalog installed names).length) (.start names) =
        some ⟨names ++ closure catalog installed names, [],
          names ++ closure catalog installed names, closure catalog installed names⟩ ∧
      ∀ k w, Worklist.turns? catalog installed k (.start names) = some w → w.Queued names) ∧
    Acc (fun t s => Move catalog nodes s t) (.start nodes) ∧
    (∃ last, (∀ s, Runs catalog nodes (.start nodes) s → Runs catalog nodes s last) ∧
      (∀ t, ¬Move catalog nodes last t) ∧ last.report = cycle? catalog nodes) ∧
    ∀ s, Runs catalog nodes (.start nodes) s →
      s.path.Nodup ∧ (∀ name ∈ s.path, name ∈ nodes) ∧ s.depth ≤ nodes.toFinset.card + 1 ∧
        s.scanned.Nodup := by
  have hturns := Worklist.turns_foundNames catalog installed [] names names []
  rw [List.nil_append, List.nil_append] at hturns
  obtain ⟨last, hlast, hend, hreport⟩ := exists_end catalog nodes
  refine ⟨⟨Worklist.isSome_turns?_iff hturns rfl, hturns, fun k w hw => ?_⟩, hlast.acc hend,
    ⟨last, fun s hs => hlast.to_last hend hs, hend, hreport⟩, fun s hs => ?_⟩
  · exact Worklist.queued_turns (Worklist.queued_start names) hw
  · have hcourse := (onCourse_start nodes).runs hs
    exact ⟨hcourse.apart.of_append_left, hcourse.within, hcourse.depth_le,
      hcourse.scanned.nodup_iff.2 hcourse.apart⟩

/-- Where `mail` closes a cycle with `orders`, three visits of two nodes are under way. -/
theorem searches_terminate_shop :
    Worklist.turns? shopCatalog mailInstalled 4 (.start ["report"]) =
        some ⟨["report", "orders", "units", "stock"], [], ["report", "orders", "units", "stock"],
          ["orders", "units", "stock"]⟩ ∧
      ∃ s, Runs shopCatalog ["orders", "mail"] (.start ["orders", "mail"]) s ∧
        s.path = ["mail", "orders"] ∧ s.depth = 3 ∧
        s.depth ≤ (["orders", "mail"] : List Text).toFinset.card + 1 ∧ s.scanned.Nodup := by
  obtain ⟨⟨-, hturns, -⟩, -⟩ := searches_terminate shopCatalog mailInstalled ["report"] []
  obtain ⟨-, -, -, hbounds⟩ :=
    searches_terminate shopCatalog mailInstalled [] ["orders", "mail"]
  have hclosure : closure shopCatalog mailInstalled ["report"] = ["orders", "units", "stock"] := by
    cbv
  have horders : shopCatalog.dependenciesOf "orders" = ["stock", "mail"] := by decide
  have hmail : shopCatalog.dependenciesOf "mail" = ["orders"] := by decide
  rw [hclosure] at hturns
  have hruns : Runs shopCatalog ["orders", "mail"] (.start ["orders", "mail"])
      ⟨some "orders", [[], [], ["mail"]], ["mail", "orders"], [], ["mail", "orders"]⟩ := by
    refine .head (.enter (by decide)) (.head (.scan (by decide) (by decide)) ?_)
    rw [horders]
    refine .head (.pass (by decide)) (.head (.enter (by decide)) ?_)
    refine .head (.scan (by decide) (by decide)) ?_
    rw [hmail]
    exact .single (.enter (by decide))
  obtain ⟨-, -, hdepth, hscanned⟩ := hbounds _ hruns
  exact ⟨hturns, _, hruns, rfl, rfl, hdepth, hscanned⟩

end ModuleKeeper.Install
