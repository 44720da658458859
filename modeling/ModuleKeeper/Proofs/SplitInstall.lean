import ModuleKeeper.Proofs.Planning

/-!
# Splitting a transitive install

A transitive install of two lists can be made in two steps: first the first
list, then what is left of the second one, on what is installed by then.  The
second search stops at the names of the first step.  This loses nothing,
because the names of the first step need nothing that is not installed then,
and because a cycle that touches them lies among them as a whole.

## Main results

* `Split.mem_hull_iff`: the two steps come to the same names.
* `Split.cyclic_iff`: the two steps meet a cycle exactly if the whole does.
* `planFor_append_inTwoSteps`: both for the outcomes of the planner.
-/

namespace ModuleKeeper.Roster

/--
The roster with a module for each name of a list at its end.  `records` says
what these modules declare.
-/
def adding (records : Text → List Text) (r : Roster) (names : List Text) : Roster :=
  names.foldl (fun r n => r.add ⟨n, records n⟩) r

theorem mem_names_adding {records : Text → List Text} {r : Roster} {names : List Text}
    {n : Text} : n ∈ (r.adding records names).names ↔ n ∈ r.names ∨ n ∈ names := by
  induction names generalizing r with
  | nil => simp [adding]
  | cons x xs ih =>
      have hstep := ih (r := r.add ⟨x, records x⟩)
      unfold adding at hstep ⊢
      rw [List.foldl_cons, hstep, names_add, List.mem_cons, or_assoc]

end ModuleKeeper.Roster

namespace ModuleKeeper.Install

open Relation

/-! ## The two searches -/

/--
How a request is split: `whole` is requested at once where `installed` is
installed, or `first` is, and then `rest` where `between` is installed.
-/
structure Split (catalog installed between : Roster) (whole first rest : List Text) : Prop where
  whole_free : ∀ n ∈ whole, n ∉ installed.names
  first_sub : ∀ n ∈ first, n ∈ whole
  between_iff : ∀ n, n ∈ between.names ↔
    n ∈ installed.names ∨ n ∈ hull catalog installed first
  rest_iff : ∀ n, n ∈ rest ↔ n ∈ whole ∧ n ∉ between.names

namespace Split

variable {catalog installed between : Roster} {whole first rest : List Text}

/-- The names of both steps together need nothing else. -/
theorem closedUnder_steps (h : Split catalog installed between whole first rest) :
    ClosedUnder catalog installed
      {n | n ∈ hull catalog installed first ∨ n ∈ hull catalog between rest} := by
  rintro n (hn | hn) d hd hi
  · exact Or.inl (closedUnder_hull catalog installed first n hn d hd hi)
  · by_cases hbetween : d ∈ between.names
    · exact Or.inl (((h.between_iff d).1 hbetween).resolve_left hi)
    · exact Or.inr (closedUnder_hull catalog between rest n hn d hd hbetween)

theorem mem_hull_iff (h : Split catalog installed between whole first rest) (n : Text) :
    n ∈ hull catalog installed whole ↔
      n ∈ hull catalog installed first ∨ n ∈ hull catalog between rest := by
  have hclosed := closedUnder_hull catalog installed whole
  have hwhole : ∀ n ∈ whole, n ∈ hull catalog installed whole :=
    fun n hn => List.mem_append_left _ hn
  constructor
  · refine mem_of_mem_hull h.closedUnder_steps ?_ n
    intro n hn
    by_cases hbetween : n ∈ between.names
    · exact Or.inl (((h.between_iff n).1 hbetween).resolve_left (h.whole_free n hn))
    · exact Or.inr (List.mem_append_left _ ((h.rest_iff n).2 ⟨hn, hbetween⟩))
  · rintro (hn | hn)
    · exact mem_of_mem_hull hclosed (fun n hn => hwhole n (h.first_sub n hn)) n hn
    · have hmore : ∀ n ∈ installed.names, n ∈ between.names :=
        fun n hn => (h.between_iff n).2 (Or.inl hn)
      exact mem_of_mem_hull (hclosed.mono hmore)
        (fun n hn => hwhole n ((h.rest_iff n).1 hn).1) n hn

/-- From a name of the first step, declarations lead to names of the first step only. -/
theorem declaresWithin_first (h : Split catalog installed between whole first rest) {n d : Text}
    (hn : n ∈ hull catalog installed first)
    (hd : DeclaresWithin catalog (hull catalog installed whole) n d) :
    DeclaresWithin catalog (hull catalog installed first) n d := by
  have hfree : d ∉ installed.names := not_mem_installed_of_mem_hull h.whole_free d hd.2.1
  exact ⟨hn, closedUnder_hull catalog installed first n hn d hd.2.2 hfree, hd.2.2⟩

theorem transGen_first (h : Split catalog installed between whole first rest) {n d : Text}
    (hn : n ∈ hull catalog installed first)
    (hpath : TransGen (DeclaresWithin catalog (hull catalog installed whole)) n d) :
    TransGen (DeclaresWithin catalog (hull catalog installed first)) n d := by
  induction hpath with
  | single hd => exact TransGen.single (h.declaresWithin_first hn hd)
  | tail _ hd ih =>
      obtain ⟨_, -, hlast⟩ := TransGen.tail'_iff.1 ih
      exact ih.tail (h.declaresWithin_first hlast.2.1 hd)

theorem transGen_rest (h : Split catalog installed between whole first rest) {n d : Text}
    (hd : d ∉ hull catalog installed first)
    (hpath : TransGen (DeclaresWithin catalog (hull catalog installed whole)) n d) :
    TransGen (DeclaresWithin catalog (hull catalog between rest)) n d := by
  -- No name of the path belongs to the first step, or its end would.
  have hstep : ∀ {a b}, DeclaresWithin catalog (hull catalog installed whole) a b →
      b ∉ hull catalog installed first →
        DeclaresWithin catalog (hull catalog between rest) a b := by
    intro a b hab hb
    have ha : a ∉ hull catalog installed first :=
      fun ha => hb (h.declaresWithin_first ha hab).2.1
    exact ⟨((h.mem_hull_iff a).1 hab.1).resolve_left ha,
      ((h.mem_hull_iff b).1 hab.2.1).resolve_left hb, hab.2.2⟩
  induction hpath using TransGen.head_induction_on with
  | single hn => exact TransGen.single (hstep hn hd)
  | head hn hrest ih =>
      refine TransGen.head (hstep hn ?_) ih
      intro hfirst
      obtain ⟨_, -, hlast⟩ := TransGen.tail'_iff.1 (h.transGen_first hfirst hrest)
      exact hd hlast.2.1

theorem cyclic_iff (h : Split catalog installed between whole first rest) :
    Cyclic catalog (hull catalog installed whole) ↔
      Cyclic catalog (hull catalog installed first) ∨
        Cyclic catalog (hull catalog between rest) := by
  constructor
  · rintro ⟨n, hcycle⟩
    by_cases hn : n ∈ hull catalog installed first
    · exact Or.inl ⟨n, h.transGen_first hn hcycle⟩
    · exact Or.inr ⟨n, h.transGen_rest hn hcycle⟩
  · rintro (hcycle | hcycle)
    · exact hcycle.mono fun n hn => (h.mem_hull_iff n).2 (Or.inl hn)
    · exact hcycle.mono fun n hn => (h.mem_hull_iff n).2 (Or.inr hn)

end Split

/-! ## The two plans -/

/-- Whether an outcome is the refusal of a cycle. -/
def RefusesCycle {α : Type} (outcome : Except Failure α) : Prop :=
  ∃ path, outcome = .error (.fault (.cycle path))

/--
What is installed in the end when what is left of a list, where `installed` is
installed, is planned in a transitive mode and installed.  When nothing is
left, nothing is planned.  `records` says what the installed modules declare.
-/
def installLeft (records : Text → List Text) (catalog installed : Roster) (names : List Text) :
    Except Failure Roster :=
  match names.filter fun n => !installed.has n with
  | [] => .ok installed
  | left =>
    (planFor catalog installed true left).map fun plan => installed.adding records plan.modules

/--
What is installed in the end when `first` is planned in a transitive mode and
installed, and then what is left of `second`.
-/
def inTwoSteps (records : Text → List Text) (catalog installed : Roster)
    (first second : List Text) : Except Failure Roster :=
  (planFor catalog installed true first).bind fun plan =>
    installLeft records catalog (installed.adding records plan.modules) second

/--
The situation of a split install: every declared dependency is a catalog
module, only catalog modules are installed, and the requested names are catalog
modules that are not installed.
-/
structure SplitRequest (catalog installed : Roster) (first second : List Text) : Prop where
  declared_known : ∀ n d, Declares catalog n d → d ∈ catalog.names
  installed_known : ∀ n ∈ installed.names, n ∈ catalog.names
  first_open : ∀ n ∈ first, n ∈ catalog.names ∧ n ∉ installed.names
  second_open : ∀ n ∈ second, n ∈ catalog.names ∧ n ∉ installed.names

section TwoSteps

variable {catalog installed : Roster} {first second : List Text}

/-- The names of a list that are not installed, each once. -/
def leftOf (installed : Roster) (names : List Text) : List Text :=
  (names.filter fun n => !installed.has n).eraseDups

theorem mem_leftOf {names : List Text} {n : Text} :
    n ∈ leftOf installed names ↔ n ∈ names ∧ n ∉ installed.names := by
  rw [leftOf, List.mem_eraseDups, List.mem_filter, Bool.not_eq_true', Bool.eq_false_iff, ne_eq,
    Roster.has_iff]

/-- Installing what is left meets a cycle in its hull, or installs its hull. -/
theorem installLeft_cases (records : Text → List Text) {names : List Text}
    (hknown : ∀ n ∈ installed.names, n ∈ catalog.names)
    (hnames : ∀ n ∈ names, n ∈ catalog.names) :
    (Cyclic catalog (hull catalog installed (leftOf installed names)) ∧
        ∃ path, installLeft records catalog installed names = .error (.fault (.cycle path))) ∨
      (¬Cyclic catalog (hull catalog installed (leftOf installed names)) ∧
        ∃ final, installLeft records catalog installed names = .ok final ∧
          ∀ n, n ∈ final.names ↔
            n ∈ installed.names ∨ n ∈ hull catalog installed (leftOf installed names)) := by
  unfold installLeft leftOf
  cases hleft : names.filter fun n => !installed.has n with
  | nil =>
      have hnil : ([] : List Text).eraseDups = [] := rfl
      rw [hnil, hull_nil]
      refine Or.inr ⟨not_cyclic_nil catalog, installed, rfl, ?_⟩
      intro n
      simp
  | cons x xs =>
      have hmem : ∀ n ∈ x :: xs, n ∈ names ∧ n ∉ installed.names := by
        intro n hn
        rw [← hleft] at hn
        exact mem_leftOf.1 (List.mem_eraseDups.2 hn)
      have hroom : isExhausted catalog installed = false := by
        rw [Bool.eq_false_iff, ne_eq, isExhausted_iff hknown]
        intro hall
        obtain ⟨hx, hfree⟩ := hmem x (by simp)
        exact hfree (hall x (hnames x hx))
      have hverdict := planFor_verdict hroom (fun n hn => hnames n (hmem n hn).1)
        fun n hn => (hmem n hn).2
      dsimp only
      generalize planFor catalog installed true (x :: xs) = outcome at hverdict ⊢
      cases hverdict with
      | refused path hcyclic => exact Or.inl ⟨hcyclic, path, rfl⟩
      | planned plan hacyclic hmodules =>
          refine Or.inr ⟨hacyclic, _, rfl, ?_⟩
          intro n
          rw [Roster.mem_names_adding, hmodules]

namespace SplitRequest

theorem whole_open (h : SplitRequest catalog installed first second) :
    ∀ n ∈ first ++ second, n ∈ catalog.names ∧ n ∉ installed.names := by
  intro n hn
  rcases List.mem_append.1 hn with hn | hn
  · exact h.first_open n hn
  · exact h.second_open n hn

/-- The steps of a split request split its search. -/
theorem split (h : SplitRequest catalog installed first second) {between : Roster}
    (hbetween : ∀ n, n ∈ between.names ↔
      n ∈ installed.names ∨ n ∈ hull catalog installed first.eraseDups) :
    Split catalog installed between (first ++ second).eraseDups first.eraseDups
      (leftOf between second) where
  whole_free := fun n hn => (h.whole_open n (List.mem_eraseDups.1 hn)).2
  first_sub := by
    intro n hn
    rw [List.mem_eraseDups] at hn ⊢
    exact List.mem_append_left _ hn
  between_iff := hbetween
  rest_iff := by
    intro n
    have hfirst : n ∈ first → n ∈ between.names := fun hn =>
      (hbetween n).2 (Or.inr (List.mem_append_left _ (List.mem_eraseDups.2 hn)))
    rw [mem_leftOf, List.mem_eraseDups, List.mem_append]
    constructor
    · rintro ⟨hn, hb⟩
      exact ⟨Or.inr hn, hb⟩
    · rintro ⟨hn | hn, hb⟩
      · exact absurd (hfirst hn) hb
      · exact ⟨hn, hb⟩

/-- Between the steps only names of the catalog are installed. -/
theorem between_known (h : SplitRequest catalog installed first second) {between : Roster}
    (hbetween : ∀ n, n ∈ between.names ↔
      n ∈ installed.names ∨ n ∈ hull catalog installed first.eraseDups) :
    ∀ n ∈ between.names, n ∈ catalog.names := by
  intro n hn
  have hclosed : ClosedUnder catalog installed {n | n ∈ catalog.names} :=
    fun n _ d hd _ => h.declared_known n d hd
  rcases (hbetween n).1 hn with hn | hn
  · exact h.installed_known n hn
  · refine mem_of_mem_hull hclosed ?_ n hn
    intro n hn
    exact (h.first_open n (List.mem_eraseDups.1 hn)).1

end SplitRequest

/-- The ways in which the outcomes of one plan and of two steps can agree. -/
inductive Agree (installed : Roster) :
    Except Failure (Plan Text) → Except Failure Roster → Prop where
  | nothingToDo : Agree installed (.error (.halt .allInstalled)) (.error (.halt .allInstalled))
  | refused (path path' : List Text) :
      Agree installed (.error (.fault (.cycle path))) (.error (.fault (.cycle path')))
  | planned (plan : Plan Text) (final : Roster)
      (same : ∀ n, (n ∈ installed.names ∨ n ∈ plan.modules) ↔ n ∈ final.names) :
      Agree installed (.ok plan) (.ok final)

theorem SplitRequest.agree (h : SplitRequest catalog installed first second)
    (records : Text → List Text) :
    Agree installed (planFor catalog installed true (first ++ second))
      (inTwoSteps records catalog installed first second) := by
  unfold inTwoSteps
  by_cases hfull : isExhausted catalog installed = true
  · have hall : ∀ request, planFor catalog installed true request =
        .error (.halt .allInstalled) := by
      intro request
      rw [planFor_eq, if_pos hfull]
    rw [hall, hall]
    exact .nothingToDo
  · have hroom : isExhausted catalog installed = false := Bool.eq_false_iff.2 hfull
    have hwhole := planFor_verdict hroom (fun n hn => (h.whole_open n hn).1)
      fun n hn => (h.whole_open n hn).2
    have hfirst := planFor_verdict hroom (fun n hn => (h.first_open n hn).1)
      fun n hn => (h.first_open n hn).2
    have hbetween : ∀ n, n ∈ (installed.adding records
        (hull catalog installed first.eraseDups)).names ↔
          n ∈ installed.names ∨ n ∈ hull catalog installed first.eraseDups :=
      fun n => Roster.mem_names_adding
    have hsplit := h.split hbetween
    have hleft := installLeft_cases records (h.between_known hbetween)
      fun n hn => (h.second_open n hn).1
    generalize planFor catalog installed true (first ++ second) = whole at hwhole ⊢
    generalize planFor catalog installed true first = step at hfirst ⊢
    cases hfirst with
    | refused path hcyclic =>
        have hall := hsplit.cyclic_iff.2 (Or.inl hcyclic)
        cases hwhole with
        | refused path' _ => exact .refused path' path
        | planned _ hacyclic _ => exact absurd hall hacyclic
    | planned plan hacyclic hmodules =>
        change Agree installed whole
          (installLeft records catalog (installed.adding records plan.modules) second)
        rw [hmodules]
        rcases hleft with ⟨hcyclic, path, hleft⟩ | ⟨hacyclic', final, hleft, hfinal⟩
        · rw [hleft]
          have hall := hsplit.cyclic_iff.2 (Or.inr hcyclic)
          cases hwhole with
          | refused path' _ => exact .refused path' path
          | planned _ hacyclic' _ => exact absurd hall hacyclic'
        · rw [hleft]
          cases hwhole with
          | refused _ hcyclic =>
              rcases hsplit.cyclic_iff.1 hcyclic with hcyclic | hcyclic
              · exact absurd hcyclic hacyclic
              · exact absurd hcyclic hacyclic'
          | planned whole _ hwhole =>
              refine .planned whole final ?_
              intro n
              rw [hfinal, hbetween, hwhole, hsplit.mem_hull_iff, or_assoc]

end TwoSteps

/--
**A transitive install can be split.**  Planning two lists at once is refused
for a cycle exactly if planning them in two steps is, it has a plan exactly if
both steps have one, and then the same names are installed in the end,
whatever the modules that were installed in between say that they declare.
-/
theorem planFor_append_inTwoSteps (records : Text → List Text) (catalog installed : Roster)
    (first second : List Text) (h : SplitRequest catalog installed first second) :
    (RefusesCycle (planFor catalog installed true (first ++ second)) ↔
        RefusesCycle (inTwoSteps records catalog installed first second)) ∧
      ((∃ plan, planFor catalog installed true (first ++ second) = .ok plan) ↔
        ∃ final, inTwoSteps records catalog installed first second = .ok final) ∧
      ∀ plan final, planFor catalog installed true (first ++ second) = .ok plan →
        inTwoSteps records catalog installed first second = .ok final →
          ∀ n, (n ∈ installed.names ∨ n ∈ plan.modules) ↔ n ∈ final.names := by
  have hagree := h.agree records
  generalize planFor catalog installed true (first ++ second) = whole at hagree ⊢
  generalize inTwoSteps records catalog installed first second = steps at hagree ⊢
  cases hagree with
  | nothingToDo => simp [RefusesCycle]
  | refused path path' => simp [RefusesCycle]
  | planned plan final same =>
      refine ⟨by simp [RefusesCycle], by simp, ?_⟩
      intro plan' final' hplan hfinal
      obtain rfl := Except.ok.inj hplan
      obtain rfl := Except.ok.inj hfinal
      exact same

/-- In the shop with `mail`, `orders` and then `report` install what both do at once. -/
theorem planFor_orders_then_report :
    SplitRequest shopCatalog mailInstalled ["orders"] ["report"] ∧
      (RefusesCycle (planFor shopCatalog mailInstalled true
          ([Text.ofString "orders"] ++ [Text.ofString "report"])) ↔
        RefusesCycle (inTwoSteps (fun _ => []) shopCatalog mailInstalled ["orders"] ["report"])) ∧
      ∀ plan final, planFor shopCatalog mailInstalled true
          ([Text.ofString "orders"] ++ [Text.ofString "report"]) = .ok plan →
        inTwoSteps (fun _ => []) shopCatalog mailInstalled ["orders"] ["report"] = .ok final →
          ∀ n, (n ∈ mailInstalled.names ∨ n ∈ plan.modules) ↔ n ∈ final.names := by
  have hknown : ∀ m ∈ shopCatalog.modules, ∀ d ∈ m.dependencies, d ∈ shopCatalog.names := by
    decide
  have hrequest : SplitRequest shopCatalog mailInstalled ["orders"] ["report"] :=
    { declared_known := by
        rintro n d ⟨m, hm, -, hd⟩
        exact hknown m hm d hd
      installed_known := by decide
      first_open := by decide
      second_open := by decide }
  obtain ⟨hrefused, -, hsame⟩ := planFor_append_inTwoSteps (fun _ => []) _ _ _ _ hrequest
  exact ⟨hrequest, hrefused, hsame⟩

-- What both do at once: `mail` is there, so its need for `orders` closes no cycle.
example : planFor shopCatalog mailInstalled true ["orders", "report"] =
    .ok ⟨["orders", "report"], ["stock", "units"]⟩ := by cbv

end ModuleKeeper.Install
