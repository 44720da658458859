import ModuleKeeper.Proofs.Requests
import ModuleKeeper.Server

/-!
# What an install is answered with

In the default mode a plan adds the dependencies that the requested modules
declare themselves.  The program gathers them one after another and passes over
what is installed, requested or gathered already.  `Ruling` says at once what
comes of it: all declared dependencies in a row, without those that are
installed or requested, each at its first place.

A request is refused for the first name that nobody knows, and otherwise for
the first one that is installed.

## Main results

* `unseen_eq_eraseDups`: what the program gathers, as a filter.
* `planFor_direct_eq_iff`: the outcome of a request is its ruling.
* `planRequested_direct_eq_iff`: the same for every run; a plan is new, and it
  satisfies what was requested.
-/

namespace ModuleKeeper.Install

/-! ## Gathering -/

/-- What is gathered are the names that are neither installed nor seen, each at its first place. -/
theorem unseen_eq_eraseDups (installed : Roster) (seen names : List Text) :
    unseen installed seen names =
      (names.filter fun d => d ∉ installed.names ∧ d ∉ seen).eraseDups := by
  induction names generalizing seen with
  | nil => rfl
  | cons d ds ih =>
      rw [unseen]
      by_cases hskip : installed.has d = true ∨ d ∈ seen
      · have hstale : ¬(d ∉ installed.names ∧ d ∉ seen) := by
          rwa [← not_or, not_not, ← Roster.has_iff]
        rw [if_pos hskip, List.filter_cons_of_neg (by simpa using hstale), ih]
      · have hfresh : d ∉ installed.names ∧ d ∉ seen := by
          rwa [← not_or, ← Roster.has_iff]
        rw [if_neg hskip, List.filter_cons_of_pos (by simpa using hfresh), List.eraseDups_cons, ih,
          List.filter_filter]
        -- Seeing `d` and dropping its repetitions leave the same names out.
        congr 2
        refine List.filter_congr fun e _ => ?_
        by_cases he : e = d
        · simp [he]
        · simp [he]

theorem firsts_implied (catalog installed : Roster) (names : List Text) :
    Firsts ((names.flatMap catalog.dependenciesOf).filter fun d =>
      d ∉ installed.names ∧ d ∉ names) (implied catalog installed names) :=
  firsts_iff.2 (unseen_eq_eraseDups installed names _)

/-! ## Rulings -/

/-- The answer to a request in the default mode, where the numbers of modules differ. -/
inductive Ruling (catalog installed : Roster) (request : List Text) :
    Except Failure (Plan Text) → Prop where
  /-- A name is unknown or installed already. -/
  | refused (f : Fault)
      (hscreened : Screened catalog (· ∈ installed.names) .alreadyInstalled request (.error f)) :
      Ruling catalog installed request (.error (.fault f))
  /-- All names are known and none is installed. -/
  | planned (plan : Plan Text)
      (hrequested : Screened catalog (· ∈ installed.names) .alreadyInstalled request
        (.ok plan.requested))
      (himplied : Firsts ((plan.requested.flatMap catalog.dependenciesOf).filter fun d =>
        d ∉ installed.names ∧ d ∉ plan.requested) plan.implied) :
      Ruling catalog installed request (.ok plan)

variable {catalog installed : Roster} {request : List Text} {plan : Plan Text}

/-- The outcome of a request is its ruling, and there is no other one. -/
theorem planFor_direct_eq_iff (hroom : isExhausted catalog installed = false)
    {outcome : Except Failure (Plan Text)} :
    planFor catalog installed false request = outcome ↔
      Ruling catalog installed request outcome := by
  rw [planFor_eq, if_neg (Bool.eq_false_iff.1 hroom)]
  constructor
  · rintro rfl
    cases hexplicit : explicit catalog installed request with
    | error f => exact .refused f (explicit_eq_iff.1 hexplicit)
    | ok names =>
        exact .planned ⟨names, implied catalog installed names⟩ (explicit_eq_iff.1 hexplicit)
          (firsts_implied catalog installed names)
  · intro h
    cases h with
    | refused f hscreened =>
        rw [explicit_eq_iff.2 hscreened]
        rfl
    | planned plan hrequested himplied =>
        rw [explicit_eq_iff.2 hrequested]
        have hadded := (firsts_implied catalog installed plan.requested).unique himplied
        show Except.ok (Plan.mk plan.requested (implied catalog installed plan.requested)) =
          .ok plan
        rw [hadded]

/-- The modules of a plan are distinct, and none of them is installed. -/
theorem Ruling.fresh (h : Ruling catalog installed request (.ok plan)) :
    plan.modules.Nodup ∧ ∀ n ∈ plan.modules, n ∉ installed.names := by
  obtain _ | ⟨_, hrequested, himplied⟩ := h
  obtain _ | _ | ⟨_, -, hfree, hnames⟩ := hrequested
  have hadded : ∀ d ∈ plan.implied, d ∉ installed.names ∧ d ∉ plan.requested := by
    intro d hd
    simpa using (List.mem_filter.1 ((himplied.mem_iff d).1 hd)).2
  refine ⟨hnames.nodup.append himplied.nodup fun n hn hn' => (hadded n hn').2 hn, fun n hn => ?_⟩
  rcases List.mem_append.1 hn with hn | hn
  · exact hfree n ((hnames.mem_iff n).1 hn)
  · exact (hadded n hn).1

/-- Once a plan is installed, the requested modules have what they declare. -/
theorem Ruling.satisfied (h : Ruling catalog installed request (.ok plan)) :
    ∀ n ∈ request, ∀ d, Declares catalog n d →
      d ∈ Server.edited .install plan.modules installed.names := by
  obtain _ | ⟨_, hrequested, himplied⟩ := h
  intro n hn d hd
  rw [Server.edited, List.mem_append, Plan.modules, List.mem_append, himplied.mem_iff,
    List.mem_filter, List.mem_flatMap]
  by_cases hpresent : d ∈ installed.names
  · exact Or.inl hpresent
  · by_cases hasked : d ∈ plan.requested
    · exact Or.inr (Or.inl hasked)
    · refine Or.inr (Or.inr ⟨⟨n, (hrequested.mem_iff n).2 hn, declares_iff.1 hd⟩, ?_⟩)
      simpa using And.intro hpresent hasked

/-! ## Runs -/

/-- A run in a state has the outcome `planFor` too, wherever it starts. -/
theorem runIn_planRequested {σ : Type} (reporter : Reporter (StateM σ))
    (prompter : Option (Prompter (StateM σ))) (transitive : Bool) (catalog installed : Roster)
    (request : List Text) (s : σ) :
    ((planRequested reporter prompter transitive catalog installed
      (Naming.ofTexts (some request))).runIn s).1 =
        planFor catalog installed transitive request := by
  rw [planRequested_ofTexts, Task.runIn, run_plan_some]
  rfl

/--
**The answer to a direct install by name.**  Where the catalog and a database
have different numbers of modules, the run of a request in the default mode ends
with its ruling and with nothing else.  If this is a plan, then its modules are
distinct and new, and once they are installed, each requested module has
whatever it declares.
-/
theorem planRequested_direct_eq_iff {σ : Type} (reporter : Reporter (StateM σ))
    (prompter : Option (Prompter (StateM σ))) (catalog installed : Roster)
    (hroom : installed.size ≠ catalog.size) (request : List Text) (s : σ) :
    (∀ outcome, ((planRequested reporter prompter false catalog installed
      (Naming.ofTexts (some request))).runIn s).1 = outcome ↔
        Ruling catalog installed request outcome) ∧
    ∀ plan, ((planRequested reporter prompter false catalog installed
      (Naming.ofTexts (some request))).runIn s).1 = .ok plan →
        plan.modules.Nodup ∧ (∀ n ∈ plan.modules, n ∉ installed.names) ∧
          ∀ n ∈ request, ∀ d, Declares catalog n d →
            d ∈ Server.edited .install plan.modules installed.names := by
  have hopen : isExhausted catalog installed = false := by simpa [isExhausted] using hroom
  rw [runIn_planRequested]
  refine ⟨fun outcome => planFor_direct_eq_iff hopen, fun plan hplan => ?_⟩
  have hruling := (planFor_direct_eq_iff hopen).1 hplan
  exact ⟨hruling.fresh.1, hruling.fresh.2, hruling.satisfied⟩

/--
Where `mail` is installed, `report` and `orders` come with `units` and `stock`:
`orders` is requested itself, and `mail` is there.
-/
theorem planRequested_direct_eq_iff_shop :
    mailInstalled.size ≠ shopCatalog.size ∧
      ((planRequested (fun _ => pure ()) none false shopCatalog mailInstalled
        (Naming.ofTexts (some ["report", "orders", "report"]))).runIn ()).1 =
          .ok ⟨["report", "orders"], ["units", "stock"]⟩ ∧
      Ruling shopCatalog mailInstalled ["report", "orders", "report"]
        (.ok ⟨["report", "orders"], ["units", "stock"]⟩) := by
  have hroom : mailInstalled.size ≠ shopCatalog.size := by decide
  have hruling := (planRequested_direct_eq_iff (fun _ => pure ()) none shopCatalog mailInstalled
    hroom ["report", "orders", "report"] ()).1
  have hrun := (runIn_planRequested (fun _ => pure ()) none false shopCatalog mailInstalled
    ["report", "orders", "report"] ()).trans (by cbv)
  exact ⟨hroom, hrun, (hruling _).1 hrun⟩

end ModuleKeeper.Install
