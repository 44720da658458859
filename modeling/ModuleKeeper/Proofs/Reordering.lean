import ModuleKeeper.Proofs.PlanRulings
import ModuleKeeper.Proofs.RemovalRulings

/-!
# Orders that decide nothing

The program goes through what it is given in order: through the request, the
catalog, and what is installed.  Where names are distinct, the order decides
which fault of one class is reported, in which order a plan lists its modules,
and which path of a cycle is shown.  It does not decide whether a request is
accepted, of which class the fault is, or what a plan consists of.  For a
removal that is refused because of a dependent, it decides nothing at all.

Each stage has a description that no order enters: the first look-ups by what
is unknown or refused at all, the closure by reachability, the search for a
cycle by there being one, and the check of a removal by its least dependent.

## Main results

* `Screened.reordered`: the look-ups of a request.
* `Install.additions_akin`: what a plan adds, in both modes.
* `Install.planFor_akin`, `Removal.removalFor_akin`: whole requests.
* `outcomes_akin_of_perm`: the same for what is read from reordered lists.
-/

namespace ModuleKeeper

/-! ## Outcomes that differ by an order -/

/-- The classes of failures. -/
inductive Failure.Class where
  | fault (kind : Kind)
  /-- A halt because there is nothing to do. -/
  | idle
  /-- A halt because the user declined. -/
  | declined
  | mishap (cause : Mishap)
  deriving DecidableEq

namespace Failure

/-- The class of a failure. -/
def classOf : Failure → Class
  | fault cause => .fault cause.kind
  | halt cause => if cause.isIdle then .idle else .declined
  | mishap cause => .mishap cause

/-- Failures of one class.  If a dependent is the reason, it is the same with the same need. -/
structure Kin (f g : Failure) : Prop where
  sameClass : f.classOf = g.classOf
  sameNeed : f.classOf = .fault .stillNeeded → f = g

theorem Kin.refl (f : Failure) : f.Kin f := ⟨rfl, fun _ => rfl⟩

end Failure

/-- Two outcomes that are both of one sort: like results or kindred failures. -/
inductive Akin {ε α : Type} (kin : ε → ε → Prop) (same : α → α → Prop) :
    Except ε α → Except ε α → Prop where
  | ok {a b : α} (h : same a b) : Akin kin same (.ok a) (.ok b)
  | error {e f : ε} (h : kin e f) : Akin kin same (.error e) (.error f)

namespace Akin

variable {ε α β : Type} {kin : ε → ε → Prop} {same : α → α → Prop} {x y : Except ε α}

theorem bind {same' : β → β → Prop} {f g : α → Except ε β} (h : Akin kin same x y)
    (hf : ∀ a b, same a b → Akin kin same' (f a) (g b)) : Akin kin same' (x.bind f) (y.bind g) := by
  cases h with
  | ok h => exact hf _ _ h
  | error h => exact .error h

theorem map {same' : β → β → Prop} {f g : α → β} (h : Akin kin same x y)
    (hf : ∀ a b, same a b → same' (f a) (g b)) : Akin kin same' (x.map f) (y.map g) := by
  cases h with
  | ok h => exact .ok (hf _ _ h)
  | error h => exact .error h

end Akin

/-- Faults that fail a task in a kindred way. -/
def Fault.Kin (f g : Fault) : Prop := (Failure.fault f).Kin (.fault g)

theorem Fault.Kin.of_kind {f g : Fault} (h : f.kind = g.kind) (hneed : f.kind ≠ .stillNeeded) :
    f.Kin g where
  sameClass := congrArg Failure.Class.fault h
  sameNeed := fun hclass => absurd (Failure.Class.fault.inj hclass) hneed

theorem Akin.mapError {α : Type} {same : α → α → Prop} {x y : Except Fault α}
    (h : Akin Fault.Kin same x y) :
    Akin Failure.Kin same (x.mapError Failure.fault) (y.mapError Failure.fault) := by
  cases h with
  | ok h => exact .ok h
  | error h => exact .error h

/-- Lists of the same names. -/
def SameNames (names names' : List Text) : Prop := ∀ n, n ∈ names ↔ n ∈ names'

/-- Plans of the same requested and the same implied names. -/
structure Install.Plan.Same (plan plan' : Plan Text) : Prop where
  requested : SameNames plan.requested plan'.requested
  implied : SameNames plan.implied plan'.implied

variable {catalog catalog' installed installed' : Roster}
  {request request' names names' : List Text}

/-! ## Look-ups -/

/-- A request that is screened in another order is screened to the same effect. -/
theorem Screened.reordered {refused refused' : Text → Prop} {reason : Value → Fault}
    {outcome : Except Fault (List Text)} (hcatalog : catalog.Same catalog')
    (hrefused : ∀ n, refused n ↔ refused' n) (hreason : ∀ v w, (reason v).Kin (reason w))
    (hrequest : SameNames request request')
    (h : Screened catalog refused reason request outcome) :
    ∃ outcome', Screened catalog' refused' reason request' outcome' ∧
      Akin Fault.Kin SameNames outcome outcome' := by
  have hknown' : (∀ n ∈ request, n ∈ catalog.names) → ∀ n ∈ request', n ∈ catalog'.names :=
    fun hknown n hn => (hcatalog.mem_names n).1 (hknown n ((hrequest n).2 hn))
  cases h with
  | unknown n hfirst =>
      obtain ⟨n', hfirst'⟩ : ∃ n', IsFirst (· ∉ catalog'.names) request' n' :=
        exists_isFirst ⟨n, (hrequest n).1 hfirst.mem, (hcatalog.mem_names n).not.1 hfirst.1⟩
      exact ⟨_, .unknown n' hfirst', .error (.of_kind rfl (by simp [Fault.kind]))⟩
  | refused n hknown hfirst =>
      obtain ⟨n', hfirst'⟩ : ∃ n', IsFirst refused' request' n' :=
        exists_isFirst ⟨n, (hrequest n).1 hfirst.mem, (hrefused n).1 hfirst.1⟩
      exact ⟨_, .refused n' (hknown' hknown) hfirst', .error (hreason _ _)⟩
  | accepted names hknown hfree hnames =>
      have hfree' : ∀ n ∈ request', ¬refused' n :=
        fun n hn => (hrefused n).not.1 (hfree n ((hrequest n).2 hn))
      refine ⟨_, .accepted _ (hknown' hknown) hfree' (firsts_eraseDups request'), .ok fun n => ?_⟩
      rw [hnames.mem_iff, hrequest n, List.mem_eraseDups]

/-! ## Dependencies -/

namespace Install

theorem declares_congr (hcatalog : catalog.Same catalog') :
    Declares catalog = Declares catalog' := by
  funext n d
  simp only [Declares, hcatalog.mem_modules]

theorem reaches_congr (hcatalog : catalog.Same catalog') (hinstalled : installed.Same installed') :
    Reaches catalog installed = Reaches catalog' installed' := by
  funext start d
  simp only [Reaches, hinstalled.mem_names, declares_congr hcatalog]

theorem sameNames_closure (hcatalog : catalog.Same catalog')
    (hinstalled : installed.Same installed') (hnames : SameNames names names') :
    SameNames (closure catalog installed names) (closure catalog' installed' names') := by
  intro d
  simp only [mem_closure_iff, hnames _, hinstalled.mem_names, reaches_congr hcatalog hinstalled]

theorem sameNames_implied (hcatalog : catalog.Same catalog')
    (hinstalled : installed.Same installed') (hnames : SameNames names names') :
    SameNames (implied catalog installed names) (implied catalog' installed' names') := by
  intro d
  simp only [implied, mem_unseen_iff, List.mem_flatMap, ← declares_iff, hnames _,
    hinstalled.mem_names, declares_congr hcatalog]

theorem cyclic_congr (hcatalog : catalog.Same catalog') (hnames : SameNames names names') :
    Cyclic catalog names ↔ Cyclic catalog' names' := by
  have hdeclares : DeclaresWithin catalog names = DeclaresWithin catalog' names' := by
    funext n d
    simp only [DeclaresWithin, hnames _, declares_congr hcatalog]
  rw [Cyclic, Cyclic, hdeclares]

/-! ## Installs -/

theorem additions_akin (hcatalog : catalog.Same catalog') (hinstalled : installed.Same installed')
    (hnames : SameNames names names') (transitive : Bool) :
    Akin Fault.Kin SameNames (additions catalog installed transitive names)
      (additions catalog' installed' transitive names') := by
  cases transitive with
  | false => exact .ok (sameNames_implied hcatalog hinstalled hnames)
  | true =>
      have hclosure := sameNames_closure hcatalog hinstalled hnames
      have hhull : SameNames (hull catalog installed names) (hull catalog' installed' names') := by
        intro n
        rw [hull, hull, List.mem_append, List.mem_append, hnames n, hclosure n]
      have hcyclic : (cycle? catalog (hull catalog installed names)).isSome =
          (cycle? catalog' (hull catalog' installed' names')).isSome := by
        rw [Bool.eq_iff_iff, cycle?_isSome_iff, cycle?_isSome_iff]
        exact cyclic_congr hcatalog hhull
      rw [additions_true, additions_true]
      cases hpath : cycle? catalog (hull catalog installed names) <;>
        cases hpath' : cycle? catalog' (hull catalog' installed' names')
      · exact .ok hclosure
      · simp [hpath, hpath'] at hcyclic
      · simp [hpath, hpath'] at hcyclic
      · exact .error (.of_kind rfl (by simp [Fault.kind]))

theorem explicit_akin (hcatalog : catalog.Same catalog') (hinstalled : installed.Same installed')
    (hrequest : SameNames request request') :
    Akin Fault.Kin SameNames (explicit catalog installed request)
      (explicit catalog' installed' request') := by
  have hreason (v w : Value) : (Fault.alreadyInstalled v).Kin (.alreadyInstalled w) :=
    .of_kind rfl (by simp [Fault.kind])
  obtain ⟨outcome, hscreened, hakin⟩ :=
    (explicit_eq_iff.1 rfl).reordered hcatalog hinstalled.mem_names hreason hrequest
  rwa [explicit_eq_iff.2 hscreened]

/-- An install of the same names comes to the same, whatever the orders and the mode. -/
theorem planFor_akin (hcatalog : catalog.Same catalog') (hinstalled : installed.Same installed')
    (hrequest : SameNames request request') (transitive : Bool) :
    Akin Failure.Kin Plan.Same (planFor catalog installed transitive request)
      (planFor catalog' installed' transitive request') := by
  have hfull : isExhausted catalog installed = isExhausted catalog' installed' := by
    rw [isExhausted, isExhausted, hcatalog.size_eq, hinstalled.size_eq]
  rw [planFor_eq, planFor_eq, hfull]
  split
  · exact .error (.refl _)
  · refine .mapError ((explicit_akin hcatalog hinstalled hrequest).bind ?_)
    intro names names' hnames
    exact (additions_akin hcatalog hinstalled hnames transitive).map
      fun added added' hadded => ⟨hnames, hadded⟩

end Install

/-! ## Removals -/

namespace Removal

theorem explicit_akin (hcatalog : catalog.Same catalog') (hinstalled : installed.Same installed')
    (hrequest : SameNames request request') :
    Akin Fault.Kin SameNames (explicit catalog installed request)
      (explicit catalog' installed' request') := by
  have hreason (v w : Value) : (Fault.notInstalled v).Kin (.notInstalled w) :=
    .of_kind rfl (by simp [Fault.kind])
  obtain ⟨outcome, hscreened, hakin⟩ := (explicit_eq_iff.1 rfl).reordered hcatalog
    (fun n => (hinstalled.mem_names n).not) hreason hrequest
  rwa [explicit_eq_iff.2 hscreened]

/-- A removal of the same names comes to the same, whatever the orders. -/
theorem removalFor_akin (hcatalog : catalog.Same catalog') (hinstalled : installed.Same installed')
    (hrequest : SameNames request request') :
    Akin Failure.Kin SameNames (removalFor catalog installed request)
      (removalFor catalog' installed' request') := by
  unfold removalFor
  rw [hinstalled.size_eq]
  split
  · exact .error (.refl _)
  · refine .mapError ((explicit_akin hcatalog hinstalled hrequest).bind ?_)
    intro names names' hnames
    rw [check_congr hinstalled hnames]
    cases check installed' names' with
    | error f => exact .error (.refl _)
    | ok _ => exact .ok hnames

end Removal

/-! ## Lists that are read -/

/--
**The order does not decide the outcome.**  A catalog, what is installed and a
request are given in two orders each, with distinct names in the lists that are
read, and with the names of the request repeated as one likes.  Then all lists
can be read in the second order as well, and installs in both modes and
removals end in the same sort of way: with plans of the same requested and the
same implied modules, with the same names to be removed, or with failures of
one class.  If a dependent is the reason for a refusal, it is the same one, and
so is what it needs.
-/
theorem outcomes_akin_of_perm {σ : Type} (reporter : Reporter (StateM σ))
    (prompter : Option (Prompter (StateM σ))) (s : σ)
    {catalogPayload catalogPayload' installedPayload installedPayload' : List Value}
    (hcatalog : Roster.read catalogPayload = ([], .ok catalog))
    (hinstalled : Roster.read installedPayload = ([], .ok installed))
    (hcatalogPerm : catalogPayload.Perm catalogPayload')
    (hinstalledPerm : installedPayload.Perm installedPayload')
    (hrequest : SameNames request request') :
    ∃ catalog' installed', Roster.read catalogPayload' = ([], .ok catalog') ∧
      Roster.read installedPayload' = ([], .ok installed') ∧
      (∀ transitive, Akin Failure.Kin Install.Plan.Same
        ((Install.planRequested reporter prompter transitive catalog installed
          (Naming.ofTexts (some request))).runIn s).1
        ((Install.planRequested reporter prompter transitive catalog' installed'
          (Naming.ofTexts (some request'))).runIn s).1) ∧
      Akin Failure.Kin SameNames
        ((Removal.resolveRequested reporter prompter catalog installed
          (Naming.ofTexts (some request))).runIn s).1
        ((Removal.resolveRequested reporter prompter catalog' installed'
          (Naming.ofTexts (some request'))).runIn s).1 := by
  obtain ⟨catalog', hcatalog', hsameCatalog⟩ := Roster.exists_read_of_perm hcatalog hcatalogPerm
  obtain ⟨installed', hinstalled', hsameInstalled⟩ :=
    Roster.exists_read_of_perm hinstalled hinstalledPerm
  refine ⟨catalog', installed', hcatalog', hinstalled', fun transitive => ?_, ?_⟩
  · rw [Install.runIn_planRequested, Install.runIn_planRequested]
    exact Install.planFor_akin hsameCatalog hsameInstalled hrequest transitive
  · rw [Removal.runIn_resolveRequested, Removal.runIn_resolveRequested]
    exact Removal.removalFor_akin hsameCatalog hsameInstalled hrequest

open Install (shopCatalog mailInstalled)

/-- The shop from its end to its beginning: its orders come to the same. -/
theorem outcomes_akin_of_perm_shop :
    Roster.read shopCatalog.toValues = ([], .ok shopCatalog) ∧
      ∃ catalog' installed', Roster.read shopCatalog.toValues.reverse = ([], .ok catalog') ∧
        Roster.read mailInstalled.toValues.reverse = ([], .ok installed') ∧
        Akin Failure.Kin Install.Plan.Same
          ((Install.planRequested (m := StateM Unit) (fun _ => pure ()) none true shopCatalog
            mailInstalled (Naming.ofTexts (some ["report", "orders"]))).runIn ()).1
          ((Install.planRequested (m := StateM Unit) (fun _ => pure ()) none true catalog'
            installed' (Naming.ofTexts (some ["orders", "report", "orders"]))).runIn ()).1 := by
  have hcatalog : Roster.read shopCatalog.toValues = ([], .ok shopCatalog) := by rfl
  have hinstalled : Roster.read mailInstalled.toValues = ([], .ok mailInstalled) := by rfl
  have hrequest : SameNames ["report", "orders"] ["orders", "report", "orders"] := by
    intro n
    by_cases horders : n = "orders"
    · simp [horders]
    · simp [horders]
  obtain ⟨catalog', installed', hcatalog', hinstalled', hplan, -⟩ :=
    outcomes_akin_of_perm (fun _ => pure ()) none () hcatalog hinstalled
      (List.reverse_perm _).symm (List.reverse_perm _).symm hrequest
  exact ⟨hcatalog, catalog', installed', hcatalog', hinstalled', hplan true⟩

end ModuleKeeper
