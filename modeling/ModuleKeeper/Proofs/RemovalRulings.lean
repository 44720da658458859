import ModuleKeeper.Proofs.Removing
import ModuleKeeper.Server

/-!
# What a removal is answered with

A request for a removal can be refused for four reasons.  Where something is
installed, the first name that nobody knows is reported before the first name
that is not installed, and both before a module that stays and needs one that
goes.  Of several such modules it is the least by name, whatever the order of
the records, and of its dependencies the first one that goes.

`Ruling` says this without the searches of the program.  It allows one answer
for each request (`removalFor_eq_iff`).

## Main results

* `dependent?_eq_some_iff`: the search finds the least dependent.
* `removalFor_eq_iff`: the outcome of a request is its ruling.
* `resolveRequested_eq_iff`: the same for every run, and what an accepted
  removal leaves satisfied.
-/

namespace ModuleKeeper.Removal

/-! ## Dependents -/

/-- A module that stays when the names go, and is recorded with a dependency that goes. -/
structure Dependent (installed : Roster) (names : List Text) (m : Module) : Prop where
  recorded : m ∈ installed.modules
  stays : m.name ∉ names
  needs : ∃ d ∈ m.dependencies, d ∈ names

/-- The dependent whose name comes first in the order of the code points. -/
structure LeastDependent (installed : Roster) (names : List Text) (m : Module) : Prop where
  dependent : Dependent installed names m
  least : ∀ m', Dependent installed names m' → m.name.numbers ≤ m'.name.numbers

variable {catalog installed : Roster} {request names : List Text} {m : Module} {d : Text}

theorem LeastDependent.unique {m' : Module} (h : LeastDependent installed names m)
    (h' : LeastDependent installed names m') : m = m' := by
  have hname : m.name = m'.name := Text.numbers_injective
    (le_antisymm (h.least m' h'.dependent) (h'.least m h.dependent))
  exact List.inj_on_of_nodup_map installed.distinct h.dependent.recorded h'.dependent.recorded hname

theorem unneeded_iff : Unneeded installed names ↔ ∀ m, ¬Dependent installed names m := by
  constructor
  · rintro h m ⟨hm, hstays, d, hd, hgoes⟩
    exact h m hm hstays d hd hgoes
  · exact fun h m hm hstays d hd hgoes => h m ⟨hm, hstays, d, hd, hgoes⟩

theorem mem_staying : m ∈ staying installed names ↔ m ∈ installed.modules ∧ m.name ∉ names := by
  simp [staying]

/-- The modules that stay are looked at in the order of their names. -/
theorem staying_ordered (installed : Roster) (names : List Text) :
    (staying installed names).Pairwise fun m m' => m.name.numbers ≤ m'.name.numbers := by
  have hsorted : (staying installed names).Pairwise fun m m' => m.name.notAfter m'.name = true := by
    refine List.pairwise_mergeSort (fun a b c hab hbc => ?_) (fun a b => ?_) _
    · exact Text.notAfter_iff.2 ((Text.notAfter_iff.1 hab).trans (Text.notAfter_iff.1 hbc))
    · simpa only [Bool.or_eq_true] using Text.notAfter_total a.name b.name
  exact hsorted.imp Text.notAfter_iff.1

theorem lost?_eq_some_iff : lost? names m = some d ↔ IsFirst (· ∈ names) m.dependencies d :=
  (isFirst_iff_find? fun _ => List.contains_iff_mem).symm

theorem leastDependent_of_dependent? (h : dependent? installed names = some (m, d)) :
    LeastDependent installed names m ∧ IsFirst (· ∈ names) m.dependencies d := by
  obtain ⟨before, m', behind, hsplit, hfound, hbefore⟩ := List.findSome?_eq_some_iff.1 h
  obtain ⟨d', hlost, hpair⟩ := Option.map_eq_some_iff.1 hfound
  obtain ⟨rfl, rfl⟩ := Prod.mk.inj hpair
  have hfirst := lost?_eq_some_iff.1 hlost
  obtain ⟨hm, hstays⟩ := mem_staying.1 (by rw [hsplit]; simp : m' ∈ staying installed names)
  refine ⟨⟨⟨hm, hstays, d', hfirst.mem, hfirst.1⟩, fun m hdependent => ?_⟩, hfirst⟩
  have hmem : m ∈ staying installed names :=
    mem_staying.2 ⟨hdependent.recorded, hdependent.stays⟩
  have hordered := staying_ordered installed names
  rw [hsplit] at hmem hordered
  rcases List.mem_append.1 hmem with hearlier | hlater
  · -- What stands before the module that was found loses nothing.
    obtain ⟨e, he⟩ := exists_isFirst hdependent.needs
    have hnone := hbefore m hearlier
    rw [lost?_eq_some_iff.2 he] at hnone
    cases hnone
  · rcases List.mem_cons.1 hlater with rfl | hbehind
    · exact le_rfl
    · exact (List.pairwise_cons.1 (List.pairwise_append.1 hordered).2.1).1 m hbehind

/-- The search finds the least dependent, and the first of its dependencies that goes. -/
theorem dependent?_eq_some_iff :
    dependent? installed names = some (m, d) ↔
      LeastDependent installed names m ∧ IsFirst (· ∈ names) m.dependencies d := by
  refine ⟨leastDependent_of_dependent?, fun ⟨hleast, hfirst⟩ => ?_⟩
  have hsome : (dependent? installed names).isSome = true := dependent?_isSome_iff.2
    ⟨m, hleast.dependent.recorded, hleast.dependent.stays, hleast.dependent.needs⟩
  obtain ⟨⟨m', d'⟩, hfound⟩ := Option.isSome_iff_exists.1 hsome
  obtain ⟨hleast', hfirst'⟩ := leastDependent_of_dependent? hfound
  obtain rfl := hleast.unique hleast'
  rw [hfound, hfirst.unique hfirst']

theorem check_eq_error_iff {f : Fault} :
    check installed names = .error f ↔
      ∃ m d, LeastDependent installed names m ∧ IsFirst (· ∈ names) m.dependencies d ∧
        f = .stillNeeded (.str d) (.str m.name) := by
  simp only [← and_assoc, ← dependent?_eq_some_iff]
  unfold check
  cases dependent? installed names with
  | none => simp
  | some found =>
      constructor
      · intro h
        exact ⟨found.1, found.2, rfl, (Except.error.inj h).symm⟩
      · rintro ⟨m, d, hfound, rfl⟩
        rw [Option.some.inj hfound]

/-! ### Orders that do not matter -/

section Orders

variable {installed' : Roster} {names' : List Text}

theorem Dependent.congr (h : Dependent installed names m) (hmodules : installed.Same installed')
    (hnames : ∀ n, n ∈ names ↔ n ∈ names') : Dependent installed' names' m := by
  obtain ⟨d, hd, hgoes⟩ := h.needs
  exact ⟨(hmodules.mem_modules m).1 h.recorded, (hnames m.name).not.1 h.stays, d, hd,
    (hnames d).1 hgoes⟩

theorem LeastDependent.congr (h : LeastDependent installed names m)
    (hmodules : installed.Same installed') (hnames : ∀ n, n ∈ names ↔ n ∈ names') :
    LeastDependent installed' names' m where
  dependent := h.dependent.congr hmodules hnames
  least := fun m' h' => h.least m' (h'.congr hmodules.symm fun n => (hnames n).symm)

/-- The check depends on which modules are recorded and which names go, and on no order. -/
theorem check_congr (hmodules : installed.Same installed') (hnames : ∀ n, n ∈ names ↔ n ∈ names') :
    check installed names = check installed' names' := by
  have hnames' : ∀ n, n ∈ names' ↔ n ∈ names := fun n => (hnames n).symm
  have hfound : dependent? installed names = dependent? installed' names' := by
    ext ⟨m, d⟩
    rw [dependent?_eq_some_iff, dependent?_eq_some_iff]
    constructor
    · rintro ⟨hleast, hfirst⟩
      exact ⟨hleast.congr hmodules hnames, hfirst.congr hnames⟩
    · rintro ⟨hleast, hfirst⟩
      exact ⟨hleast.congr hmodules.symm hnames', hfirst.congr hnames'⟩
  rw [check, check, hfound]

end Orders

/-! ## Rulings -/

/-- The answer to a request, where something is installed. -/
inductive Ruling (catalog installed : Roster) (request : List Text) :
    Except Failure (List Text) → Prop where
  /-- A name is unknown or not installed. -/
  | refused (f : Fault)
      (hscreened : Screened catalog (· ∉ installed.names) .notInstalled request (.error f)) :
      Ruling catalog installed request (.error (.fault f))
  /-- All names are known and installed, and a module that stays needs one of them. -/
  | needed (names : List Text) (m : Module) (d : Text)
      (hscreened : Screened catalog (· ∉ installed.names) .notInstalled request (.ok names))
      (hleast : LeastDependent installed request m)
      (hfirst : IsFirst (· ∈ request) m.dependencies d) :
      Ruling catalog installed request (.error (.fault (.stillNeeded (.str d) (.str m.name))))
  /-- All names are known and installed, and nothing that stays needs one of them. -/
  | accepted (names : List Text)
      (hscreened : Screened catalog (· ∉ installed.names) .notInstalled request (.ok names))
      (hspared : ∀ m, ¬Dependent installed request m) :
      Ruling catalog installed request (.ok names)

/-- The outcome of a request is its ruling, and there is no other one. -/
theorem removalFor_eq_iff (hsome : installed.names ≠ []) {outcome : Except Failure (List Text)} :
    removalFor catalog installed request = outcome ↔ Ruling catalog installed request outcome := by
  have hsize : installed.size ≠ 0 := by
    rwa [← Roster.length_names, Ne, List.length_eq_zero_iff]
  have hcheck : ∀ {names},
      Screened catalog (· ∉ installed.names) .notInstalled request (.ok names) →
      check installed names = check installed request := fun hscreened =>
    check_congr (.refl _) hscreened.mem_iff
  unfold removalFor
  rw [if_neg hsize]
  constructor
  · rintro rfl
    cases hexplicit : explicit catalog installed request with
    | error f => exact .refused f (explicit_eq_iff.1 hexplicit)
    | ok names =>
        have hscreened := explicit_eq_iff.1 hexplicit
        simp only [Except.bind, hcheck hscreened]
        cases hchecked : check installed request with
        | error f =>
            obtain ⟨m, d, hleast, hfirst, rfl⟩ := check_eq_error_iff.1 hchecked
            exact .needed names m d hscreened hleast hfirst
        | ok _ => exact .accepted names hscreened (unneeded_iff.1 (check_eq_ok_iff.1 hchecked))
  · intro h
    cases h with
    | refused f hscreened =>
        rw [explicit_eq_iff.2 hscreened]
        rfl
    | needed names m d hscreened hleast hfirst =>
        rw [explicit_eq_iff.2 hscreened, Except.bind, hcheck hscreened,
          check_eq_error_iff.2 ⟨m, d, hleast, hfirst, rfl⟩]
        rfl
    | accepted names hscreened hspared =>
        rw [explicit_eq_iff.2 hscreened, Except.bind, hcheck hscreened,
          check_eq_ok_iff.2 (unneeded_iff.2 hspared)]
        rfl

/-! ## Runs -/

/-- Where nothing is installed, a removal of whatever form has nothing to do. -/
theorem runIn_resolveRequested_of_none {σ : Type} (reporter : Reporter (StateM σ))
    (prompter : Option (Prompter (StateM σ))) (hnone : installed.names = []) (request : Value)
    (s : σ) :
    (resolveRequested reporter prompter catalog installed request).runIn s =
      (.error (.halt .noneInstalled), s) := by
  have hsize : installed.size = 0 := by rw [← Roster.length_names, hnone, List.length_nil]
  have hresolve : ∀ request, (resolve reporter prompter catalog installed request).runIn s =
      (.error (.halt .noneInstalled), s) := by
    intro request
    unfold resolve
    rw [if_pos hsize]
    rfl
  unfold resolveRequested
  split
  · exact hresolve none
  · split
    · exact hresolve _
    · rw [if_pos hsize]
      rfl

/-- What stays and was satisfied is satisfied after an accepted removal. -/
theorem Ruling.satisfied (h : Ruling catalog installed request (.ok names)) :
    ∀ m ∈ installed.modules, m.name ∉ names → ∀ d ∈ m.dependencies, d ∈ installed.names →
      d ∈ Server.edited .remove names installed.names := by
  obtain _ | _ | ⟨_, hscreened, hspared⟩ := h
  intro m hm hstays d hd hpresent
  have hkept : d ∉ names := fun hgoes => hspared m
    ⟨hm, (hscreened.mem_iff _).not.1 hstays, d, hd, (hscreened.mem_iff d).1 hgoes⟩
  simpa [Server.edited] using And.intro hpresent hkept

/--
**The answer to a removal by name.**  Where something is installed, the run of a
request ends with its ruling and with nothing else.  If this accepts the
removal, then whatever a module that stays depends on is still there
afterwards, if it was there before.  Where nothing is installed, every request
ends with the report of it, whatever it asks for.
-/
theorem resolveRequested_eq_iff {σ : Type} (reporter : Reporter (StateM σ))
    (prompter : Option (Prompter (StateM σ))) (catalog installed : Roster) (s : σ) :
    (installed.names ≠ [] → ∀ request,
      (∀ outcome, ((resolveRequested reporter prompter catalog installed
        (Naming.ofTexts (some request))).runIn s).1 = outcome ↔
          Ruling catalog installed request outcome) ∧
      ∀ names, ((resolveRequested reporter prompter catalog installed
        (Naming.ofTexts (some request))).runIn s).1 = .ok names →
          ∀ m ∈ installed.modules, m.name ∉ names → ∀ d ∈ m.dependencies, d ∈ installed.names →
            d ∈ Server.edited .remove names installed.names) ∧
    (installed.names = [] → ∀ request : Value,
      (resolveRequested reporter prompter catalog installed request).runIn s =
        (.error (.halt .noneInstalled), s)) := by
  refine ⟨fun hsome request => ?_, fun hnone request =>
    runIn_resolveRequested_of_none reporter prompter hnone request s⟩
  rw [runIn_resolveRequested]
  exact ⟨fun outcome => removalFor_eq_iff hsome,
    fun names hnames => ((removalFor_eq_iff hsome).1 hnames).satisfied⟩

open Install (shopCatalog)

/--
Where the whole shop is installed, `stock` needs the `units`, and `report` needs
`orders` and `units`.  By name `report` comes first, and `orders` is the first
of what it declares.
-/
theorem resolveRequested_eq_iff_shop :
    shopCatalog.names ≠ [] ∧
      ((resolveRequested (fun _ => pure ()) none shopCatalog shopCatalog
        (Naming.ofTexts (some ["units", "orders", "mail", "units"]))).runIn ()).1 =
          .error (.fault (.stillNeeded (.str "orders") (.str "report"))) ∧
      Ruling shopCatalog shopCatalog ["units", "orders", "mail", "units"]
        (.error (.fault (.stillNeeded (.str "orders") (.str "report")))) := by
  have hsome : shopCatalog.names ≠ [] := by decide
  have hleast : LeastDependent shopCatalog ["units", "orders", "mail", "units"]
      ⟨"report", ["orders", "units"]⟩ := by
    refine ⟨⟨by decide, by decide, "orders", by decide, by decide⟩, fun m hdependent => ?_⟩
    have hleast : ∀ m ∈ shopCatalog.modules,
        m.name ∉ (["units", "orders", "mail", "units"] : List Text) →
          Text.numbers "report" ≤ m.name.numbers := by decide
    exact hleast m hdependent.recorded hdependent.stays
  have hfirst : IsFirst (· ∈ (["units", "orders", "mail", "units"] : List Text))
      ["orders", "units"] "orders" := ⟨by decide, [], ["units"], rfl, by simp⟩
  have hscreened : Screened shopCatalog (· ∉ shopCatalog.names) .notInstalled
      ["units", "orders", "mail", "units"] (.ok ["units", "orders", "mail"]) :=
    explicit_eq_iff.1 (explicit_eq_ok_iff.2 ⟨by decide, by decide, rfl⟩)
  have hruling : Ruling shopCatalog shopCatalog ["units", "orders", "mail", "units"]
      (.error (.fault (.stillNeeded (.str "orders") (.str "report")))) :=
    .needed _ _ _ hscreened hleast hfirst
  have hanswer := ((resolveRequested_eq_iff (fun _ => pure ()) none shopCatalog shopCatalog
    ()).1 hsome ["units", "orders", "mail", "units"]).1
  exact ⟨hsome, (hanswer _).2 hruling, hruling⟩

end ModuleKeeper.Removal
