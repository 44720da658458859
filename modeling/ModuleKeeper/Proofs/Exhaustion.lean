import ModuleKeeper.Proofs.Requests

/-!
# Nothing left to install

The planner reports that every module is installed if as many modules are
installed as the catalog has.  A database can have modules that the catalog
does not have, be it that they were taken from the catalog or that they came
as dependencies that the catalog never had.  They stand in for modules that
are left, so the report says something else than its words: that as many
modules are left as are installed beside the catalog.

## Main results

* `isExhausted_iff_length`: the numbers agree if as many modules are left as
  are strays.
* `planRequested_nothingLeft_iff`: which requests are answered by the report.
* `planFor_lamp_nothingLeft`: the report about a module that is left, behind an
  install of the planner's own.
-/

namespace ModuleKeeper.Install

/-- The names that are installed without being in the catalog. -/
def strays (catalog installed : Roster) : List Text :=
  installed.names.filter fun n => !catalog.has n

theorem strays_eq_nil_iff {catalog installed : Roster} :
    strays catalog installed = [] ↔ ∀ n ∈ installed.names, n ∈ catalog.names := by
  simp [strays]

/-- The numbers of the catalog and of what is installed agree if as many are left as are strays. -/
theorem isExhausted_iff_length {catalog installed : Roster} :
    isExhausted catalog installed = true ↔
      (offered catalog installed).length = (strays catalog installed).length := by
  have hcatalog := List.length_eq_length_filter_add (l := catalog.names) fun n => installed.has n
  have hinstalled := List.length_eq_length_filter_add (l := installed.names) fun n => catalog.has n
  have hshared : (catalog.names.filter fun n => installed.has n).Perm
      (installed.names.filter fun n => catalog.has n) := by
    refine (List.perm_ext_iff_of_nodup (catalog.names_nodup.filter _)
      (installed.names_nodup.filter _)).2 fun n => ?_
    simp [and_comm]
  have hlength := hshared.length_eq
  have hnumbers : isExhausted catalog installed = true ↔
      installed.names.length = catalog.names.length := by simp [isExhausted]
  rw [hnumbers, offered, strays]
  omega

/-! ## The report -/

/-- The end of a request to which nothing is left to be installed. -/
def nothingLeft : Failure := .halt .allInstalled

/-- A user who selects or fails, and does not report in the planner's stead that nothing is left. -/
def Selecting {υ : Type} (u : User υ) : Prop :=
  ∀ question options s, (u.selectMany question options s).1 ≠ .error nothingLeft

variable {ρ υ : Type} {user : Option (User υ)} {transitive : Bool} {catalog installed : Roster}

open ModuleKeeper.Task

/-- Where the numbers differ, nothing is said of the kind. -/
theorem avoids_planRequested (huser : ∀ u ∈ user, Selecting u)
    (hroom : isExhausted catalog installed = false) (request : Value) :
    Avoids (planRequested (Scene.note (ρ := ρ)) (user.map User.prompter) transitive catalog
      installed request) nothingLeft := by
  have hprompter : ∀ p ∈ user.map (User.prompter (ρ := ρ)), ∀ question options,
      Avoids (p.selectMany question options) nothingLeft := by
    intro p hp question options
    obtain ⟨u, hu, rfl⟩ := Option.map_eq_some_iff.1 hp
    exact Avoids.ask (huser u hu question options)
  exact Avoids.planRequested hprompter nofun
    (fun hfull => absurd hfull (Bool.eq_false_iff.1 hroom)) transitive request

/-- If the numbers agree, nothing else counts, not even the form of the request. -/
theorem runIn_planRequested_of_exhausted (hfull : isExhausted catalog installed = true)
    (request : Value) (s : Scene ρ υ) :
    (planRequested Scene.note (user.map User.prompter) transitive catalog installed
      request).runIn s = (.error nothingLeft, s) := by
  have hplan : ∀ request, (plan Scene.note (user.map User.prompter) transitive catalog installed
      request).runIn s = (.error nothingLeft, s) := by
    intro request
    unfold plan
    rw [hfull]
    rfl
  unfold planRequested
  split
  · exact hplan none
  · split
    · exact hplan _
    · rw [hfull]
      rfl

/--
**What the report means.**  A request for an install, of whatever form, is
answered by the report that nothing is left exactly if as many modules of the
catalog are left as are installed without being in the catalog.  Wherever only
modules of the catalog are installed, this is what the report says: that every
module is installed.
-/
theorem planRequested_nothingLeft_iff (user : Option (User υ))
    (huser : ∀ u ∈ user, Selecting u) (transitive : Bool) (catalog installed : Roster)
    (request : Value) (s : Scene ρ υ) :
    (((planRequested Scene.note (user.map User.prompter) transitive catalog installed
        request).runIn s).1 = .error nothingLeft ↔
      (offered catalog installed).length = (strays catalog installed).length) ∧
    (strays catalog installed = [] →
      (((planRequested Scene.note (user.map User.prompter) transitive catalog installed
          request).runIn s).1 = .error nothingLeft ↔
        ∀ n ∈ catalog.names, n ∈ installed.names)) := by
  have hreport : ((planRequested Scene.note (user.map User.prompter) transitive catalog installed
      request).runIn s).1 = .error nothingLeft ↔ isExhausted catalog installed = true := by
    cases hfull : isExhausted catalog installed with
    | true => simp [runIn_planRequested_of_exhausted hfull]
    | false => simpa using avoids_planRequested huser hfull request s
  refine ⟨hreport.trans isExhausted_iff_length, fun hstrays => hreport.trans ?_⟩
  exact isExhausted_iff (strays_eq_nil_iff.1 hstrays)

/-- The modules of a depot.  A `shelf` needs `bolts`, which are not in the catalog. -/
def depotCatalog : Roster := ⟨[⟨"shelf", ["bolts"]⟩, ⟨"lamp", []⟩], by decide⟩

/-- A user who selects nothing. -/
def idleUser : User Unit where
  selectMany := fun _ _ u => (.ok [], u)
  selectOne := fun _ _ _ u => (.ok 0, u)
  confirm := fun _ _ u => (.ok (.bool true), u)

/-- Where the depot has nothing, there is no report: two modules are left, and none is a stray. -/
theorem planRequested_nothingLeft_depot :
    (∀ u ∈ some idleUser, Selecting u) ∧
      ((planRequested Scene.note ((some idleUser).map User.prompter) true depotCatalog Roster.empty
        .null).runIn (Scene.start () ())).1 ≠ .error nothingLeft := by
  have hselecting : ∀ u ∈ some idleUser, Selecting u := by
    rintro u ⟨⟩ question options s
    nofun
  refine ⟨hselecting, ?_⟩
  rw [Ne, (planRequested_nothingLeft_iff (some idleUser) hselecting true depotCatalog Roster.empty
    .null (Scene.start () ())).1]
  decide

/-! ## Wrong reports -/

/-- The depot with a `shelf` and what came with it. -/
def shelfInstalled : Roster := ⟨[⟨"shelf", ["bolts"]⟩, ⟨"bolts", []⟩], by decide⟩

/-- The depot with all modules of the catalog and the `bolts`. -/
def depotInstalled : Roster := ⟨[⟨"shelf", ["bolts"]⟩, ⟨"bolts", []⟩, ⟨"lamp", []⟩], by decide⟩

/--
The planner adds `bolts` to a `shelf`.  From then on it reports that nothing is
left as long as the `lamp` is left, and no longer when the `lamp` is there.
-/
theorem planFor_lamp_nothingLeft :
    planFor depotCatalog Roster.empty false ["shelf"] = .ok ⟨["shelf"], ["bolts"]⟩ ∧
      planFor depotCatalog shelfInstalled false ["lamp"] = .error nothingLeft ∧
      (∃ n ∈ depotCatalog.names, n ∉ shelfInstalled.names) ∧
      planFor depotCatalog depotInstalled false ["lamp"] =
        .error (.fault (.alreadyInstalled (.str "lamp"))) ∧
      ∀ n ∈ depotCatalog.names, n ∈ depotInstalled.names := by
  refine ⟨by cbv, by cbv, ?_, by cbv, by decide⟩
  exact ⟨Text.ofString "lamp", by decide, by decide⟩

end ModuleKeeper.Install
