import ModuleKeeper.Proofs.Dependency
import ModuleKeeper.Proofs.Removing

/-!
# Recorded and declared dependencies

What a module depends on is said twice: the catalog declares it, and the list
of what a database has may record it.  An entry of this list may also be a bare
name, which records nothing.  A removal is checked against what is recorded and
not against what the catalog declares.  So it spares whatever is recorded to
need one of its names, and it spares whatever is declared to need one only
where the records have this too.

## Main results

* `Roster.exists_read_of_mem`: every module of a roster stands for an entry.
* `Removal.unneeded_of_resolveRequested`: what a removal spares.
* `Removal.removalFor_of_bareNames`: where nothing is recorded, nothing that is
  known and installed is refused.
* `Removal.resolveRequested_lib`: a removal that breaks a module of the catalog.
-/

namespace ModuleKeeper

/-! ## Entries -/

theorem Roster.mem_modules_add {r : Roster} {m m' : Module} (h : m' ∈ (r.add m).modules) :
    m' ∈ r.modules ∨ m' = m := by
  unfold add at h
  split at h
  · exact Or.inl h
  · simpa using h

theorem Roster.exists_of_mem_readFrom {m : Module} {entries : List Value} {r r' : Roster}
    {repeated : List Text} (h : (readFrom r repeated entries).2 = .ok r') (hm : m ∈ r'.modules) :
    m ∈ r.modules ∨ ∃ entry ∈ entries, Module.read entry = .ok m := by
  induction entries generalizing r repeated with
  | nil =>
      rw [readFrom] at h
      obtain rfl : r = r' := Except.ok.inj h
      exact Or.inl hm
  | cons entry entries ih =>
      rw [readFrom] at h
      cases hentry : Module.read entry with
      | error e =>
          rw [hentry] at h
          cases h
      | ok m₀ =>
          rw [hentry] at h
          dsimp only at h
          -- The roster grows by the module of this entry, or it stays as it is.
          have hgrown : (∃ entry ∈ entries, Module.read entry = .ok m) ∨
              m ∈ r.modules ∨ m = m₀ := by
            split at h
            · exact (ih h).symm.imp_right Or.inl
            · exact (ih h).symm.imp_right mem_modules_add
          rcases hgrown with ⟨e, he, hread⟩ | hold | rfl
          · exact Or.inr ⟨e, List.mem_cons_of_mem entry he, hread⟩
          · exact Or.inl hold
          · exact Or.inr ⟨entry, List.mem_cons_self, hentry⟩

/-- Every module of a roster stands for an entry that it was read from. -/
theorem Roster.exists_read_of_mem {entries : List Value} {r : Roster} {m : Module}
    (h : (read entries).2 = .ok r) (hm : m ∈ r.modules) :
    ∃ entry ∈ entries, Module.read entry = .ok m :=
  (exists_of_mem_readFrom h hm).resolve_left List.not_mem_nil

/-- A bare name records no dependencies. -/
theorem Module.dependencies_of_bareName {name : Text} {m : Module}
    (h : read (.str name) = .ok m) : m.dependencies = [] := by
  by_cases hname : name = ""
  · subst hname
    cases h
  · have hread : read (.str name) = .ok ⟨name, []⟩ := by
      simp [read, ofFields, hname, Value.field?, Value.lookup?, Value.sameKey, dependencies?]
    rw [← Except.ok.inj (hread.symm.trans h)]

/-- A catalog, read as a list of what is installed, records whatever it declares. -/
theorem Install.Declares.mem_dependencies {catalog : Roster} {m : Module} {d : Text}
    (h : Declares catalog m.name d) (hm : m ∈ catalog.modules) : d ∈ m.dependencies := by
  obtain ⟨m', hm', hname, hd⟩ := h
  have hsame : m' = m := List.inj_on_of_nodup_map catalog.distinct hm' hm hname
  rwa [← hsame]

namespace Removal

variable {ρ υ : Type} {catalog installed : Roster} {payload : List Value} {names : List Text}

/-! ## What a removal spares -/

/--
**What a removal spares.**  However a removal was accepted, by name or by a
selection, whatever stays was read from an entry that records no need of one of
the names.  So if the records have whatever the catalog declares, the catalog
declares for nothing that stays that it needs one of the names.
-/
theorem unneeded_of_resolveRequested (hread : (Roster.read payload).2 = .ok installed)
    {user : Option (User υ)} {request : Value} {s s' : Scene ρ υ}
    (hrun : (resolveRequested Scene.note (user.map User.prompter) catalog installed
      request).runIn s = (.ok names, s')) :
    (∀ n ∈ installed.names, n ∉ names →
      ∃ entry ∈ payload, ∃ m, Module.read entry = .ok m ∧ m.name = n ∧
        ∀ d ∈ m.dependencies, d ∉ names) ∧
    ((∀ m ∈ installed.modules, ∀ d, Install.Declares catalog m.name d → d ∈ m.dependencies) →
      ∀ n ∈ installed.names, n ∉ names → ∀ d, Install.Declares catalog n d → d ∉ names) := by
  have hremovable : Removable installed names :=
    ((Task.Keeps.resolveRequested user catalog installed request (p := fun _ : ρ => True)).of_ok
      trivial hrun).1
  have hunneeded : Unneeded installed names := check_eq_ok_iff.1 hremovable.checked
  refine ⟨fun n hn hstays => ?_, fun hrecorded n hn hstays d hdecl => ?_⟩
  · obtain ⟨m, hm, rfl⟩ := List.mem_map.1 hn
    obtain ⟨entry, hentry, hm'⟩ := Roster.exists_read_of_mem hread hm
    exact ⟨entry, hentry, m, hm', rfl, hunneeded m hm hstays⟩
  · obtain ⟨m, hm, rfl⟩ := List.mem_map.1 hn
    exact hunneeded m hm hstays d (hrecorded m hm d hdecl)

/-- An `app` needs the `lib`. -/
def appCatalog : Roster := ⟨[⟨"app", ["lib"]⟩, ⟨"lib", []⟩], by decide⟩

/-- Where both are there with their records, the `app` can go, and the `lib` does not miss it. -/
theorem unneeded_of_resolveRequested_app :
    (Roster.read appCatalog.toValues).2 = .ok appCatalog ∧
      ∃ s', (resolveRequested Scene.note ((none : Option (User Unit)).map User.prompter) appCatalog
          appCatalog (Naming.ofTexts (some ["app"]))).runIn (Scene.start () ()) =
            (.ok ["app"], s') ∧
        ∀ n ∈ appCatalog.names, n ∉ ([Text.ofString "app"] : List Text) →
          ∀ d, Install.Declares appCatalog n d → d ∉ ([Text.ofString "app"] : List Text) := by
  have hread : (Roster.read appCatalog.toValues).2 = .ok appCatalog := by rfl
  have hrun := Task.runIn_eq_ok (t := resolveRequested (Scene.note (ρ := Unit))
    ((none : Option (User Unit)).map User.prompter) appCatalog appCatalog
    (Naming.ofTexts (some ["app"]))) (s := Scene.start () ()) (a := ["app"]) (by decide +kernel)
  refine ⟨hread, _, hrun, (unneeded_of_resolveRequested hread hrun).2 ?_⟩
  exact fun m hm d hdecl => hdecl.mem_dependencies hm

/-! ## Lists of bare names -/

/-- Where an old list names its modules only, all that is known and installed can be removed. -/
theorem removalFor_of_bareNames (hread : (Roster.read payload).2 = .ok installed)
    (hbare : ∀ entry ∈ payload, ∃ n, entry = .str n) {request : List Text}
    (hsome : installed.names ≠ []) (hknown : ∀ n ∈ request, n ∈ catalog.names)
    (hpresent : ∀ n ∈ request, n ∈ installed.names) :
    removalFor catalog installed request = .ok request.eraseDups := by
  refine removalFor_eq_ok_iff.2 ⟨hsome, hknown, hpresent, ?_, rfl⟩
  intro m hm _ d hd
  obtain ⟨entry, hentry, hm'⟩ := Roster.exists_read_of_mem hread hm
  obtain ⟨n, rfl⟩ := hbare entry hentry
  rw [Module.dependencies_of_bareName hm'] at hd
  cases hd

/--
Where both are there by their bare names, the `lib` can go before the `app`,
although the catalog declares that the `app` needs it.
-/
theorem resolveRequested_lib :
    ∃ installed, (Roster.read [.str "app", .str "lib"]).2 = .ok installed ∧
      ((resolveRequested Scene.note (none : Option (Prompter (StateM (Scene Unit Unit)))) appCatalog
        installed (Naming.ofTexts (some ["lib"]))).runIn (Scene.start () ())).1 = .ok ["lib"] ∧
      Text.ofString "app" ∈ installed.names ∧ Text.ofString "app" ∉ [Text.ofString "lib"] ∧
      Install.Declares appCatalog "app" "lib" := by
  refine ⟨⟨[⟨"app", []⟩, ⟨"lib", []⟩], by decide⟩, by rfl, ?_, by decide, by decide, ?_⟩
  · exact congrArg Prod.fst (Task.runIn_eq_ok (by decide +kernel))
  · exact ⟨⟨"app", ["lib"]⟩, by decide, rfl, by decide⟩

end Removal

end ModuleKeeper
