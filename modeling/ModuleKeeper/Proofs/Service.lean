import ModuleKeeper.Proofs.Rosters
import ModuleKeeper.Server

/-!
# What a service is specified to do

A service is anything that answers requests and shows a catalog and the
modules of each database.  `Specified` says how its answers and its changes
go with what it shows.  It may fail at any request, with any reply that is
refused, and it lists databases as it likes.

The specification speaks of the answers as they are understood, not of their
bytes, so it leaves the service free in how it writes them.

## Main results

* `roster_of_readRoster`: a roster that is read is the one that is shown.
* `Service.get?_installed`: what is installed is recorded as in the catalog.
-/

namespace ModuleKeeper

/-- A service with states `ρ`: how it responds, and what it shows. -/
structure Service (ρ : Type) where
  respond : ρ → Request → Reply × ρ
  /-- All modules that it lists, in order; names may come again. -/
  catalog : ρ → List Module
  /-- The names of the modules of a database, in order; names may come again. -/
  modulesOf : ρ → Text → List Text

/-! ## Answers -/

/-- An object that describes a module by its name and its dependencies. -/
def Describes (entry : Value) (m : Module) : Prop :=
  (∃ fields, entry = .map fields) ∧ entry.field? "name" = some (.str m.name) ∧
    Module.dependencies? (entry.field? "dependencies") = some m.dependencies

/-- A module that is read from a description is the one that is described. -/
theorem Describes.eq_of_read {entry : Value} {m m' : Module} (h : Describes entry m)
    (hread : Module.read entry = .ok m') : m' = m := by
  obtain ⟨⟨fields, rfl⟩, hname, hdependencies⟩ := h
  rw [Module.read, Module.ofFields, hname] at hread
  dsimp only at hread
  split at hread
  · cases hread
  · rw [hdependencies] at hread
    exact (Except.ok.inj hread).symm

theorem describes_toValue (m : Module) : Describes m.toValue m := by
  refine ⟨⟨_, rfl⟩, Module.field?_name_toValue m, ?_⟩
  rw [Module.field?_dependencies_toValue, Module.dependencies?_list]

/-- An answer that lists modules, one description for each, in order. -/
def Lists (answer : Value) (ms : List Module) : Prop :=
  ∃ entries, Registry.listed answer = .ok entries ∧ List.Forall₂ Describes entries ms

theorem roster_of_readRoster {role : Role} {reply : Reply} {ms : List Module} {r : Roster}
    (hlists : ∀ answer, Gateway.interpret reply = .ok answer → Lists answer ms)
    (hread : (Registry.readRoster role reply).2 = .ok r) : r = Roster.ofModules ms := by
  unfold Registry.readRoster at hread
  cases hreply : Gateway.interpret reply with
  | error f =>
      rw [hreply] at hread
      cases hread
  | ok answer =>
      obtain ⟨entries, hentries, hdescribes⟩ := hlists answer hreply
      rw [hreply] at hread
      simp only [Registry.rosterOf, hentries] at hread
      cases hresult : (Roster.read entries).2 with
      | error cause =>
          rw [hresult] at hread
          cases hread
      | ok r' =>
          rw [hresult] at hread
          rw [← Except.ok.inj hread]
          exact Roster.readFrom_eq_ok (fun _ _ _ => Describes.eq_of_read) hdescribes hresult

/-! ## States -/

namespace Service

variable {ρ : Type} (S : Service ρ)

/-- What the catalog says about a name: the first module, or one that declares nothing. -/
def describe (s : ρ) (name : Text) : Module :=
  ((S.catalog s).find? (·.name = name)).getD ⟨name, []⟩

/-- The modules that a list of a role is to hold. -/
def shown (s : ρ) (database : Text) : Role → List Module
  | .catalog => S.catalog s
  | .installed => (S.modulesOf s database).map (S.describe s)

/-- What a client makes of a list of a role. -/
def roster (s : ρ) (database : Text) (role : Role) : Roster :=
  Roster.ofModules (S.shown s database role)

/-- Two states that show the same. -/
structure Same (s t : ρ) : Prop where
  catalog : S.catalog t = S.catalog s
  modulesOf : ∀ database, S.modulesOf t database = S.modulesOf s database

/-- The second state shows what a change makes of the first one. -/
structure Edited (e : Registry.Edit) (database : Text) (names : List Text) (s t : ρ) : Prop where
  catalog : S.catalog t = S.catalog s
  target : S.modulesOf t database = Server.edited e names (S.modulesOf s database)
  others : ∀ other, other ≠ database → S.modulesOf t other = S.modulesOf s other

/--
How a service answers the calls of a gateway.  Lists hold what it shows, a
change that is accepted is made, and a change that is refused is made as a
whole or not at all.  Only changes change anything.
-/
structure Specified (g : Gateway) : Prop where
  lists : ∀ s role database q,
    g.request (Registry.rosterCall role database).1 (Registry.rosterCall role database).2 = .ok q →
      S.Same s (S.respond s q).2 ∧ ∀ answer, Gateway.interpret (S.respond s q).1 = .ok answer →
        Lists answer (S.shown s database role)
  databases : ∀ s q,
    g.request Registry.databasesCall.1 Registry.databasesCall.2 = .ok q →
      S.Same s (S.respond s q).2
  accepted : ∀ s (e : Registry.Edit) database names q,
    g.request e.path (Registry.Edit.body database names) = .ok q →
      (∃ answer, Gateway.interpret (S.respond s q).1 = .ok answer) →
        S.Edited e database names s (S.respond s q).2
  refused : ∀ s (e : Registry.Edit) database names q,
    g.request e.path (Registry.Edit.body database names) = .ok q →
      (∃ f, Gateway.interpret (S.respond s q).1 = .error f) →
        S.Same s (S.respond s q).2 ∨ S.Edited e database names s (S.respond s q).2

variable {S}

theorem Same.refl (s : ρ) : S.Same s s := ⟨rfl, fun _ => rfl⟩

theorem Same.trans {s t u : ρ} (h : S.Same s t) (h' : S.Same t u) : S.Same s u :=
  ⟨h'.catalog.trans h.catalog, fun database =>
    (h'.modulesOf database).trans (h.modulesOf database)⟩

theorem Same.edited {s t u : ρ} {e : Registry.Edit} {database : Text} {names : List Text}
    (h : S.Same s t) (h' : S.Edited e database names t u) : S.Edited e database names s u where
  catalog := h'.catalog.trans h.catalog
  target := by rw [h'.target, h.modulesOf]
  others := fun other hother => (h'.others other hother).trans (h.modulesOf other)

theorem Same.shown {s t : ρ} (h : S.Same s t) (database : Text) (role : Role) :
    S.shown t database role = S.shown s database role := by
  have hdescribe : S.describe t = S.describe s := by
    funext name
    rw [describe, describe, h.catalog]
  cases role with
  | catalog => exact h.catalog
  | installed => rw [Service.shown, Service.shown, h.modulesOf, hdescribe]

/-! ## Rosters -/

theorem describe_name (s : ρ) (name : Text) : (S.describe s name).name = name := by
  unfold describe
  cases h : (S.catalog s).find? (·.name = name) with
  | none => rfl
  | some m => simpa using List.find?_some h

theorem mem_names_installed {s : ρ} {database name : Text} :
    name ∈ (S.roster s database .installed).names ↔ name ∈ S.modulesOf s database := by
  rw [roster, Roster.mem_names_ofModules]
  simp only [Service.shown, List.mem_map, exists_exists_and_eq_and, describe_name, exists_eq_right]

/-- An installed module is recorded with what the catalog says about its name. -/
theorem get?_installed {s : ρ} {database name : Text} (h : name ∈ S.modulesOf s database) :
    (S.roster s database .installed).get? name = some (S.describe s name) := by
  obtain ⟨m, hm⟩ := Option.isSome_iff_exists.1
    (Roster.get?_isSome_iff.2 (mem_names_installed.2 h))
  have hfind := hm
  rw [roster, Roster.get?_ofModules] at hfind
  obtain ⟨name', -, rfl⟩ := List.mem_map.1 (List.mem_of_find?_eq_some hfind)
  have hname : name' = name := by
    have hself := Roster.name_of_get? hm
    rwa [describe_name] at hself
  rw [hm, hname]

end Service

end ModuleKeeper
