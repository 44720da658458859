import ModuleKeeper.Proofs.Commands
import ModuleKeeper.Proofs.ServerSpecified

/-!
# Databases stay closed under dependencies

A database is closed if everything that the catalog declares for one of its
modules is there too.  A transitive install keeps this, because its names need
nothing that is not installed already; the search may stop at installed names,
because what is installed needs nothing else.  A removal keeps it, because no
module that stays is recorded with a dependency that goes.

## Main results

* `Service.Justified.dependencyClosed`: one justified change keeps the
  databases closed.
* `Service.dependencyClosed_after`: so does every run of commands.
-/

namespace ModuleKeeper

variable {ρ υ : Type} {S : Service ρ}

namespace Service

/--
Whatever the first module of the catalog with the name of an installed module
declares is installed in the same database.
-/
def DependencyClosed (S : Service ρ) (s : ρ) : Prop :=
  ∀ database, ∀ name ∈ S.modulesOf s database, ∀ m ∈ (S.catalog s).find? (·.name = name),
    ∀ d ∈ m.dependencies, d ∈ S.modulesOf s database

theorem Same.dependencyClosed {s t : ρ} (h : S.Same s t) (hclosed : S.DependencyClosed s) :
    S.DependencyClosed t := by
  intro database name hname m hm d hd
  rw [h.catalog] at hm
  rw [h.modulesOf] at hname ⊢
  exact hclosed database name hname m hm d hd

/-! ## One change -/

/-- The catalog declares what its first module of a name declares. -/
theorem declares_of_find? {s : ρ} {database name d : Text} {m : Module}
    (hm : m ∈ (S.catalog s).find? (·.name = name)) (hd : d ∈ m.dependencies) :
    Install.Declares (S.roster s database .catalog) name d := by
  have hget : (S.roster s database .catalog).get? name = some m := by
    rw [roster, Roster.get?_ofModules]
    exact hm
  obtain ⟨hmem, hname⟩ := Roster.get?_eq_some_iff.1 hget
  exact ⟨m, hmem, hname, hd⟩

/-- It is enough to look at the database that was changed. -/
theorem Edited.dependencyClosed {s t : ρ} {e : Registry.Edit} {database : Text}
    {names : List Text} (h : S.Edited e database names s t) (hclosed : S.DependencyClosed s)
    (htarget : ∀ name ∈ Server.edited e names (S.modulesOf s database),
      ∀ m ∈ (S.catalog s).find? (·.name = name),
        ∀ d ∈ m.dependencies, d ∈ Server.edited e names (S.modulesOf s database)) :
    S.DependencyClosed t := by
  intro other name hname m hm d hd
  rw [h.catalog] at hm
  by_cases hother : other = database
  · subst hother
    rw [h.target] at hname ⊢
    exact htarget name hname m hm d hd
  · rw [h.others other hother] at hname ⊢
    exact hclosed other name hname m hm d hd

/-- What a transitive plan adds needs nothing that is not installed then. -/
theorem dependencyClosed_of_planned {s t : ρ} {database : Text} {plan : Install.Plan Text}
    (hplanned : Planned (S.roster s database .catalog) (S.roster s database .installed) true plan)
    (hedited : S.Edited .install database plan.modules s t) (hclosed : S.DependencyClosed s) :
    S.DependencyClosed t := by
  refine hedited.dependencyClosed hclosed fun name hname m hm d hd => ?_
  have hmodules := Install.modules_of_complete hplanned.completed
  rw [Server.edited, List.mem_append] at hname ⊢
  rcases hname with hold | hnew
  · exact Or.inl (hclosed database name hold m hm d hd)
  · by_cases hpresent : d ∈ S.modulesOf s database
    · exact Or.inl hpresent
    · refine Or.inr ?_
      rw [hmodules] at hnew ⊢
      refine Install.closedUnder_hull _ _ _ name hnew d (declares_of_find? hm hd) ?_
      rwa [mem_names_installed]

/-- No module that stays is recorded with a dependency that goes. -/
theorem dependencyClosed_of_removable {s t : ρ} {database : Text} {names : List Text}
    (hremovable : Removable (S.roster s database .installed) names)
    (hedited : S.Edited .remove database names s t) (hclosed : S.DependencyClosed s) :
    S.DependencyClosed t := by
  refine hedited.dependencyClosed hclosed fun name hname m hm d hd => ?_
  have hmem : ∀ n, n ∈ Server.edited .remove names (S.modulesOf s database) ↔
      n ∈ S.modulesOf s database ∧ n ∉ names := by
    intro n
    simp [Server.edited]
  rw [hmem] at hname ⊢
  obtain ⟨hpresent, hstays⟩ := hname
  refine ⟨hclosed database name hpresent m hm d hd, fun hgoes => ?_⟩
  have hrecord : S.describe s name = m := by
    rw [describe, Option.mem_def.1 hm]
    rfl
  have hget := get?_installed (S := S) hpresent
  rw [hrecord] at hget
  obtain ⟨hm', hmname⟩ := Roster.get?_eq_some_iff.1 hget
  refine Removal.not_needed_of_check hremovable.checked hm' ?_ hd hgoes
  rwa [hmname]

/-- One justified change of a transitive command keeps the databases closed. -/
theorem Justified.dependencyClosed {s t : ρ} {transitive : Bool} {database : Text}
    {e : Registry.Edit} {names : List Text} (h : S.Justified s transitive database e names)
    (htransitive : e = .install → transitive = true)
    (hedited : S.Edited e database names s t) (hclosed : S.DependencyClosed s) :
    S.DependencyClosed t := by
  cases h with
  | install plan hplanned =>
      rw [htransitive rfl] at hplanned
      exact dependencyClosed_of_planned hplanned hedited hclosed
  | remove names hremovable => exact dependencyClosed_of_removable hremovable hedited hclosed

/-! ## Runs -/

variable {g : Gateway}

theorem dependencyClosed_next (hS : S.Specified g) {scene : Scene ρ υ}
    (hclosed : S.DependencyClosed scene.service) {c : Command υ}
    (htransitive : c.edit = .install → c.transitive.truthy = true) :
    S.DependencyClosed (Command.next S g scene c).service := by
  have hlaw := c.ensures_task hS scene.service scene (Same.refl _)
  unfold Command.next
  rcases hrun : (c.task S g).runIn scene with ⟨f | _, scene'⟩
  · rw [hrun] at hlaw
    rcases hlaw with hsame | ⟨database, names, hjustified, hrefused⟩
    · exact hsame.dependencyClosed hclosed
    · rcases hrefused.same_or_edited hS with hsame | hedited
      · exact hsame.dependencyClosed hclosed
      · exact hjustified.dependencyClosed htransitive hedited hclosed
  · rw [hrun] at hlaw
    obtain ⟨database, names, hjustified, haccepted⟩ := hlaw
    exact hjustified.dependencyClosed htransitive (haccepted.edited hS) hclosed

/--
**Databases stay closed.**  Let a service answer as it is specified to, and let
every database be closed under the dependencies of the catalog.  Then every
database is closed after each command of a run of removals and transitive
installs, whatever they ask for, whatever the user answers, and whichever of
them fail.
-/
theorem dependencyClosed_after (hS : S.Specified g) (commands : List (Command υ))
    (htransitive : ∀ c ∈ commands, c.edit = .install → c.transitive.truthy = true)
    (scene : Scene ρ υ) (hclosed : S.DependencyClosed scene.service) (k : Nat) :
    S.DependencyClosed (S.after g scene (commands.take k)).service := by
  induction commands generalizing scene k with
  | nil => simpa [after] using hclosed
  | cons c commands ih =>
      cases k with
      | zero => exact hclosed
      | succ k =>
          have hnext := dependencyClosed_next hS hclosed (htransitive c (by simp))
          exact ih (fun d hd => htransitive d (by simp [hd])) _ hnext k

/-! ## A run on a shop -/

/-- A gateway to a server on the same machine. -/
def localGateway : Gateway := ⟨"http://localhost", .null, .int 30⟩

/-- The server of a shop, with one database that has `stock` and what it needs. -/
def shopServer : Server := ⟨Install.shopModules, [("main", ["units", "stock"])], []⟩

/-- A user who always takes the second of the modules and the first of the databases. -/
def decidedUser : User Unit where
  selectMany := fun _ _ u => (.ok [1], u)
  selectOne := fun _ _ _ u => (.ok 0, u)
  confirm := fun _ _ u => (.ok (.bool true), u)

/-- `units` is still needed and stays; `stock` goes, and comes back by selection. -/
def shopCommands : List (Command Unit) :=
  [⟨.remove, .given "main", .list [.str "units"], .bool true, .bool true, none⟩,
    ⟨.remove, .resolved (some "main"), .list [.str "stock"], .bool true, .bool true, none⟩,
    ⟨.install, .resolved none, .null, .bool true, .bool false, some decidedUser⟩]

theorem modulesOf_shopServer_of_ne {database : Text} (h : database ≠ "main") :
    Server.service.modulesOf shopServer database = [] := by
  show Server.modulesOf shopServer database = []
  simp [Server.modulesOf, shopServer, Ne.symm h]

theorem dependencyClosed_shopServer : Server.service.DependencyClosed shopServer := by
  intro database
  by_cases hmain : database = "main"
  · subst hmain
    decide
  · rw [modulesOf_shopServer_of_ne hmain]
    simp

/-- The database of the shop is closed before, between and after the three commands. -/
theorem dependencyClosed_after_shopCommands :
    Server.service.Specified localGateway ∧
      (∀ c ∈ shopCommands, c.edit = .install → c.transitive.truthy = true) ∧
      Server.service.DependencyClosed shopServer ∧
      ∀ k, Server.service.DependencyClosed
        (after Server.service localGateway (Scene.start shopServer ())
          (shopCommands.take k)).service := by
  have hspecified : Server.service.Specified localGateway := Server.specified (by decide)
  have htransitive : ∀ c ∈ shopCommands, c.edit = .install → c.transitive.truthy = true := by
    decide
  refine ⟨hspecified, htransitive, dependencyClosed_shopServer, fun k => ?_⟩
  exact dependencyClosed_after hspecified shopCommands htransitive _ dependencyClosed_shopServer k

end Service

end ModuleKeeper
