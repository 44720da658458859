import ModuleKeeper.Install.Marking
import ModuleKeeper.Install.Plan

/-!
# Closures

All dependencies that an install has to add, direct and indirect, found
breadth first. The search does not look behind what is installed.

The search ends because each round takes a name from the queue, and a name
that joins the queue is marked as seen.

## Main results

* `mem_declared_of_mem_dependenciesOf`: the search meets declared names only.
* `closure_nil`: nothing requires nothing.
-/

namespace ModuleKeeper.Install

/-- A dependency that has to be added, and the module for which it was found. -/
structure Finding where
  declaredBy : Text
  name : Text
  deriving DecidableEq

/-- All names that some module of a roster declares. -/
def declared (catalog : Roster) : List Text := catalog.modules.flatMap Module.dependencies

theorem mem_declared_of_mem_dependenciesOf {catalog : Roster} {name d : Text}
    (h : d ∈ catalog.dependenciesOf name) : d ∈ declared catalog := by
  unfold Roster.dependenciesOf at h
  cases hm : catalog.get? name with
  | none => simp [hm] at h
  | some m =>
    simp only [hm, Option.map_some, Option.getD_some] at h
    exact List.mem_flatMap.2 ⟨m, Roster.mem_of_get? hm, h⟩

/--
The findings of a search that has seen the names `seen` and has the names of `queue`
to look at.
-/
def findings (catalog installed : Roster) (seen : List Text) : List Text → List Finding
  | [] => []
  | name :: queue =>
    let new := unseen installed seen (catalog.dependenciesOf name)
    new.map (Finding.mk name) ++ findings catalog installed (seen ++ new) (queue ++ new)
termination_by queue => (unmarked (declared catalog) seen).length + queue.length
decreasing_by
  have h := length_unmarked_append_add_le
    (unseen_nodup installed seen (catalog.dependenciesOf name))
    (fun d hd => ⟨mem_declared_of_mem_dependenciesOf (mem_unseen_iff.1 hd).1,
      (mem_unseen_iff.1 hd).2.2⟩)
  simp only [List.length_append, List.length_cons]
  omega

/-- What the search for all dependencies of the modules of a list finds. -/
def found (catalog installed : Roster) (names : List Text) : List Finding :=
  findings catalog installed names names

/-- All dependencies that an install of the modules of a list has to add, in the order found. -/
def closure (catalog installed : Roster) (names : List Text) : List Text :=
  (found catalog installed names).map Finding.name

theorem closure_nil (catalog installed : Roster) : closure catalog installed [] = [] := by
  simp [closure, found, findings]

end ModuleKeeper.Install
