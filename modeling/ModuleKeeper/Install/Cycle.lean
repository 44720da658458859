import ModuleKeeper.Install.Marking
import ModuleKeeper.Roster

/-!
# Cycles

Whether modules need each other. A depth-first search walks the declared
dependencies among the given names. It keeps the names on the way to where
it stands and the names behind which there is no cycle, and stops at the first
name that is on its own way.

The search goes down only to names that are on the way to nowhere yet, so it
ends.

## Main results

* `search_nil`: with nothing to look at, nothing is found.
-/

namespace ModuleKeeper.Install

/-- The cycle that `name` closes on the way `path`, whose last name comes first. -/
def closing (name : Text) (path : List Text) : List Text :=
  name :: ((path.takeWhile (· ≠ name)).reverse ++ [name])

/--
Searches behind the names of a list, in order. `path` is the way to where the search
stands, last name first, and `done` are the names behind which there is no cycle. The
result is a cycle or the names that are done then.
-/
def search (catalog : Roster) (members path done : List Text) :
    List Text → Except (List Text) (List Text)
  | [] => .ok done
  | name :: names =>
    if name ∈ done then search catalog members path done names
    else if name ∈ path then .error (closing name path)
    else if _ : name ∈ members then
      match search catalog members (name :: path) done (catalog.dependenciesOf name) with
      | .error cycle => .error cycle
      | .ok done => search catalog members path (name :: done) names
    else search catalog members path done names
termination_by names => ((unmarked members path).length, names.length)
decreasing_by
  all_goals simp_wf
  · exact Prod.Lex.right _ (by omega)
  · exact Prod.Lex.left _ _ (length_unmarked_cons_lt (by assumption) (by assumption))
  · exact Prod.Lex.right _ (by omega)
  · exact Prod.Lex.right _ (by omega)

theorem search_nil (catalog : Roster) (members path done : List Text) :
    search catalog members path done [] = .ok done := by
  simp [search]

/-- A cycle of dependencies among the modules of a list, with its first name again at the end. -/
def cycle? (catalog : Roster) (members : List Text) : Option (List Text) :=
  match search catalog members [] [] members with
  | .error cycle => some cycle
  | .ok _ => none

end ModuleKeeper.Install
