import ModuleKeeper.Log.Level
import ModuleKeeper.Value

/-!
# Notices

What the program reports about its own work while it runs, apart from its
output: how grave it is, which part of the program says it, its text, and for
changes the database and the modules that they touch.

## Main results

* `sorted_perm`: sorting notices loses none.
-/

namespace ModuleKeeper

/-- The parts of the program that report on their work. -/
inductive Source where
  | rosters
  | planning
  | removal
  | gateway
  | settings
  | settingsFile
  | keeper
  | exchange
  | commandLine
  deriving DecidableEq, Inhabited

/-- The name under which a part of the program appears in the log. -/
def Source.name : Source → Text
  | rosters => "modctl.core.models"
  | planning => "modctl.core.install"
  | removal => "modctl.core.removal"
  | gateway => "modctl.core.catalog"
  | settings => "modctl.core.config"
  | settingsFile => "modctl.utils.yaml_io"
  | keeper => "modctl.services.module_service"
  | exchange => "modctl.utils.http"
  | commandLine => "modctl.cli"

/-- The database and the modules of a change. -/
structure Change where
  database : Text
  modules : List Text
  deriving DecidableEq, Inhabited

/-- One report. -/
structure Notice where
  level : Log.Level
  source : Source
  text : Text
  change : Option Change
  deriving Inhabited

namespace Notice

/-- A report without a change. -/
def plain (level : Log.Level) (source : Source) (text : Text) : Notice :=
  ⟨level, source, text, none⟩

/-- The order by the label of the level, then by the name of the source, then by the text. -/
def before (a b : Notice) : Bool :=
  if a.level.label ≠ b.level.label then a.level.label.notAfter b.level.label
  else if a.source.name ≠ b.source.name then a.source.name.notAfter b.source.name
  else a.text.notAfter b.text

/-- Notices in order; those that are alike stay as they are. -/
def sorted (ns : List Notice) : List Notice := ns.mergeSort before

theorem sorted_perm (ns : List Notice) : (sorted ns).Perm ns := List.mergeSort_perm ns before

end Notice

end ModuleKeeper
