import ModuleKeeper.Module
import ModuleKeeper.Text.Column

/-!
# Module tables

Modules as lines of two columns under a header: the name, padded to the
longest one, and the dependencies.

## Main results

* `length_lines`: two lines of header, then one line for each module.
* `le_width`: no name is wider than the first column.
-/

namespace ModuleKeeper.Table

open ModuleKeeper.Text

/-- The titles of the two columns. -/
def titles : List CodePoint × List CodePoint := ("模块名", "依赖模块")

/-- The dependencies of a module in one text. -/
def dependencyText (m : Module) : List CodePoint :=
  Value.commaJoined (m.dependencies.map Text.toList)

/-- The width of the first column. -/
def width (ms : List Module) : Nat :=
  ms.foldl (fun w m => max w m.name.toList.length) titles.1.length

theorem le_foldl_max (ms : List Module) (w : Nat) :
    w ≤ ms.foldl (fun w m => max w m.name.toList.length) w ∧
      ∀ m ∈ ms, m.name.toList.length ≤ ms.foldl (fun w m => max w m.name.toList.length) w := by
  induction ms generalizing w with
  | nil => simp
  | cons x xs ih =>
    have h := ih (max w x.name.toList.length)
    simp only [List.foldl_cons, List.mem_cons, forall_eq_or_imp]
    exact ⟨by omega, by omega, h.2⟩

theorem le_width {ms : List Module} {m : Module} (h : m ∈ ms) :
    m.name.toList.length ≤ width ms := (le_foldl_max ms _).2 m h

/-- One line: two blanks, the first column, two blanks, the second. -/
def line (w : Nat) (first second : List CodePoint) : List CodePoint :=
  ' ' :: ' ' :: (padRight ' ' w first ++ "  " ++ second)

/-- The lines of the table. -/
def lines (ms : List Module) : List (List CodePoint) :=
  let w := width ms
  line w titles.1 titles.2 :: line w (List.replicate w '-') (List.replicate 8 '-') ::
    ms.map fun m => line w m.name.toList (dependencyText m)

theorem length_lines (ms : List Module) : (lines ms).length = ms.length + 2 := by
  simp [lines]

end ModuleKeeper.Table
