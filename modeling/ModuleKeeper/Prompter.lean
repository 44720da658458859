import ModuleKeeper.Selection
import ModuleKeeper.Task

/-!
# Asking the user

What a program can ask a user: to select some of several options, to select
one of them, to confirm. Questions and options may be any values; a user sees
them as running text. A selection comes back as positions; what they mean is
decided here.
-/

namespace ModuleKeeper

/-- Ways to ask a user, with the effects `m`. Positions count from zero. -/
structure Prompter (m : Type → Type) where
  /-- Asks for any number of the options. -/
  selectMany : Value → List Value → Task m (List Int)
  /-- Asks for one of the options, with the position of a default. -/
  selectOne : Value → List Value → Value → Task m Int
  /-- Asks for a confirmation, with a default. The answer counts by whether it counts as true. -/
  confirm : Value → Value → Task m Value

namespace Prompter

/-- The question that goes with a list of modules. -/
def selectionPrompt : Text := "输入要选择的模块编号（逗号分隔，可用 1-3 表示范围），直接回车表示不选"

variable {m : Type → Type} [Monad m]

/-- Lets the user select some of the options, which are shown by `shown`; none is a halt. -/
def select {α : Type} (prompter : Option (Prompter m)) (shown : α → Value) (options : List α) :
    Task m (List α) := do
  match prompter with
  | none => Task.fail (.fault (.validation .noSelection))
  | some p =>
    let positions ← p.selectMany (.str selectionPrompt) (options.map shown)
    match Selection.choose options positions with
    | [] => Task.fail (.halt .nothingSelected)
    | chosen => pure chosen

/-- Lets the user select some of the names. -/
def selectNames (prompter : Option (Prompter m)) (names : List Text) : Task m (List Text) :=
  select prompter .str names

/-- Lets the user select some of the parts of a value, if there is a user to be asked. -/
def selectParts (prompter : Option (Prompter m)) (options : Value) : Task m (List Value) :=
  match prompter, options.parts? with
  | some _, none => Task.fail (.mishap .wrongType)
  | _, parts => select prompter id (parts.getD [])

end Prompter

end ModuleKeeper
