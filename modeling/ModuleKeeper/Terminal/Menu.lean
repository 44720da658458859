import ModuleKeeper.Prompter
import ModuleKeeper.Terminal
import ModuleKeeper.Text.Sequence

/-!
# Menus

The questions that a program asks at a terminal: to select some of several
numbered options, to choose one of them, to confirm. Options count from one on
the screen and from zero in the answers.

## Main results

* `length_optionLines`: every option has a line.
* `mem_range_of_choice`: a choice is the position of an option.
-/

namespace ModuleKeeper.Menu

open ModuleKeeper.Text

/-- The line of an option, with its number in a column of the given width. -/
def optionLine (width : Nat) (option : Value × Nat) : List CodePoint :=
  "  [" ++ padLeft ' ' width (decimal (option.2 + 1)) ++ "] " ++ option.1.displayed

/-- The lines of the options. -/
def optionLines (options : List Value) : List (List CodePoint) :=
  options.zipIdx.map (optionLine (decimal options.length).length)

theorem length_optionLines (options : List Value) :
    (optionLines options).length = options.length := by
  simp [optionLines]

/-- A prompt as it is shown, up to the blank behind it. -/
def promptOf (text : List CodePoint) : List CodePoint := withoutSequences (text ++ ":")

/-- A refusal with a reason. -/
def refuse {α : Type} (reason : List CodePoint) : Verdict α := .refused (withoutSequences reason)

/-! ## Questions -/

/-- The question for any number of `count` options. -/
def selection (prompt : Value) (count : Nat) : Question (List Int) where
  prompt := promptOf prompt.displayed
  judge line :=
    match Selection.parse line count with
    | .ok positions => .accepted (positions.map Int.ofNat)
    | .error (.unreadable _) => .broken .badValue
    | .error fault => refuse fault.message.toList

/-- What comes of the number of an option. -/
def judgeNumber (count : Nat) (n : Int) : Verdict Int :=
  if 1 ≤ n ∧ n ≤ (count : Int) then .accepted (n - 1)
  else
    refuse (Value.intText n ++ " is not in the range 1<=x<=" ++ decimal count ++ ".")

theorem mem_range_of_choice {count : Nat} {n i : Int} (h : judgeNumber count n = .accepted i) :
    0 ≤ i ∧ i < count := by
  unfold judgeNumber at h
  split at h
  · cases h; omega
  · cases h

/-- The number that is shown for a position: one more. -/
def shownNumber : Value → Except Mishap Value
  | .bool b => .ok (.int (if b then 2 else 1))
  | .int n => .ok (.int (n + 1))
  | .float x => .ok (.float (x.add (.ofInt 1)))
  | _ => .error .wrongType

/-- The whole number in a number that is the default of a question. -/
def judgeDefault (count : Nat) (number : Value) : Verdict Int :=
  match number with
  | .float (.infinite _) => .broken .overflow
  | .float x =>
    match x.truncate? with
    | some n => judgeNumber count n
    | none => refuse (x.literal ++ " is not a valid integer range.")
  | v => judgeNumber count ((v.whole?).getD 0)

/-- The question for one of `count` options; `default` is a number as it is shown. -/
def choice (prompt : Value) (count : Nat) (default : Value) : Question Int where
  prompt := promptOf (prompt.displayed ++ " [" ++ default.displayed ++ "]")
  judge line :=
    if line.isEmpty then judgeDefault count default
    else
      match Numeral.readInt? line with
      | some n => judgeNumber count n
      | none => refuse (quote line ++ " is not a valid integer range.")

/-- The two answers to a confirmation, with the default as the great one. -/
def answersFor : Value → Text
  | .null => " [y/n]"
  | default => if default.truthy then " [Y/n]" else " [y/N]"

/-- The question for a confirmation, with a default; null means that there is none. -/
def confirmation (prompt default : Value) : Question Value where
  prompt := promptOf (prompt.displayed ++ (answersFor default).toList)
  judge line :=
    let word := Text.ofList (strip (line.map CodePoint.toLower))
    if word = "y" ∨ word = "yes" then .accepted (.bool true)
    else if word = "n" ∨ word = "no" then .accepted (.bool false)
    else
      match default with
      | .null => refuse "invalid input"
      | _ => if word = "" then .accepted default else refuse "invalid input"

end ModuleKeeper.Menu

namespace ModuleKeeper

/-- The two ways to use a terminal, with the effects `m`. -/
structure Console (m : Type → Type) where
  /-- Shows a text, or tells why it cannot be shown. -/
  put : List CodePoint → m (Except Mishap Unit)
  ask : {α : Type} → Question α → m (Except Mishap α)

namespace Console

variable {m : Type → Type} [Monad m]

/-- Shows a text without an end of the line. -/
def start (c : Console m) (text : List CodePoint) : Task m Unit := do
  let result ← Task.act (c.put (Text.withoutSequences text))
  Task.ofExcept Failure.mishap result

/-- Shows a line. -/
def line (c : Console m) (text : List CodePoint) : Task m Unit := do
  let result ← Task.act (c.put (Text.withoutSequences text ++ "\n"))
  Task.ofExcept Failure.mishap result

/-- Shows lines in order. -/
def lines (c : Console m) (texts : List (List CodePoint)) : Task m Unit := texts.forM c.line

/-- Asks a question. -/
def answer {α : Type} (c : Console m) (q : Question α) : Task m α := do
  let result ← Task.act (c.ask q)
  Task.ofExcept Failure.mishap result

/-- The prompter that asks at a terminal. -/
def prompter (c : Console m) : Prompter m where
  selectMany prompt options := do
    c.lines (Menu.optionLines options)
    c.answer (Menu.selection prompt options.length)
  selectOne prompt options default := do
    c.lines (Menu.optionLines options)
    let number ← Task.ofExcept Failure.mishap (Menu.shownNumber default)
    c.answer (Menu.choice prompt options.length number)
  confirm prompt default := c.answer (Menu.confirmation prompt default)

end Console

end ModuleKeeper
