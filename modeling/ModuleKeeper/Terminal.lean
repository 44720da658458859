import ModuleKeeper.Fault
import ModuleKeeper.Text.Line
import ModuleKeeper.Text.Surrogate

/-!
# Terminals

A terminal shows text and reads what is typed, line by line. A question is
asked until a typed line is accepted: a line that is refused is answered with
the reason, and the question is asked again. When nothing more is typed, the
question is left without an answer.

## Main results

* `write_of_isWritable`: what can be written is shown.
-/

namespace ModuleKeeper

/-- What comes of a typed line. -/
inductive Verdict (α : Type) where
  | accepted (answer : α)
  | refused (reason : List CodePoint)
  /-- The line breaks the judgement itself. -/
  | broken (cause : Mishap)

/-- A question: what is shown for it, and how a typed line is judged. -/
structure Question (α : Type) where
  prompt : List CodePoint
  judge : List CodePoint → Verdict α

/-- What a refused line is answered with. -/
def Verdict.refusal (reason : List CodePoint) : List CodePoint := "Error: " ++ reason ++ "\n"

/-- A terminal. -/
structure Terminal where
  /-- The lines that are still to be read. -/
  typed : List (List CodePoint)
  /-- Everything that was shown. -/
  shown : List CodePoint
  /-- What is shown behind a prompt when nothing more is typed. -/
  endMark : List CodePoint
  deriving Inhabited

namespace Terminal

open ModuleKeeper.Text

/-- The terminal at which a text is typed. -/
def ofInput (input endMark : List CodePoint) : Terminal := ⟨lines (unifyBreaks input), [], endMark⟩

/-- Shows a text. -/
def put (cs : List CodePoint) (t : Terminal) : Terminal := { t with shown := t.shown ++ cs }

/-- Shows a text as bytes, if it can be written so. -/
def write (cs : List CodePoint) (t : Terminal) : Except Mishap Unit × Terminal :=
  if isWritable cs then (.ok (), t.put cs) else (.error .unwritable, t)

theorem write_of_isWritable {cs : List CodePoint} (h : isWritable cs = true) (t : Terminal) :
    t.write cs = (.ok (), t.put cs) := by
  simp [write, h]

/-- What a terminal shows for a question and the line that is typed for it. -/
def exchange {α : Type} (q : Question α) (line : List CodePoint) : List CodePoint :=
  q.prompt ++ " " ++ line ++ "\n"

/-- Asks a question until a line is accepted: the answer, what is shown, and the lines left. -/
def answer {α : Type} (endMark : List CodePoint) (q : Question α) :
    List (List CodePoint) → Except Mishap α × List CodePoint × List (List CodePoint)
  | [] => (.error .inputEnded, q.prompt ++ endMark, [])
  | line :: rest =>
    match q.judge line with
    | .accepted a => (.ok a, exchange q line, rest)
    | .broken cause => (.error cause, exchange q line, rest)
    | .refused reason =>
      let (result, shown, left) := answer endMark q rest
      (result, exchange q line ++ Verdict.refusal reason ++ shown, left)

/-- Asks a question, if it can be shown. -/
def ask {α : Type} (q : Question α) (t : Terminal) : Except Mishap α × Terminal :=
  if isWritable q.prompt then
    let (result, shown, left) := answer t.endMark q t.typed
    (result, { t with typed := left, shown := t.shown ++ shown })
  else (.error .unwritable, t)

end Terminal

end ModuleKeeper
