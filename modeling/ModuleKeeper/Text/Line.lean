import ModuleKeeper.Text

/-!
# Lines

Line breaks in their shortest form, and the lines of a text.
-/

namespace ModuleKeeper.Text

/-- The text with every line break in its shortest form, after `done`, last character first. -/
def unifyBreaksFrom (done : List CodePoint) : List CodePoint → List CodePoint
  | [] => done.reverse
  | '\r' :: '\n' :: cs => unifyBreaksFrom ('\n' :: done) cs
  | '\r' :: cs => unifyBreaksFrom ('\n' :: done) cs
  | c :: cs => unifyBreaksFrom (c :: done) cs

/-- The text with every line break in its shortest form. -/
def unifyBreaks (cs : List CodePoint) : List CodePoint := unifyBreaksFrom [] cs

/-- The lines of a text, the first of which starts with `line`, last character first. -/
def linesFrom (line : List CodePoint) : List CodePoint → List (List CodePoint)
  | [] => if line.isEmpty then [] else [line.reverse]
  | c :: cs => if c = '\n' then line.reverse :: linesFrom [] cs else linesFrom (c :: line) cs

/-- The lines of a text. What follows the last break is a line unless it is empty. -/
def lines (cs : List CodePoint) : List (List CodePoint) := linesFrom [] cs

end ModuleKeeper.Text
