import ModuleKeeper.Text

/-!
# Arguments

The arguments of a command line: options, which start with dashes and may take
a value, and the rest. A value stands behind an equals sign or is the next
argument, whatever that looks like. Two dashes end the options.

## Main results

* `Scan.last?_append`: of several values of an option the last counts.
-/

namespace ModuleKeeper.CommandLine

/-- An option that a command knows. -/
structure Flag where
  /-- The name, with its two dashes. -/
  name : Text
  /-- The letter behind a single dash. -/
  letter : Option CodePoint
  takesValue : Bool
  deriving DecidableEq, Inhabited

/-- An option that was given, with its value if it takes one. -/
structure Given where
  name : Text
  value : Option Text
  deriving DecidableEq, Inhabited

/-- The options that were given, in order, and the other arguments. -/
structure Scan where
  options : List Given
  rest : List Text
  deriving DecidableEq, Inhabited

namespace Scan

/-- Whether an option was given. -/
def has (s : Scan) (name : Text) : Bool := s.options.any (·.name = name)

/-- The value of an option that was given last. -/
def last? (options : List Given) (name : Text) : Option Text :=
  (options.reverse.find? (·.name = name)).bind (·.value)

/-- The value of an option. -/
def value? (s : Scan) (name : Text) : Option Text := last? s.options name

theorem last?_append (options : List Given) (name value : Text) :
    last? (options ++ [⟨name, some value⟩]) name = some value := by
  simp [last?]

/-- A scan with options in front. -/
def withOptions (given : List Given) (s : Scan) : Scan := { s with options := given ++ s.options }

/-- A scan with an argument in front that is no option. -/
def withArgument (arg : Text) (s : Scan) : Scan := { s with rest := arg :: s.rest }

end Scan

/-- What an argument that looks like an option says. -/
inductive Reading where
  /-- Options that are complete. -/
  | complete (given : List Given)
  /-- Options, and another one whose value is the next argument. -/
  | awaiting (given : List Given) (name : Text)
  /-- Nothing that the command knows. -/
  | misused
  deriving Inhabited

/-- Reads an argument as an option by its name, if there is such an option. -/
def readNamed? (flags : List Flag) (arg : Text) : Option Reading :=
  let cs := arg.toList
  let name := Text.ofList (cs.takeWhile (· != .char '='))
  (flags.find? (·.name = name)).map fun f =>
    match f.takesValue, cs.dropWhile (· != .char '=') with
    | true, _ :: value => .complete [⟨f.name, some (Text.ofList value)⟩]
    | true, [] => .awaiting [] f.name
    | false, [] => .complete [⟨f.name, none⟩]
    | false, _ :: _ => .misused

/-- Reads letters behind a single dash; one that takes a value takes all that follows it. -/
def readLetters (flags : List Flag) (given : List Given) : List CodePoint → Reading
  | [] => .complete given.reverse
  | c :: cs =>
    match flags.find? (·.letter = some c) with
    | none => .misused
    | some f =>
      if f.takesValue then
        if cs.isEmpty then .awaiting given.reverse f.name
        else .complete (⟨f.name, some (Text.ofList cs)⟩ :: given).reverse
      else readLetters flags (⟨f.name, none⟩ :: given) cs

/-- Reads an argument that looks like an option. -/
def readOption (flags : List Flag) (arg : Text) : Reading :=
  match readNamed? flags arg with
  | some r => r
  | none =>
    match arg.toList with
    | '-' :: '-' :: _ => .misused
    | '-' :: cs => readLetters flags [] cs
    | _ => .misused

/-- Whether an argument looks like an option. -/
def looksLikeOption (arg : Text) : Bool :=
  match arg.toList with
  | '-' :: _ :: _ => true
  | _ => false

/-- The argument that ends the options. -/
def endOfOptions : Text := "--"

/--
Scans arguments; there is no scan if they are misused. If options cannot be `mixed`
with other arguments, the first other argument ends them.
-/
def scan (flags : List Flag) (mixed : Bool) : List Text → Option Scan
  | [] => some ⟨[], []⟩
  | arg :: args =>
    if arg = endOfOptions then some ⟨[], args⟩
    else if looksLikeOption arg then
      match readOption flags arg with
      | .misused => none
      | .complete given => (scan flags mixed args).map (Scan.withOptions given)
      | .awaiting given name =>
        match args with
        | [] => none
        | value :: args =>
          (scan flags mixed args).map (Scan.withOptions (given ++ [⟨name, some value⟩]))
    else if mixed then (scan flags mixed args).map (Scan.withArgument arg)
    else some ⟨[], arg :: args⟩

end ModuleKeeper.CommandLine
