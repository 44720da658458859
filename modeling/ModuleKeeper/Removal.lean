import ModuleKeeper.Naming
import ModuleKeeper.Prompter

/-!
# Removing

Which removals are refused: of modules that nobody knows, of modules that are
not installed, and of modules that a module that stays depends on. Of several
dependents the least by name is reported, with the first of its dependencies
that would go.

## Main results

* `dependent?_isSome_iff`: a removal is refused for a dependent exactly if there is one.
* `resolveRequested_ofTexts`: a request for texts is resolved as it is.
-/

namespace ModuleKeeper.Removal

/-- The modules that stay, in the order of their names. -/
def staying (installed : Roster) (names : List Text) : List Module :=
  (installed.modules.filter fun m => !names.contains m.name).mergeSort fun a b =>
    a.name.notAfter b.name

/-- The first dependency of a module that would go. -/
def lost? (names : List Text) (m : Module) : Option Text :=
  m.dependencies.find? fun d => names.contains d

/-- The first module that stays and depends on one that goes, with that dependency. -/
def dependent? (installed : Roster) (names : List Text) : Option (Module × Text) :=
  (staying installed names).findSome? fun m => (lost? names m).map (m, ·)

theorem dependent?_isSome_iff {installed : Roster} {names : List Text} :
    (dependent? installed names).isSome = true ↔
      ∃ m ∈ installed.modules, m.name ∉ names ∧ ∃ d ∈ m.dependencies, d ∈ names := by
  simp only [dependent?, List.isSome_findSome?, List.any_eq_true, Option.isSome_map, lost?,
    List.find?_isSome, staying, List.mem_mergeSort, List.mem_filter, List.contains_iff_mem,
    Bool.not_eq_true']
  constructor
  · rintro ⟨m, ⟨hm, hn⟩, h⟩
    exact ⟨m, hm, by simpa using hn, h⟩
  · rintro ⟨m, hm, hn, h⟩
    exact ⟨m, ⟨hm, by simpa using hn⟩, h⟩

/-- Refuses a removal that a module that stays forbids. -/
def check (installed : Roster) (names : List Text) : Except Fault Unit :=
  match dependent? installed names with
  | some (m, d) => .error (.stillNeeded (.str d) (.str m.name))
  | none => .ok ()

/--
Accepts the names of a request, each at its first place. All of them are looked up
in the catalog before the first is looked up in what is installed.
-/
def explicit (catalog installed : Roster) (request : List Text) :
    Except Fault (List Text) :=
  let names := request.eraseDups
  match names.find? fun n => !catalog.has n with
  | some n => .error (.unknownModule (.str n))
  | none =>
    match names.find? fun n => !installed.has n with
    | some n => .error (.notInstalled (.str n))
    | none => .ok names

/-- The notice about a removal that was accepted. -/
def acceptedNotice (names : List Text) : Notice :=
  Notice.plain .debug .removal ("卸载校验通过: " ++ (Value.list (names.map .str)).literalText)

/--
The names that can be removed. `request` is `none` when the user is to select from
the modules that are installed.
-/
def resolve {m : Type → Type} [Monad m] (reporter : Reporter m) (prompter : Option (Prompter m))
    (catalog installed : Roster) (request : Option (List Text)) : Task m (List Text) := do
  if installed.size = 0 then Task.fail (.halt .noneInstalled)
  else
    let names ←
      match request with
      | none => Prompter.selectNames prompter installed.names
      | some names => Task.ofExcept Failure.fault (explicit catalog installed names)
    Task.ofExcept Failure.fault (check installed names)
    Task.report reporter [acceptedNotice names]
    pure names

/-- The names that can be removed, for a request that may be any value; null is for a selection. -/
def resolveRequested {m : Type → Type} [Monad m] (reporter : Reporter m)
    (prompter : Option (Prompter m)) (catalog installed : Roster) (request : Value) :
    Task m (List Text) :=
  match request with
  | .null => resolve reporter prompter catalog installed none
  | request =>
    match Naming.requested catalog request with
    | .ok names => resolve reporter prompter catalog installed (some names)
    | .error f => Task.fail (if installed.size = 0 then .halt .noneInstalled else f)

theorem resolveRequested_ofTexts {m : Type → Type} [Monad m] (reporter : Reporter m)
    (prompter : Option (Prompter m)) (catalog installed : Roster)
    (request : Option (List Text)) :
    resolveRequested reporter prompter catalog installed (Naming.ofTexts request) =
      resolve reporter prompter catalog installed request := by
  cases request with
  | none => rfl
  | some names =>
    have h := Naming.requested_ofTexts catalog names
    simp only [Naming.ofTexts] at h
    simp only [resolveRequested, Naming.ofTexts, h]

end ModuleKeeper.Removal
