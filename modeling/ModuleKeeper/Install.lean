import ModuleKeeper.Install.Closure
import ModuleKeeper.Install.Cycle
import ModuleKeeper.Naming
import ModuleKeeper.Prompter

/-!
# Installing

From a request to a plan: which requests are refused, what is offered to a
user who names nothing, and which dependencies are added, one level of them or
all.

## Main results

* `complete_requested`: a plan contains what was requested, in order.
* `planRequested_ofTexts`: a request for texts is planned as it is.
-/

namespace ModuleKeeper.Install

/-! ## Requests -/

/-- Whether nothing is left to install, judged by the number of modules. -/
def isExhausted (catalog installed : Roster) : Bool := installed.size == catalog.size

/-- The names that a user can select from. -/
def offered (catalog installed : Roster) : List Text :=
  catalog.names.filter fun n => !installed.has n

/--
Accepts the names of a request, each at its first place. All of them are looked up
in the catalog before the first is looked up in what is installed.
-/
def explicit (catalog installed : Roster) (request : List Text) :
    Except Fault (List Text) :=
  let names := request.eraseDups
  match names.find? fun n => !catalog.has n with
  | some n => .error (.unknownModule (.str n))
  | none =>
    match names.find? fun n => installed.has n with
    | some n => .error (.alreadyInstalled (.str n))
    | none => .ok names

/-! ## Plans -/

/-- The dependencies that a plan adds, or the cycle that forbids it. -/
def additions (catalog installed : Roster) (transitive : Bool) (names : List Text) :
    Except Fault (List Text) :=
  if transitive then
    let all := closure catalog installed names
    match cycle? catalog (names ++ all) with
    | some path => .error (.cycle path)
    | none => .ok all
  else .ok (implied catalog installed names)

/-- The plan that installs the modules of a list. -/
def complete (catalog installed : Roster) (transitive : Bool) (names : List Text) :
    Except Fault (Plan Text) :=
  (additions catalog installed transitive names).map (Plan.mk names)

theorem complete_requested {catalog installed : Roster} {transitive : Bool}
    {names : List Text} {plan : Plan Text}
    (h : complete catalog installed transitive names = .ok plan) : plan.requested = names := by
  unfold complete at h
  cases ha : additions catalog installed transitive names with
  | error e => rw [ha] at h; cases h
  | ok all => rw [ha] at h; cases h; rfl

/-! ## Notices -/

/-- The notices about dependencies that the catalog does not know. -/
def unknownNotices (catalog installed : Roster) (names : List Text) : List Notice :=
  ((found catalog installed names).filter fun f => !catalog.has f.name).map fun f =>
    Notice.plain .warning .planning
      ("模块 " ++ f.declaredBy ++ " 声明的依赖 " ++ f.name ++ " 不在清单中")

/-- The notice about the dependencies that are added, if there are any. -/
def additionNotices (all : List Text) : List Notice :=
  if all.isEmpty then []
  else [Notice.plain .info .planning ("自动补充依赖模块: " ++ Text.intercalate ", " all)]

/-- The notices of a plan in the making. -/
def notices (catalog installed : Roster) (transitive : Bool) (names : List Text) :
    List Notice :=
  (if transitive then unknownNotices catalog installed names else []) ++
    (match additions catalog installed transitive names with
      | .ok all => additionNotices all
      | .error _ => [])

/-! ## The task -/

/--
Plans an install. `request` is `none` when the user is to select from the modules
that are not installed.
-/
def plan {m : Type → Type} [Monad m] (reporter : Reporter m) (prompter : Option (Prompter m))
    (transitive : Bool) (catalog installed : Roster) (request : Option (List Text)) :
    Task m (Plan Text) := do
  if isExhausted catalog installed then Task.fail (.halt .allInstalled)
  else
    let names ←
      match request with
      | none => Prompter.selectNames prompter (offered catalog installed)
      | some names => Task.ofExcept Failure.fault (explicit catalog installed names)
    Task.report reporter (notices catalog installed transitive names)
    Task.ofExcept Failure.fault (complete catalog installed transitive names)

/-- Plans an install for a request that may be any value; null is for a selection. -/
def planRequested {m : Type → Type} [Monad m] (reporter : Reporter m)
    (prompter : Option (Prompter m)) (transitive : Bool) (catalog installed : Roster)
    (request : Value) : Task m (Plan Text) :=
  match request with
  | .null => plan reporter prompter transitive catalog installed none
  | request =>
    match Naming.requested catalog request with
    | .ok names => plan reporter prompter transitive catalog installed (some names)
    | .error f =>
      Task.fail (if isExhausted catalog installed then .halt .allInstalled else f)

theorem planRequested_ofTexts {m : Type → Type} [Monad m] (reporter : Reporter m)
    (prompter : Option (Prompter m)) (transitive : Bool) (catalog installed : Roster)
    (request : Option (List Text)) :
    planRequested reporter prompter transitive catalog installed (Naming.ofTexts request) =
      plan reporter prompter transitive catalog installed request := by
  cases request with
  | none => rfl
  | some names =>
    have h := Naming.requested_ofTexts catalog names
    simp only [Naming.ofTexts] at h
    simp only [planRequested, Naming.ofTexts, h]

end ModuleKeeper.Install
