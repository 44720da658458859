import ModuleKeeper.Keeper
import ModuleKeeper.Settings.Store

/-!
# Toolboxes

A toolbox makes the tools of the program when they are first needed, from the
settings as they are then, and gives the same tool ever after: a gateway, a
registry that uses the gateway, and a keeper that uses the registry. A registry
can also be put into a toolbox from outside; then no gateway is needed for a
keeper. One toolbox may be shared by the whole program.

Every tool and every toolbox has a number by which it is known again.
-/

namespace ModuleKeeper

/-- A tool with its number. -/
structure Tool (α : Type) where
  number : Nat
  tool : α
  deriving Inhabited

/-- Where a registry comes from. -/
inductive Origin where
  /-- It uses the gateway of the number. -/
  | gateway (number : Nat)
  /-- It was put in from outside. -/
  | outside
  deriving DecidableEq, Inhabited

/-- A keeper as a toolbox makes it. -/
structure Keeping where
  /-- The number of the registry. -/
  registry : Nat
  transitive : Value
  assumeYes : Value
  hasPrompter : Bool
  deriving Inhabited

/-- A toolbox. -/
structure Toolbox where
  /-- The number of its settings. -/
  settings : Nat
  hasPrompter : Bool
  gateway : Option (Tool Gateway)
  registry : Option (Tool Origin)
  keeper : Option (Tool Keeping)
  deriving Inhabited

namespace Toolbox

/-- The kinds of tools. -/
inductive ToolKind where
  | gateway
  | registry
  | keeper
  deriving DecidableEq

/-- The kinds of the tools that were made. -/
def made (t : Toolbox) : List ToolKind :=
  (if t.gateway.isSome then [.gateway] else []) ++
    (if t.registry.isSome then [.registry] else []) ++
    (if t.keeper.isSome then [.keeper] else [])

/-- A toolbox in use: the toolbox, and the number of the next tool. -/
structure Bench where
  toolbox : Toolbox
  next : Nat

/-- Making of a tool from settings. Where it fails, the toolbox stays as it was. -/
abbrev Making (α : Type) : Type := StateT Bench (Except Failure) α

/-- A new tool. -/
def number {α : Type} (a : α) : Making (Tool α) := fun b =>
  .ok (⟨b.next, a⟩, { b with next := b.next + 1 })

/-- The gateway. -/
def makeGateway (s : Settings) : Making (Tool Gateway) := do
  match (← get).toolbox.gateway with
  | some g => pure g
  | none =>
    let gateway ← (Gateway.make s.address s.token s.timeout : Except Failure Gateway)
    let tool ← number gateway
    modify fun b => { b with toolbox := { b.toolbox with gateway := some tool } }
    pure tool

/-- The registry. -/
def makeRegistry (s : Settings) : Making (Tool Origin) := do
  match (← get).toolbox.registry with
  | some r => pure r
  | none =>
    let gateway ← makeGateway s
    let tool ← number (.gateway gateway.number)
    modify fun b => { b with toolbox := { b.toolbox with registry := some tool } }
    pure tool

/-- The keeper. -/
def makeKeeper (s : Settings) : Making (Tool Keeping) := do
  match (← get).toolbox.keeper with
  | some k => pure k
  | none =>
    let registry ← makeRegistry s
    let prompting := (← get).toolbox.hasPrompter
    let tool ← number ⟨registry.number, s.transitive, s.assumeYes, prompting⟩
    modify fun b => { b with toolbox := { b.toolbox with keeper := some tool } }
    pure tool

end Toolbox

/-- All toolboxes of a program, with the settings that they use. -/
structure Workshop where
  settings : Settings.Store
  toolboxes : List Toolbox
  /-- The toolbox that is shared. -/
  shared : Option Nat
  /-- The number of the next tool. -/
  next : Nat

namespace Workshop

/-- The workshop without toolboxes. -/
def empty : Workshop := ⟨.empty, [], none, 0⟩

/-- The toolbox of a number. -/
def toolbox (w : Workshop) (n : Nat) : Toolbox := w.toolboxes.getD n Inhabited.default

/--
Adds a toolbox, with settings of its own or the current ones, with or without a
prompter and a registry from outside.
-/
def add (w : Workshop) (own : Option Settings) (hasPrompter registryGiven : Bool) :
    Nat × Workshop :=
  let (n, store) :=
    match own with
    | some s => w.settings.make s
    | none => w.settings.now
  let registry : Option (Tool Origin) := if registryGiven then some ⟨w.next, .outside⟩ else none
  (w.toolboxes.length,
    { w with
      settings := store
      toolboxes := w.toolboxes ++ [⟨n, hasPrompter, none, registry, none⟩]
      next := if registryGiven then w.next + 1 else w.next })

/-- The shared toolbox, which is added when it is first asked for. -/
def sharedToolbox (w : Workshop) : Nat × Workshop :=
  match w.shared with
  | some n => (n, w)
  | none =>
    let (n, w) := w.add none false false
    (n, { w with shared := some n })

/-- The settings of a toolbox. -/
def settingsOf (w : Workshop) (n : Nat) : Settings := w.settings.get (w.toolbox n).settings

/-- Takes a tool out of a toolbox. -/
def take {α : Type} (w : Workshop) (n : Nat) (making : Settings → Toolbox.Making α) :
    Except Failure (α × Workshop) := do
  let (tool, bench) ← (making (w.settingsOf n)).run ⟨w.toolbox n, w.next⟩
  pure (tool, { w with toolboxes := w.toolboxes.set n bench.toolbox, next := bench.next })

end Workshop

namespace Keeper

/-- The keeper for settings, over a gateway of its own. -/
def ofSettings {m : Type → Type} (s : Settings) (send : Request → m Reply)
    (reporter : Reporter m) (prompter : Option (Prompter m)) : Except Failure (Keeper m) :=
  (Gateway.make s.address s.token s.timeout).map fun gateway =>
    ⟨⟨gateway, send, reporter⟩, prompter, s.transitive, s.assumeYes⟩

end Keeper

end ModuleKeeper
