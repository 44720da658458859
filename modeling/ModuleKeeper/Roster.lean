import ModuleKeeper.Module

/-!
# Rosters

Modules in order, no two of one name: all modules that a service knows, or
those that a database has. Of several descriptions with one name the first
counts and the others are reported.

## Main results

* `get?_isSome_iff`: looking a name up succeeds exactly for the names of the roster.
* `add_eq_self`: a repeated name changes nothing.
-/

namespace ModuleKeeper

/-- Modules in order with distinct names. -/
structure Roster where
  modules : List Module
  distinct : (modules.map Module.name).Nodup

namespace Roster

/-- The roster without modules. -/
def empty : Roster := ⟨[], List.nodup_nil⟩

instance : Inhabited Roster := ⟨empty⟩

/-- The names in order. -/
def names (r : Roster) : List Text := r.modules.map Module.name

/-- The number of modules. -/
def size (r : Roster) : Nat := r.modules.length

/-- Whether there is a module of a name. -/
def has (r : Roster) (name : Text) : Bool := r.names.contains name

/-- The module of a name. -/
def get? (r : Roster) (name : Text) : Option Module := r.modules.find? (·.name = name)

/-- What the module of a name declares; nothing if there is no such module. -/
def dependenciesOf (r : Roster) (name : Text) : List Text :=
  ((r.get? name).map Module.dependencies).getD []

@[simp] theorem has_iff {r : Roster} {name : Text} : r.has name = true ↔ name ∈ r.names := by
  simp [has]

theorem names_nodup (r : Roster) : r.names.Nodup := r.distinct

@[simp] theorem length_names (r : Roster) : r.names.length = r.size := by simp [names, size]

theorem get?_isSome_iff {r : Roster} {name : Text} :
    (r.get? name).isSome = true ↔ name ∈ r.names := by
  simp [get?, names, List.find?_isSome]

theorem name_of_get? {r : Roster} {name : Text} {m : Module} (h : r.get? name = some m) :
    m.name = name := by
  simpa using List.find?_some h

theorem mem_of_get? {r : Roster} {name : Text} {m : Module} (h : r.get? name = some m) :
    m ∈ r.modules := List.mem_of_find?_eq_some h

/-! ## Building -/

/-- The roster with a module at its end, unless its name is there already. -/
def add (r : Roster) (m : Module) : Roster :=
  if h : m.name ∈ r.modules.map Module.name then r
  else ⟨r.modules ++ [m], by
    rw [List.map_append, List.nodup_append]
    refine ⟨r.distinct, by simp, ?_⟩
    intro a ha b hb
    simp only [List.map_cons, List.map_nil, List.mem_singleton] at hb
    rintro rfl
    exact h (hb ▸ ha)⟩

theorem add_eq_self {r : Roster} {m : Module} (h : m.name ∈ r.names) : r.add m = r := by
  unfold add
  exact dif_pos h

/-- The modules of a list, the first of each name. -/
def ofModules (ms : List Module) : Roster := ms.foldl add empty

/--
A roster from descriptions, read one after another. The first part of the result
are the names that came again; they are known even if a later description is bad.
-/
def readFrom (r : Roster) (repeated : List Text) :
    List Value → List Text × Except Module.EntryFault Roster
  | [] => (repeated, .ok r)
  | v :: vs =>
    match Module.read v with
    | .error e => (repeated, .error e)
    | .ok m =>
      if r.has m.name then readFrom r (repeated ++ [m.name]) vs
      else readFrom (r.add m) repeated vs

/-- A roster from descriptions, and the names that came again. -/
def read (entries : List Value) : List Text × Except Module.EntryFault Roster :=
  readFrom empty [] entries

/-- The descriptions of the modules. -/
def toValues (r : Roster) : List Value := r.modules.map Module.toValue

end Roster

end ModuleKeeper
