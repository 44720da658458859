import ModuleKeeper.Value

/-!
# Modules

A module has a name and declares the modules that it depends on. The service
describes a module by an object with both fields or, in an older form, by the
bare name.

## Main results

* `read_toValue`: a module with a name reads back from its description.
* `name_ne_of_read`: every module that was read has a name.
-/

namespace ModuleKeeper

/-- A module and the names of the modules that it depends on, in the order of its declaration. -/
structure Module where
  name : Text
  dependencies : List Text
  deriving DecidableEq, Inhabited

namespace Module

/-- Why a value describes no module. -/
inductive EntryFault where
  /-- The value is neither a text nor an object. -/
  | notAnEntry (entry : Value)
  /-- The object has no name, or the name is empty or no text. -/
  | nameless (entry : Value)
  /-- The dependencies are given, but not as a list of texts. -/
  | badDependencies (name : Text)

/-- The words for an entry that describes no module. -/
def EntryFault.message : EntryFault → Text
  | notAnEntry entry => "无效的模块条目: " ++ entry.literalText
  | nameless entry => "模块条目缺少 name: " ++ entry.literalText
  | badDependencies name => "模块 " ++ name ++ " 的 dependencies 必须是字符串数组"

/-- The texts of a list that holds nothing else. -/
def texts? : List Value → Option (List Text)
  | [] => some []
  | .str s :: vs => (texts? vs).map (s :: ·)
  | _ :: _ => none

theorem texts?_map_str (names : List Text) : texts? (names.map Value.str) = some names := by
  induction names with
  | nil => rfl
  | cons n ns ih => simp [texts?, ih]

/-- The list of texts that a field holds; a field that is missing or counts as false is empty. -/
def dependencies? (field : Option Value) : Option (List Text) :=
  match field with
  | none => some []
  | some v =>
    if v.truthy then
      match v with
      | .list items => texts? items
      | _ => none
    else some []

/-- The module that an object describes. `entry` is the object itself. -/
def ofFields (entry : Value) : Except EntryFault Module :=
  match entry.field? "name" with
  | some (.str name) =>
    if name = "" then .error (.nameless entry)
    else
      match dependencies? (entry.field? "dependencies") with
      | some dependencies => .ok ⟨name, dependencies⟩
      | none => .error (.badDependencies name)
  | _ => .error (.nameless entry)

/-- The module that a value describes. -/
def read : Value → Except EntryFault Module
  | .str name => ofFields (.map [(.str "name", .str name)])
  | .map entries => ofFields (.map entries)
  | v => .error (.notAnEntry v)

/-- The description of a module. -/
def toValue (m : Module) : Value :=
  .map [(.str "name", .str m.name), (.str "dependencies", .list (m.dependencies.map .str))]

theorem ne_of_ofFields {entry : Value} {m : Module} (h : ofFields entry = .ok m) :
    m.name ≠ "" := by
  unfold ofFields at h
  split at h
  · split at h
    · cases h
    · split at h
      · cases h; assumption
      · cases h
  · cases h

theorem name_ne_of_read {v : Value} {m : Module} (h : read v = .ok m) : m.name ≠ "" := by
  cases v <;> simp only [read] at h
  case str => exact ne_of_ofFields h
  case map => exact ne_of_ofFields h
  all_goals cases h

theorem field?_name_toValue (m : Module) : m.toValue.field? "name" = some (.str m.name) := by
  simp [toValue, Value.field?, Value.lookup?, Value.sameKey]

theorem field?_dependencies_toValue (m : Module) :
    m.toValue.field? "dependencies" = some (.list (m.dependencies.map .str)) := by
  simp [toValue, Value.field?, Value.lookup?, Value.sameKey]

theorem dependencies?_list (names : List Text) :
    dependencies? (some (.list (names.map .str))) = some names := by
  cases names with
  | nil => rfl
  | cons n ns => simpa [dependencies?, Value.truthy] using texts?_map_str (n :: ns)

theorem read_toValue {m : Module} (h : m.name ≠ "") : read m.toValue = .ok m := by
  have : read m.toValue = ofFields m.toValue := rfl
  rw [this, ofFields, field?_name_toValue]
  simp only [h, if_false, field?_dependencies_toValue, dependencies?_list]

end Module

end ModuleKeeper
