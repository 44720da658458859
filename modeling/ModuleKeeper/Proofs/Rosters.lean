import Mathlib.Data.List.Forall2
import Mathlib.Data.List.Nodup
import Mathlib.Data.List.Perm.Basic
import ModuleKeeper.Roster

/-!
# Rosters as functions of names

A roster is built by adding one module after another, and of several modules
of one name only the first is taken.  So looking a name up in the roster of a
list is looking for the first module of this name in the list.

## Main results

* `get?_eq_some_iff`: a look-up finds the one module of its name.
* `get?_ofModules`: a look-up in the roster of a list is a search in the list.
* `readFrom_eq_ok`: a roster that is read is the one of the described modules.
* `read_eq_distinct_iff`: entries with distinct names are read as they are.
* `exists_read_of_perm`: their order decides nothing but an order.
-/

namespace ModuleKeeper.Roster

theorem get?_eq_some_iff {r : Roster} {name : Text} {m : Module} :
    r.get? name = some m ↔ m ∈ r.modules ∧ m.name = name := by
  constructor
  · intro h
    exact ⟨mem_of_get? h, name_of_get? h⟩
  · rintro ⟨hm, rfl⟩
    have hsome : (r.get? m.name).isSome = true :=
      get?_isSome_iff.2 (List.mem_map.2 ⟨m, hm, rfl⟩)
    obtain ⟨m', hm'⟩ := Option.isSome_iff_exists.1 hsome
    -- Both modules stand in the roster under one name, and no name comes twice.
    have heq : m' = m :=
      List.inj_on_of_nodup_map r.distinct (mem_of_get? hm') hm (name_of_get? hm')
    rw [hm', heq]

/-! ## Adding -/

theorem names_add (r : Roster) (m : Module) (n : Text) :
    n ∈ (r.add m).names ↔ n ∈ r.names ∨ n = m.name := by
  unfold add
  split
  · rename_i h
    constructor
    · exact Or.inl
    · rintro (hn | rfl)
      · exact hn
      · exact h
  · simp [names]

theorem modules_add {r : Roster} {m : Module} (h : m.name ∉ r.names) :
    (r.add m).modules = r.modules ++ [m] := by
  unfold add
  exact congrArg modules (dif_neg h)

theorem get?_add (r : Roster) (m : Module) (name : Text) :
    (r.add m).get? name = (r.get? name).or (if m.name = name then some m else none) := by
  by_cases hm : m.name ∈ r.names
  · rw [add_eq_self hm]
    split
    · rename_i hname
      -- The name is there already, so the module that is added last does not count.
      have hsome : (r.get? name).isSome = true := get?_isSome_iff.2 (hname ▸ hm)
      obtain ⟨m', hm'⟩ := Option.isSome_iff_exists.1 hsome
      rw [hm', Option.some_or]
    · rw [Option.or_none]
  · rw [get?, modules_add hm, List.find?_append]
    congr 1
    simp only [List.find?_cons, List.find?_nil]
    by_cases hname : m.name = name
    · simp [hname]
    · simp [hname]

theorem get?_foldl_add (ms : List Module) (r : Roster) (name : Text) :
    (ms.foldl add r).get? name = (r.get? name).or (ms.find? (·.name = name)) := by
  induction ms generalizing r with
  | nil => simp
  | cons m ms ih =>
      rw [List.foldl_cons, ih, get?_add, Option.or_assoc]
      congr 1
      rw [List.find?_cons]
      by_cases hname : m.name = name
      · simp [hname]
      · simp [hname]

/-- Looking a name up is looking for the first module of this name. -/
theorem get?_ofModules (ms : List Module) (name : Text) :
    (ofModules ms).get? name = ms.find? (·.name = name) := by
  rw [ofModules, get?_foldl_add]
  rfl

theorem mem_names_ofModules {ms : List Module} {name : Text} :
    name ∈ (ofModules ms).names ↔ ∃ m ∈ ms, m.name = name := by
  rw [← get?_isSome_iff, get?_ofModules, List.find?_isSome]
  simp

/-! ## Reading -/

/--
Reading adds the described modules in order.  `Described` says which module a
description stands for; it may also be one that is not accepted.
-/
theorem readFrom_eq_ok {described : Value → Module → Prop}
    (hdescribed : ∀ entry m m', described entry m → Module.read entry = .ok m' → m' = m)
    {entries : List Value} {ms : List Module} (h : List.Forall₂ described entries ms)
    {r : Roster} {repeated : List Text} {r' : Roster}
    (hread : (readFrom r repeated entries).2 = .ok r') : r' = ms.foldl add r := by
  induction h generalizing r repeated with
  | nil =>
      rw [readFrom] at hread
      exact (Except.ok.inj hread).symm
  | @cons entry m entries ms hentry _ ih =>
      rw [readFrom] at hread
      cases hm : Module.read entry with
      | error e =>
          rw [hm] at hread
          cases hread
      | ok m' =>
          rw [hm] at hread
          obtain rfl := hdescribed entry m m' hentry hm
          dsimp only at hread
          rw [List.foldl_cons]
          split at hread
          · rename_i hhas
            rw [add_eq_self (has_iff.1 hhas)]
            exact ih hread
          · exact ih hread

/-! ### Distinct names -/

theorem eq_of_modules {r r' : Roster} (h : r.modules = r'.modules) : r = r' := by
  cases r
  cases r'
  obtain rfl := h
  rfl

/-- A name that came again stays reported. -/
theorem prefix_fst_readFrom (entries : List Value) (r : Roster) (repeated : List Text) :
    repeated <+: (readFrom r repeated entries).1 := by
  induction entries generalizing r repeated with
  | nil => exact List.prefix_rfl
  | cons entry entries ih =>
      rw [readFrom]
      cases Module.read entry with
      | error e => exact List.prefix_rfl
      | ok m =>
          dsimp only
          split
          · exact (List.prefix_append repeated [m.name]).trans (ih r _)
          · exact ih _ _

/-- The modules that entries stand for, one for one. -/
def Lists (entries : List Value) (ms : List Module) : Prop :=
  List.Forall₂ (fun entry m => Module.read entry = .ok m) entries ms

theorem lists_of_readFrom {entries : List Value} {r r' : Roster}
    (h : readFrom r [] entries = ([], .ok r')) :
    ∃ ms, Lists entries ms ∧ r'.modules = r.modules ++ ms := by
  induction entries generalizing r with
  | nil =>
      rw [readFrom] at h
      obtain rfl : r = r' := Except.ok.inj (congrArg Prod.snd h)
      exact ⟨[], .nil, (List.append_nil _).symm⟩
  | cons entry entries ih =>
      rw [readFrom] at h
      cases hread : Module.read entry with
      | error e =>
          rw [hread] at h
          cases congrArg Prod.snd h
      | ok m =>
          rw [hread] at h
          dsimp only at h
          by_cases hrepeated : m.name ∈ r.names
          · rw [if_pos (has_iff.2 hrepeated)] at h
            have hprefix := prefix_fst_readFrom entries r ([] ++ [m.name])
            rw [h] at hprefix
            cases List.prefix_nil.1 hprefix
          · rw [if_neg (has_iff.not.2 hrepeated)] at h
            obtain ⟨ms, hlists, hmodules⟩ := ih h
            refine ⟨m :: ms, .cons hread hlists, ?_⟩
            rw [hmodules, modules_add hrepeated, List.append_assoc, List.singleton_append]

theorem readFrom_of_lists {entries : List Value} {ms : List Module} {r r' : Roster}
    (h : Lists entries ms) (hmodules : r'.modules = r.modules ++ ms) :
    readFrom r [] entries = ([], .ok r') := by
  induction h generalizing r with
  | nil =>
      rw [readFrom, eq_of_modules (hmodules.trans (List.append_nil _))]
  | @cons entry m entries ms hread _ ih =>
      have hfresh : m.name ∉ r.names := by
        have hdistinct := r'.distinct
        rw [hmodules, List.map_append, List.nodup_append] at hdistinct
        intro hm
        exact hdistinct.2.2 m.name hm m.name (by simp) rfl
      have hnext : r'.modules = (r.add m).modules ++ ms := by
        rw [hmodules, modules_add hfresh, List.append_assoc, List.singleton_append]
      rw [readFrom, hread]
      dsimp only
      rw [if_neg (has_iff.not.2 hfresh), ih hnext]

/-- No name comes again among entries that stand for the modules of a roster, and only there. -/
theorem read_eq_distinct_iff {entries : List Value} {r : Roster} :
    read entries = ([], .ok r) ↔ Lists entries r.modules := by
  constructor
  · intro h
    obtain ⟨ms, hlists, hmodules⟩ := lists_of_readFrom h
    rwa [hmodules]
  · exact fun h => readFrom_of_lists h rfl

/-! ## Other orders -/

/-- Rosters with the same modules, in whatever order. -/
def Same (r r' : Roster) : Prop := r.modules.Perm r'.modules

namespace Same

variable {r r' : Roster}

theorem symm (h : r.Same r') : r'.Same r := List.Perm.symm h

theorem mem_modules (h : r.Same r') (m : Module) : m ∈ r.modules ↔ m ∈ r'.modules := h.mem_iff

theorem mem_names (h : r.Same r') (n : Text) : n ∈ r.names ↔ n ∈ r'.names := (h.map _).mem_iff

theorem size_eq (h : r.Same r') : r.size = r'.size := h.length_eq

end Same

/-- The order of entries with distinct names decides the order of the roster, and nothing else. -/
theorem exists_read_of_perm {entries entries' : List Value} {r : Roster}
    (hread : read entries = ([], .ok r)) (hperm : entries.Perm entries') :
    ∃ r', read entries' = ([], .ok r') ∧ r.Same r' := by
  obtain ⟨ms, hlists, hms⟩ := List.perm_comp_forall₂ hperm.symm (read_eq_distinct_iff.1 hread)
  have hdistinct : (ms.map Module.name).Nodup := (hms.map _).nodup_iff.2 r.distinct
  exact ⟨⟨ms, hdistinct⟩, read_eq_distinct_iff.2 hlists, hms.symm⟩

end ModuleKeeper.Roster
