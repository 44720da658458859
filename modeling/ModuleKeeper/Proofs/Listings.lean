import Mathlib.Data.List.Induction
import ModuleKeeper.Proofs.CallEndings
import ModuleKeeper.Proofs.Firsts
import ModuleKeeper.Proofs.Rosters
import ModuleKeeper.Proofs.Running
import ModuleKeeper.Proofs.ServerSpecified

/-!
# Answers that list modules

What a service answers is only known to be a value.  This file says which values
list modules, apart from the program that reads them: an entry is a name, or an
object with a name and perhaps with dependencies, and a listing has nothing but
entries.  An entry counts even if its name came before.  It adds nothing then,
but it has to be an entry.

## Main results

* `Module.read_eq_ok_iff`: the values that describe a module.
* `Roster.snd_read`: a roster is read entry by entry.
* `Roster.modules_ofModules`: it has the modules whose name no earlier one has.
* `fetch_listing`: what is fetched is what the answer lists, or the fault of a catalog.
-/

namespace ModuleKeeper

/-! ## Entries -/

namespace Module

/-- The names that a field of dependencies holds; it may be missing, or count as false. -/
inductive Needs : Option Value → List Text → Prop
  | absent : Needs none []
  | empty {v : Value} (h : v.truthy = false) : Needs (some v) []
  | listed (names : List Text) : Needs (some (.list (names.map .str))) names

/-- A value that describes a module: its name, or an object with its name. -/
inductive Entry : Value → Module → Prop
  | bare {name : Text} (hname : name ≠ "") : Entry (.str name) ⟨name, []⟩
  | object {fields : List (Value × Value)} {name : Text} {dependencies : List Text}
      (hfield : (Value.map fields).field? "name" = some (.str name)) (hname : name ≠ "")
      (hneeds : Needs ((Value.map fields).field? "dependencies") dependencies) :
      Entry (.map fields) ⟨name, dependencies⟩

variable {v : Value} {m : Module}

theorem texts?_eq_some_iff {items : List Value} {names : List Text} :
    texts? items = some names ↔ items = names.map .str := by
  constructor
  · intro h
    induction items generalizing names with
    | nil =>
        obtain rfl : [] = names := Option.some.inj h
        rfl
    | cons item items ih =>
        cases item with
        | str name =>
            rw [texts?] at h
            obtain ⟨rest, hrest, rfl⟩ := Option.map_eq_some_iff.1 h
            rw [ih hrest]
            rfl
        | _ => cases h
  · rintro rfl
    exact texts?_map_str names

theorem dependencies?_eq_some_iff {field : Option Value} {names : List Text} :
    dependencies? field = some names ↔ Needs field names := by
  constructor
  · intro h
    cases field with
    | none =>
        obtain rfl : [] = names := Option.some.inj h
        exact .absent
    | some v =>
        unfold dependencies? at h
        dsimp only at h
        by_cases htrue : v.truthy = true
        · rw [if_pos htrue] at h
          cases v with
          | list items =>
              rw [texts?_eq_some_iff.1 h]
              exact .listed names
          | _ => cases h
        · rw [if_neg htrue] at h
          obtain rfl : [] = names := Option.some.inj h
          exact .empty (Bool.eq_false_iff.2 htrue)
  · intro h
    cases h with
    | absent => rfl
    | empty hfalse => simp [dependencies?, hfalse]
    | listed => exact dependencies?_list names

theorem read_name {name : Text} (h : name ≠ "") : read (.str name) = .ok ⟨name, []⟩ := by
  simp [read, ofFields, h, Value.field?, Value.lookup?, Value.sameKey, dependencies?]

theorem ofFields_eq_ok_iff {entry : Value} : ofFields entry = .ok m ↔
    entry.field? "name" = some (.str m.name) ∧ m.name ≠ "" ∧
      Needs (entry.field? "dependencies") m.dependencies := by
  rw [← dependencies?_eq_some_iff]
  constructor
  · intro h
    have hname := ne_of_ofFields h
    unfold ofFields at h
    split at h
    · rename_i name hfield
      split at h
      · cases h
      · split at h
        · rename_i dependencies hdependencies
          obtain rfl := Except.ok.inj h
          exact ⟨hfield, hname, hdependencies⟩
        · cases h
    · cases h
  · rintro ⟨hfield, hname, hdependencies⟩
    rw [ofFields, hfield]
    show (if m.name = "" then _ else _) = _
    rw [if_neg hname, hdependencies]

/-- A value is read as the module that it describes. -/
theorem read_eq_ok_iff : read v = .ok m ↔ Entry v m := by
  constructor
  · intro h
    cases v with
    | str name =>
        by_cases hname : name = ""
        · subst hname
          cases h
        · rw [read_name hname] at h
          obtain rfl := Except.ok.inj h
          exact .bare hname
    | map fields =>
        obtain ⟨hfield, hname, hneeds⟩ := ofFields_eq_ok_iff.1 h
        exact .object hfield hname hneeds
    | _ => cases h
  · intro h
    cases h with
    | bare hname => exact read_name hname
    | object hfield hname hneeds => exact ofFields_eq_ok_iff.2 ⟨hfield, hname, hneeds⟩

theorem entry_toValue (h : m.name ≠ "") : Entry m.toValue m := read_eq_ok_iff.1 (read_toValue h)

theorem mapM_read_eq_ok_iff {entries : List Value} {ms : List Module} :
    entries.mapM read = .ok ms ↔ List.Forall₂ Entry entries ms := by
  simp only [mapM_eq_ok_iff, read_eq_ok_iff]

theorem unique_of_entries {entries : List Value} {ms ms' : List Module}
    (h : List.Forall₂ Entry entries ms) (h' : List.Forall₂ Entry entries ms') : ms = ms' := by
  rw [← mapM_read_eq_ok_iff] at h h'
  exact Except.ok.inj (h.symm.trans h')

end Module

/-! ## Rosters -/

namespace Roster

/-- Entries are read one by one, and what they describe is added in order. -/
theorem snd_readFrom (entries : List Value) (r : Roster) (repeated : List Text) :
    (readFrom r repeated entries).2 =
      (do let ms ← entries.mapM Module.read; .ok (ms.foldl add r)) := by
  induction entries generalizing r repeated with
  | nil => rfl
  | cons entry entries ih =>
      rw [readFrom, List.mapM_cons]
      cases Module.read entry with
      | error e => rfl
      | ok m =>
          have hadded : (if r.has m.name = true then readFrom r (repeated ++ [m.name]) entries
              else readFrom (r.add m) repeated entries).2 =
                (do let ms ← entries.mapM Module.read; .ok (ms.foldl add (r.add m))) := by
            split
            · rename_i hhas
              rw [ih, add_eq_self (has_iff.1 hhas)]
            · exact ih _ _
          refine hadded.trans ?_
          cases entries.mapM Module.read <;> rfl

theorem snd_read (entries : List Value) : (read entries).2 =
    (do let ms ← entries.mapM Module.read; .ok (ofModules ms)) := snd_readFrom entries empty []

theorem read_eq_ok_iff {entries : List Value} {r : Roster} : (read entries).2 = .ok r ↔
    ∃ ms, List.Forall₂ Module.Entry entries ms ∧ r = ofModules ms := by
  rw [snd_read, bind_eq_ok_iff]
  refine exists_congr fun ms => and_congr Module.mapM_read_eq_ok_iff ?_
  rw [Except.ok.injEq, eq_comm]

/-- The modules of a list whose name no earlier one has. -/
def firstOfEachName (ms : List Module) : List Module :=
  (ms.zipIdx.filter fun m => m.1.name ∉ (ms.take m.2).map Module.name).map Prod.fst

theorem firstOfEachName_concat (ms : List Module) (m : Module) :
    firstOfEachName (ms ++ [m]) =
      firstOfEachName ms ++ if m.name ∈ ms.map Module.name then [] else [m] := by
  have hfront : ∀ p ∈ ms.zipIdx, (ms ++ [m]).take p.2 = ms.take p.2 := by
    intro p hp
    exact List.take_append_of_le_length (List.snd_lt_of_mem_zipIdx hp).le
  unfold firstOfEachName
  rw [List.zipIdx_append, List.filter_append, List.map_append]
  congr 1
  · congr 1
    refine List.filter_congr fun p hp => ?_
    rw [hfront p hp]
  · by_cases hm : m.name ∈ ms.map Module.name
    · simp [hm]
    · simp [hm]

/-- A roster has the modules of a list whose name no earlier one has. -/
theorem modules_ofModules (ms : List Module) : (ofModules ms).modules = firstOfEachName ms := by
  induction ms using List.reverseRecOn with
  | nil => rfl
  | append_singleton ms m ih =>
      have hadd : ofModules (ms ++ [m]) = (ofModules ms).add m := by
        rw [ofModules, List.foldl_append]
        rfl
      have hnames : m.name ∈ (ofModules ms).names ↔ m.name ∈ ms.map Module.name := by
        rw [mem_names_ofModules, List.mem_map]
      rw [hadd, firstOfEachName_concat, ← ih]
      by_cases hm : m.name ∈ ms.map Module.name
      · rw [add_eq_self (hnames.2 hm), if_pos hm, List.append_nil]
      · rw [modules_add (hnames.not.2 hm), if_neg hm]

/-- What is read back from the descriptions of modules with names are these modules. -/
theorem read_toValues {r : Roster} (h : ∀ m ∈ r.modules, m.name ≠ "") :
    read r.toValues = ([], .ok r) := by
  rw [read_eq_distinct_iff, toValues, Lists, List.forall₂_map_left_iff, List.forall₂_same]
  exact fun m hm => Module.read_toValue (h m hm)

theorem name_ne_of_mem_ofModules {entries : List Value} {ms : List Module}
    (h : List.Forall₂ Module.Entry entries ms) : ∀ m ∈ (ofModules ms).modules, m.name ≠ "" := by
  intro m hm
  rw [modules_ofModules] at hm
  obtain ⟨p, hp, rfl⟩ := List.mem_map.1 hm
  have hlisted : p.1 ∈ ms := List.fst_mem_of_mem_zipIdx (List.mem_of_mem_filter hp)
  obtain ⟨entry, hentry⟩ := exists_forall₂_iff.1 ⟨_, h.flip⟩ p.1 hlisted
  exact Module.name_ne_of_read (Module.read_eq_ok_iff.2 hentry)

end Roster

/-! ## Answers -/

namespace Registry

/-- An answer that lists modules: nothing at all, or a list of entries. -/
def IsListing (answer : Value) : Prop :=
  answer = .null ∨ ∃ items, answer = .list items ∧ ∀ item ∈ items, ∃ m, Module.Entry item m

variable {role : Role} {answer : Value} {roster : Roster}

theorem listed_eq_ok_iff {items : List Value} :
    listed answer = .ok items ↔ answer = .null ∧ items = [] ∨ answer = .list items := by
  cases answer <;> simp [listed, eq_comm]

theorem isListing_iff : IsListing answer ↔
    ∃ items ms, listed answer = .ok items ∧ List.Forall₂ Module.Entry items ms := by
  constructor
  · rintro (rfl | ⟨items, rfl, hentries⟩)
    · exact ⟨[], [], rfl, .nil⟩
    · obtain ⟨ms, hms⟩ := exists_forall₂_iff.2 hentries
      exact ⟨items, ms, rfl, hms⟩
  · rintro ⟨items, ms, hlisted, hms⟩
    rcases listed_eq_ok_iff.1 hlisted with ⟨rfl, -⟩ | rfl
    · exact .inl rfl
    · exact .inr ⟨items, rfl, exists_forall₂_iff.1 ⟨ms, hms⟩⟩

theorem snd_rosterOf_of_listed {items : List Value} (h : listed answer = .ok items) :
    (rosterOf role answer).2 =
      (Roster.read items).2.mapError fun cause => .fault (.catalog (role.entryFault cause)) := by
  rw [rosterOf, h]

theorem rosterOf_eq_ok_iff : (rosterOf role answer).2 = .ok roster ↔
    ∃ items ms, listed answer = .ok items ∧ List.Forall₂ Module.Entry items ms ∧
      roster = Roster.ofModules ms := by
  cases hlisted : listed answer with
  | error cause => simp [rosterOf, hlisted]
  | ok items =>
      rw [snd_rosterOf_of_listed hlisted, mapError_eq_ok_iff, Roster.read_eq_ok_iff]
      constructor
      · rintro ⟨ms, hms⟩
        exact ⟨items, ms, rfl, hms⟩
      · rintro ⟨items', ms, hitems, hms⟩
        obtain rfl : items = items' := Except.ok.inj hitems
        exact ⟨ms, hms⟩

/-- What is wrong with a listing is a fault of the catalog. -/
theorem rosterOf_eq_error {failure : Failure} (h : (rosterOf role answer).2 = .error failure) :
    ∃ cause, failure = .fault (.catalog cause) := by
  cases hlisted : listed answer with
  | error cause =>
      rw [rosterOf, hlisted] at h
      exact ⟨cause, (Except.error.inj h).symm⟩
  | ok items =>
      rw [snd_rosterOf_of_listed hlisted, mapError_eq_error_iff] at h
      obtain ⟨cause, -, rfl⟩ := h
      exact ⟨role.entryFault cause, rfl⟩

variable {σ : Type} {r : Registry (StateM σ)} {database : Text} {s s₁ : σ}

/-- What is fetched is what the answer lists. -/
theorem fst_runIn_fetch
    (hcall : (r.call (rosterCall role database)).runIn s = (.ok answer, s₁)) :
    ((r.fetch role database).runIn s).1 = (rosterOf role answer).2 := by
  obtain ⟨reply, hexchange, hanswer⟩ := exists_reply_of_call hcall
  rw [fst_runIn_fetch_of_exchange hexchange, readRoster, hanswer]

/--
**What an answer lists.**  If the service answers a call for modules with a
value, a roster comes of it exactly if the value is null or a list in which each
item is a name or an object with a name and, if at all, a list of names for
dependencies; otherwise, and only otherwise, there is a fault of the catalog.
The roster has the modules of the items in their order, without those whose name
an earlier one has.  So no name comes twice, all ways to ask the roster agree,
and its own descriptions read back as itself.
-/
theorem fetch_listing
    (hcall : (r.call (rosterCall role database)).runIn s = (.ok answer, s₁)) :
    ((∃ roster, ((r.fetch role database).runIn s).1 = .ok roster) ↔ IsListing answer) ∧
    ((¬∃ roster, ((r.fetch role database).runIn s).1 = .ok roster) →
      ∃ cause, ((r.fetch role database).runIn s).1 = .error (.fault (.catalog cause))) ∧
    (∀ roster, ((r.fetch role database).runIn s).1 = .ok roster →
      (∃ items ms, (answer = .null ∧ items = [] ∨ answer = .list items) ∧
        List.Forall₂ Module.Entry items ms ∧
        roster.modules = Roster.firstOfEachName ms) ∧
      roster.names = roster.modules.map Module.name ∧ roster.names.Nodup ∧
      roster.size = roster.names.length ∧ (∀ n, roster.has n = true ↔ n ∈ roster.names) ∧
      (∀ n m, roster.get? n = some m ↔ m ∈ roster.modules ∧ m.name = n) ∧
      Roster.read roster.toValues = ([], .ok roster)) := by
  rw [fst_runIn_fetch hcall]
  refine ⟨?_, fun hnone => ?_, fun roster hroster => ?_⟩
  · rw [isListing_iff]
    simp only [rosterOf_eq_ok_iff]
    constructor
    · rintro ⟨roster, items, ms, hlisted, hms, -⟩
      exact ⟨items, ms, hlisted, hms⟩
    · rintro ⟨items, ms, hlisted, hms⟩
      exact ⟨_, items, ms, hlisted, hms, rfl⟩
  · cases hresult : (rosterOf role answer).2 with
    | ok roster => exact absurd ⟨roster, hresult⟩ hnone
    | error failure =>
        obtain ⟨cause, rfl⟩ := rosterOf_eq_error hresult
        exact ⟨cause, rfl⟩
  · obtain ⟨items, ms, hlisted, hms, rfl⟩ := rosterOf_eq_ok_iff.1 hroster
    refine ⟨⟨items, ms, listed_eq_ok_iff.1 hlisted, hms, Roster.modules_ofModules ms⟩, rfl,
      Roster.names_nodup _, (Roster.length_names _).symm, fun n => Roster.has_iff,
      fun n m => Roster.get?_eq_some_iff, Roster.read_toValues ?_⟩
    exact Roster.name_ne_of_mem_ofModules hms

/-- A registry whose service answers every call with one list. -/
def answering (items : List Value) : Registry (StateM Unit) :=
  ⟨⟨"http://localhost:8088", .str "", .int 30⟩,
    fun _ => pure (Server.accept (Json.write (.list items))), fun _ => pure ()⟩

theorem call_answering {items : List Value} (h : Json.PlainItems items)
    (hwritable : Text.isWritable (Json.write (.list items)) = true) :
    Task.runIn ((answering items).call (rosterCall .catalog "")) () = (.ok (.list items), ()) := by
  have hrun : Task.runIn ((answering items).call (rosterCall .catalog "")) () =
      ((Gateway.interpret (Server.accept (Json.write (.list items)))).mapError id, ()) := by
    rfl
  rw [hrun, interpret_accept h hwritable]
  rfl

/--
A name, the object of a module, and a second object of the first name: what comes
first counts.  A second object that is no entry spoils the whole list.
-/
theorem fetch_listing_mail :
    (∃ roster, (Task.runIn ((answering [.str "mail", Module.toValue ⟨"shop", ["mail"]⟩,
        Module.toValue ⟨"mail", ["shop"]⟩]).fetch .catalog "") ()).1 = .ok roster ∧
      roster.modules = [⟨"mail", []⟩, ⟨"shop", ["mail"]⟩]) ∧
    ∃ cause, (Task.runIn ((answering [.str "mail",
        .map [(.str "name", .str "mail"), (.str "dependencies", .int 1)]]).fetch .catalog "") ()).1
      = .error (.fault (.catalog cause)) := by
  constructor
  · have hplain : Json.PlainItems [.str "mail", Module.toValue ⟨"shop", ["mail"]⟩,
        Module.toValue ⟨"mail", ["shop"]⟩] :=
      ⟨trivial, plain_toValue _, plain_toValue _, trivial⟩
    have hentries : List.Forall₂ Module.Entry [.str "mail", Module.toValue ⟨"shop", ["mail"]⟩,
        Module.toValue ⟨"mail", ["shop"]⟩] [⟨"mail", []⟩, ⟨"shop", ["mail"]⟩, ⟨"mail", ["shop"]⟩] :=
      .cons (.bare (by decide)) (.cons (Module.entry_toValue (by decide))
        (.cons (Module.entry_toValue (by decide)) .nil))
    obtain ⟨haccepted, -, hmodules⟩ := fetch_listing (call_answering hplain (by decide))
    obtain ⟨roster, hroster⟩ := haccepted.2
      (.inr ⟨_, rfl, exists_forall₂_iff.1 ⟨_, hentries⟩⟩)
    obtain ⟨⟨items, ms, hitems, hms, heq⟩, -⟩ := hmodules roster hroster
    refine ⟨roster, hroster, ?_⟩
    rcases hitems with ⟨hnull, -⟩ | hitems
    · cases hnull
    · obtain rfl := Value.list.inj hitems
      obtain rfl := Module.unique_of_entries hms hentries
      rw [heq]
      decide
  · have hone : Json.Plain (.int 1) := by
      show (Text.decimal 1).length ≤ Numeral.digitLimit
      decide
    have hplain : Json.PlainItems [.str "mail",
        .map [(.str "name", .str "mail"), (.str "dependencies", .int 1)]] :=
      ⟨trivial, ⟨⟨"name", rfl, by simp⟩, trivial, ⟨"dependencies", rfl, by simp⟩, hone, trivial⟩,
        trivial⟩
    obtain ⟨haccepted, hrefused, -⟩ := fetch_listing (call_answering hplain (by decide))
    refine hrefused fun hsome => ?_
    rcases haccepted.1 hsome with hnull | ⟨items, hitems, hentries⟩
    · cases hnull
    · obtain rfl := Value.list.inj hitems
      obtain ⟨m, hm⟩ := hentries _ (.tail _ (.head _))
      have hread := Module.read_eq_ok_iff.2 hm
      cases hread

end Registry

end ModuleKeeper
