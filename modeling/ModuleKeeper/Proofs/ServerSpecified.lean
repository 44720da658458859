import ModuleKeeper.Proofs.Json
import ModuleKeeper.Proofs.Numerals
import ModuleKeeper.Proofs.Service
import ModuleKeeper.Proofs.Utf8

/-!
# The server meets the specification

The server writes its lists as JSON and its JSON as bytes.  Both read back, so
what a client understands is what the server shows.  A list that holds a
surrogate cannot be written and is no answer at all.

The server knows a call by what stands behind the version in its address.  It
knows the calls of a gateway only if no other version stands before that one.

## Main results

* `interpret_write`: what is written is understood.
* `eq_of_interpret_accept`: a value that is understood is the one that was
  written.
* `Server.specified`: the server does what a service is specified to do.
-/

namespace ModuleKeeper

open ModuleKeeper.Text

/-! ## Replies -/

/-- What is written is never blank. -/
theorem strip_write_ne_nil {v : Value} (h : Json.Plain v) : strip (Json.write v) ≠ [] := by
  have hmark : ∃ c ∈ Json.write v, isBlank c = false := by
    cases v with
    | null => exact ⟨'n', by decide, by decide⟩
    | bool b =>
        cases b
        · exact ⟨'f', by decide, by decide⟩
        · exact ⟨'t', by decide, by decide⟩
    | int n =>
        obtain ⟨c, hc⟩ := List.exists_mem_of_ne_nil _ (decimal_ne_nil n.natAbs)
        refine ⟨c, ?_, isBlank_of_isDigit (isDigit_of_isDigit (Json.isDigit_of_mem_decimal hc))⟩
        rw [Json.write, Value.intText]
        split
        · exact .tail _ hc
        · exact hc
    | str s => exact ⟨'"', by simp [Json.write, Json.writeText], by decide⟩
    | list items => exact ⟨'[', by simp [Json.write], by decide⟩
    | map entries => exact ⟨'\x7b', by simp [Json.write], by decide⟩
    | float | bytes | date | moment | pair | set | again => exact absurd h id
  obtain ⟨c, hc, hnot⟩ := hmark
  intro hblank
  rw [strip_eq_nil_iff.1 hblank c hc] at hnot
  cases hnot

/-- What is written is understood, if it can be written as bytes. -/
theorem interpret_write {v : Value} (h : Json.Plain v)
    (hwritable : isWritable (Json.write v) = true) (reason : Text) :
    Gateway.interpret (.answered 200 reason (Utf8.encode (Json.write v))) = .ok v := by
  show Gateway.interpret (.accepted (Utf8.encode (Json.write v))) = .ok v
  simp only [Gateway.interpret, Utf8.decode_encode hwritable, Gateway.valueOf,
    List.isEmpty_iff, if_neg (strip_write_ne_nil h), Json.read_write h]
  rfl

/-- A written list is understood, if it can be written. -/
theorem interpret_accept {items : List Value} (h : Json.PlainItems items)
    (hwritable : isWritable (Json.write (.list items)) = true) :
    Gateway.interpret (Server.accept (Json.write (.list items))) = .ok (.list items) := by
  have hplain : Json.Plain (.list items) := h
  rw [Server.accept, Reply.ofText_of_isWritable hwritable, interpret_write hplain hwritable]

/-- What can be understood of a written list is the list. -/
theorem eq_of_interpret_accept {items : List Value} (h : Json.PlainItems items) {answer : Value}
    (hanswer : Gateway.interpret (Server.accept (Json.write (.list items))) = .ok answer) :
    answer = .list items := by
  by_cases hwritable : isWritable (Json.write (.list items)) = true
  · rw [interpret_accept h hwritable] at hanswer
    exact (Except.ok.inj hanswer).symm
  · rw [Server.accept, Reply.ofText, if_neg hwritable] at hanswer
    cases hanswer

theorem plain_toValue (m : Module) : Json.Plain m.toValue := by
  refine ⟨⟨"name", rfl, ?_⟩, trivial, ⟨"dependencies", rfl, by simp⟩,
    Json.plainItems_map_str m.dependencies, trivial⟩
  simp

theorem plainItems_map_toValue (ms : List Module) :
    Json.PlainItems (ms.map Module.toValue) := by
  induction ms with
  | nil => exact trivial
  | cons m ms ih => exact ⟨plain_toValue m, ih⟩

theorem lists_of_interpret_listing {ms : List Module} {answer : Value}
    (h : Gateway.interpret (Server.accept (Server.listing ms)) = .ok answer) : Lists answer ms := by
  rw [eq_of_interpret_accept (plainItems_map_toValue ms) h]
  refine ⟨_, rfl, ?_⟩
  rw [List.forall₂_map_left_iff]
  exact List.forall₂_same.2 fun m _ => describes_toValue m

/-! ## Calls -/

namespace Server

/-- The server as a service. -/
def service : Service Server := ⟨respond, catalog, modulesOf⟩

/-- The server sees the path of every call of a gateway behind the version in its address. -/
def Recognises (g : Gateway) : Prop :=
  ∀ path ∈ [(Registry.rosterCall .catalog "").1, Registry.databasesCall.1,
    Registry.Edit.install.path, Registry.Edit.remove.path],
    Text.ofList (pathOf (Gateway.sentUrl (g.urlFor path)).toList) = path

instance (g : Gateway) : Decidable (Recognises g) := by
  unfold Recognises
  infer_instance

variable {g : Gateway}

theorem key_catalog (hg : Recognises g) {q : Request} {database : Text}
    (h : g.request (Registry.rosterCall .catalog database).1
      (Registry.rosterCall .catalog database).2 = .ok q) : key q = "module/list?all" := by
  obtain ⟨hurl, hbody⟩ := Gateway.eq_of_request h
  have hpath := hg (Registry.rosterCall .catalog database).1 (by simp [Registry.rosterCall])
  rw [key, hurl, hpath, hbody]
  rfl

theorem key_installed (hg : Recognises g) {q : Request} {database : Text}
    (h : g.request (Registry.rosterCall .installed database).1
      (Registry.rosterCall .installed database).2 = .ok q) : key q = "module/list?installed" := by
  obtain ⟨hurl, hbody⟩ := Gateway.eq_of_request h
  have hpath := hg (Registry.rosterCall .installed database).1 (by simp [Registry.rosterCall])
  rw [key, hurl, hpath, hbody]
  rfl

theorem key_databases (hg : Recognises g) {q : Request}
    (h : g.request Registry.databasesCall.1 Registry.databasesCall.2 = .ok q) :
    key q = "db/list" := by
  obtain ⟨hurl, hbody⟩ := Gateway.eq_of_request h
  have hpath := hg Registry.databasesCall.1 (by simp)
  rw [key, hurl, hpath, hbody]
  rfl

theorem key_edit (hg : Recognises g) {q : Request} {e : Registry.Edit} {body : Value}
    (h : g.request e.path body = .ok q) : key q = e.path := by
  obtain ⟨hurl, -⟩ := Gateway.eq_of_request h
  have hpath := hg e.path (by cases e <;> simp)
  rw [key, hurl, hpath]
  cases e <;> rfl

theorem databaseIn_body {q : Request} {database : Text} {names : List Text}
    (h : q.body = Registry.Edit.body database names) : databaseIn q = database := by
  rw [databaseIn, h]
  rfl

theorem namesIn_body {q : Request} {database : Text} {names : List Text}
    (h : q.body = Registry.Edit.body database names) : namesIn q = names := by
  have hfield : q.body.field? "list" = some (.list (names.map .str)) := by
    rw [h]
    simp [Registry.Edit.body, Value.field?, Value.lookup?, Value.sameKey]
  rw [namesIn, hfield]
  dsimp only
  rw [List.map_map]
  exact List.map_id'' (fun _ => rfl) names

theorem respond_catalog {s : Server} {q : Request} (h : key q = "module/list?all") :
    s.respond q = (accept (listing s.catalog), s) := by
  simp [respond, h]

theorem respond_installed {s : Server} {q : Request} (h : key q = "module/list?installed") :
    s.respond q = (accept (listing ((s.modulesOf (databaseIn q)).map s.describe)), s) := by
  simp [respond, h]

theorem respond_databases {s : Server} {q : Request} (h : key q = "db/list") :
    (s.respond q).2 = s := by
  simp [respond, h]

theorem respond_edit {s : Server} {q : Request} {e : Registry.Edit} (h : key q = e.path) :
    s.respond q = (accept [], s.edit e (databaseIn q) (namesIn q)) := by
  cases e <;> simp [respond, h, Registry.Edit.path]

theorem edited_edit (s : Server) (e : Registry.Edit) (database : Text) (names : List Text) :
    service.Edited e database names s (s.edit e database names) where
  catalog := rfl
  target := modulesOf_edit_self s e database names
  others := fun _ hother => modulesOf_edit_ne hother e names

/-- The server answers a call for a roster with what it shows for it, and stays as it is. -/
theorem respond_roster (hg : Recognises g) {s : Server} {q : Request} {role : Role}
    {database : Text} (h : g.request (Registry.rosterCall role database).1
      (Registry.rosterCall role database).2 = .ok q) :
    s.respond q = (accept (listing (service.shown s database role)), s) := by
  cases role with
  | catalog => exact respond_catalog (key_catalog hg h)
  | installed =>
      have hdatabase : databaseIn q = database := by
        rw [databaseIn, (Gateway.eq_of_request h).2]
        rfl
      rw [respond_installed (key_installed hg h), hdatabase]
      rfl

/-- The server does what a service is specified to do, for each gateway that it recognises. -/
theorem specified (hg : Recognises g) : service.Specified g where
  lists := by
    intro s role database q hq
    show service.Same s (s.respond q).2 ∧
      ∀ answer, Gateway.interpret (s.respond q).1 = .ok answer →
        Lists answer (service.shown s database role)
    rw [respond_roster hg hq]
    exact ⟨Service.Same.refl s, fun answer h => lists_of_interpret_listing h⟩
  databases := by
    intro s q hq
    have hrespond := respond_databases (s := s) (key_databases hg hq)
    show service.Same s (s.respond q).2
    rw [hrespond]
    exact Service.Same.refl s
  accepted := by
    intro s e database names q hq _
    have hrespond := respond_edit (s := s) (key_edit hg hq)
    have hbody := (Gateway.eq_of_request hq).2
    show service.Edited e database names s (s.respond q).2
    rw [hrespond, databaseIn_body hbody, namesIn_body hbody]
    exact edited_edit s e database names
  refused := by
    intro s e database names q hq _
    have hrespond := respond_edit (s := s) (key_edit hg hq)
    have hbody := (Gateway.eq_of_request hq).2
    refine Or.inr ?_
    show service.Edited e database names s (s.respond q).2
    rw [hrespond, databaseIn_body hbody, namesIn_body hbody]
    exact edited_edit s e database names

end Server

end ModuleKeeper
