import ModuleKeeper.Proofs.CallEndings
import ModuleKeeper.Proofs.Exchanges
import ModuleKeeper.Proofs.ServerSpecified

/-!
# The wire is transparent

What is sent is text in bytes, and so is what comes back.  This file says that
nothing is lost on the way, in either direction: the bytes of a change spell the
names and the database that were asked for (`Spells`), and a value that a service
writes as JSON is the value that the call gives.

Two things do not go over the wire.  A text with half of a character has no bytes;
and of the numbers only whole ones are written as they are read.

## Main results

* `Gateway.spells_of_request`: the bytes of a request spell its body.
* `Registry.isWritable_editBody`: the changes that can be sent.
* `Registry.wire_transparent`: what is asked arrives, and what is answered arrives.
-/

namespace ModuleKeeper

open ModuleKeeper.Text ModuleKeeper.Task

/-! ## Bytes of values -/

/-- The bytes are those of a text, and the text is read as the value. -/
def Json.Spells (bytes : List UInt8) (v : Value) : Prop :=
  ∃ cs, Utf8.decode bytes = some cs ∧ Json.read cs = .ok v

theorem Json.spells_write {v : Value} (h : Json.Plain v)
    (hwritable : isWritable (Json.write v) = true) :
    Json.Spells (Utf8.encode (Json.write v)) v :=
  ⟨_, Utf8.decode_encode hwritable, Json.read_write h⟩

/-- Texts between commas can be written if each of them can. -/
theorem isWritable_commaJoined (texts : List (List CodePoint)) :
    isWritable (Value.commaJoined texts) = texts.all isWritable := by
  induction texts using Value.commaJoined.induct with
  | case1 => rfl
  | case2 text => simp [Value.commaJoined]
  | case3 text texts hmore ih =>
      rw [Value.commaJoined, isWritable_append, isWritable_append, isWritable_letters, ih,
        Bool.and_true, List.all_cons]
      exact hmore

theorem Json.writeItems_map_str (names : List Text) :
    Json.writeItems (names.map .str) = names.map fun n => Json.writeText n.toList := by
  induction names with
  | nil => rfl
  | cons n ns ih =>
      rw [List.map_cons, Json.writeItems, ih]
      rfl

/-- What is sent has been written. -/
theorem Gateway.spells_of_request {g : Gateway} {path : Text} {body : Value} {q : Request}
    (hq : g.request path body = .ok q) (hbody : Json.Plain body) :
    Json.Spells (Utf8.encode q.data.toList) body := by
  have hwritable : isWritable (Json.write body) = true := by
    cases h : isWritable (Json.write body) with
    | true => rfl
    | false => rw [Gateway.request_eq_error_iff.2 (.unwritable h)] at hq; cases hq
  obtain ⟨-, rfl⟩ := Gateway.eq_of_request hq
  exact Json.spells_write hbody hwritable

/-! ## Changes -/

namespace Registry

variable {ρ υ σ : Type} {respond : ρ → Request → Reply × ρ}

theorem plain_editBody (database : Text) (names : List Text) :
    Json.Plain (Edit.body database names) :=
  ⟨⟨"list", rfl, by simp⟩, Json.plainItems_map_str names, ⟨"dbAlias", rfl, by simp⟩, trivial,
    trivial⟩

/-- A change can be written exactly if its names and its database can be. -/
theorem isWritable_editBody (database : Text) (names : List Text) :
    isWritable (Json.write (Edit.body database names)) =
      (names.all (fun n => isWritable n.toList) && isWritable database.toList) := by
  have hbody : Json.write (Edit.body database names) =
      letters "\x7b\"list\": [" ++
        (Value.commaJoined (Json.writeItems (names.map .str)) ++ letters "]" ++ letters ", " ++
          (letters "\"dbAlias\": " ++ Json.writeText database.toList) ++ letters "\x7d") := by rfl
  rw [hbody]
  simp only [isWritable_append, isWritable_letters, isWritable_commaJoined,
    Json.writeItems_map_str, Json.isWritable_writeText, List.all_map, Function.comp_def,
    Bool.true_and, Bool.and_true]

/-- A change is made with at most one request, which spells it. -/
theorem sent_apply {r : Registry (StateM (Scene ρ υ))} (hr : r.Reaches respond) (e : Edit)
    (database : Text) (names : List Text) (s : Scene ρ υ) :
    ((r.apply e database names).runIn s).2.sent = s.sent ∧
        (∃ cause, r.gateway.Unsendable (Edit.body database names) cause) ∨
      ∃ q, ((r.apply e database names).runIn s).2.sent = s.sent ++ [q] ∧
        q.url = Gateway.sentUrl (r.gateway.urlFor e.path) ∧
        Json.Spells (Utf8.encode q.data.toList) (Edit.body database names) := by
  have hrun : (r.apply e database names).runIn s = (_, _) := rfl
  obtain ⟨x, hexchanged, -⟩ := exchanged_apply hr hrun
  cases hexchanged with
  | unsent cause _ hcause hstill =>
      exact .inl ⟨hstill.sent, cause, Gateway.request_eq_error_iff.1 hcause⟩
  | sent q reply _ hq hspeaks =>
      exact .inr ⟨q, hspeaks.sent, (Gateway.eq_of_request hq).1,
        Gateway.spells_of_request hq (plain_editBody database names)⟩

/--
**The wire is transparent.**  A change whose names and database are texts without
halves of characters is sent as one request to its address, unless the token holds a
number that is too long; and whatever is sent for a change, its bytes spell the object
with the names in order and the database.  A value without numbers that are not whole,
and without whole ones that are too long, is what a call gives if it is what the service
accepts the call with, written as JSON.
-/
theorem wire_transparent :
    (∀ {ρ υ : Type} {respond : ρ → Request → Reply × ρ} {r : Registry (StateM (Scene ρ υ))},
      r.Reaches respond → ∀ (e : Edit) (database : Text) (names : List Text) (s : Scene ρ υ),
      ∃ requests, ((r.apply e database names).runIn s).2.sent = s.sent ++ requests ∧
        (∀ q ∈ requests, q.url = Gateway.sentUrl (r.gateway.urlFor e.path) ∧
          Json.Spells (Utf8.encode q.data.toList)
            (.map [(.str "list", .list (names.map .str)), (.str "dbAlias", .str database)])) ∧
        (isWritable database.toList = true → (∀ n ∈ names, isWritable n.toList = true) →
          r.gateway.token.hasLongNumber = false → ∃ q, requests = [q])) ∧
    ∀ {σ : Type} (r : Registry (StateM σ)) (call : Text × Value) (s : σ) (v : Value)
      (reason : Text), Json.Plain v → isWritable (Json.write v) = true →
      ((r.exchange call).runIn s).1 = .ok (.answered 200 reason (Utf8.encode (Json.write v))) →
      ((r.call call).runIn s).1 = .ok v := by
  constructor
  · intro ρ υ respond r hr e database names s
    rcases sent_apply hr e database names s with ⟨hsent, cause, hunsendable⟩ | ⟨q, hsent, hq⟩
    · refine ⟨[], by rw [hsent, List.append_nil], nofun, fun hdatabase hnames htoken => ?_⟩
      exfalso
      rcases hunsendable with hunwritable | ⟨-, hlong⟩
      · rw [isWritable_editBody, hdatabase, Bool.and_true] at hunwritable
        rw [List.all_eq_true.2 hnames] at hunwritable
        cases hunwritable
      · rw [htoken] at hlong
        cases hlong
    · refine ⟨[q], hsent, fun q' hq' => ?_, fun _ _ _ => ⟨q, rfl⟩⟩
      rw [List.mem_singleton.1 hq']
      exact hq
  · intro σ r call s v reason hplain hwritable hexchange
    rw [fst_runIn_call, hexchange]
    exact interpret_write hplain hwritable reason

/-- A registry whose service accepts every call without a word. -/
def assenting : Registry (StateM (Scene Unit Unit)) :=
  ⟨⟨"http://svc", .str "", .int 30⟩, Scene.send fun s _ => (.answered 200 "" [], s), Scene.note⟩

/-- Quotes, a backslash, a line break and signs outside of the plane of most characters arrive. -/
theorem wire_transparent_quotes :
    (∃ q, ((assenting.apply .install "\"main\"" ["a\\b", "\n", "模块🧩"]).runIn
          (Scene.start () ())).2.sent = [q] ∧
        Json.Spells (Utf8.encode q.data.toList) (.map [(.str "list",
          .list [.str "a\\b", .str "\n", .str "模块🧩"]), (.str "dbAlias", .str "\"main\"")])) ∧
      (((replying (.answered 200 "" (Utf8.encode (Json.write (.list [.str "\"", .int (-7)]))))).call
        databasesCall).runIn ()).1 = .ok (.list [.str "\"", .int (-7)]) := by
  obtain ⟨hsent, hanswered⟩ := wire_transparent
  constructor
  · have hreaches : assenting.Reaches fun s _ => (.answered 200 "" [], s) := ⟨rfl, rfl⟩
    obtain ⟨requests, hrequests, hspells, hone⟩ := hsent hreaches .install
      "\"main\"" ["a\\b", "\n", "模块🧩"] (Scene.start () ())
    obtain ⟨q, rfl⟩ := hone (by decide) (by decide) rfl
    exact ⟨q, hrequests, (hspells q (.head _)).2⟩
  · have hseven : (decimal 7).length ≤ Numeral.digitLimit := by decide
    have hplain : Json.Plain (.list [.str "\"", .int (-7)]) := ⟨trivial, hseven, trivial⟩
    exact hanswered _ databasesCall () _ "" hplain (by decide) rfl

end Registry

end ModuleKeeper
