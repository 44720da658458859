import ModuleKeeper.Proofs.CallEndings
import ModuleKeeper.Proofs.Json

/-!
# What a refusal says

A service that refuses a call may say why, in one of three ways: in a field of an
object, with a text that is the whole answer, or with an answer of any other kind,
of which the start is quoted.  If it says nothing, its status has to do.  This file
says which words these are for the bytes of an answer (`Says`), and follows them
through the calls of a registry: the fault of a call may have words of its own, but
those of the service stand at its end.

## Main results

* `Gateway.says_iff`: what a refusal says is what is made of it.
* `Gateway.Says.ne_empty`: a refusal says something.
* `Registry.refusal_says_why`: every call that is refused says why.
-/

namespace ModuleKeeper

open ModuleKeeper.Text ModuleKeeper.Task

namespace Gateway

variable {cs : List CodePoint} {status : Int} {reason words : Text} {body : List UInt8}

/-- What a refusal says, with `cs` for its answer without the blanks at both ends. -/
inductive Says (cs : List CodePoint) (status : Int) (reason : Text) : Text → Prop
  /-- The field of an object, if it counts as true; nothing else has fields. -/
  | field {v words : Value} (hread : Json.read cs = .ok v)
      (hfield : v.field? "message" = some words) (htrue : words.truthy = true) :
      Says cs status reason words.text
  /-- A text that is the whole answer. -/
  | text {s : Text} (hread : Json.read cs = .ok (.str s)) (hs : s ≠ "") : Says cs status reason s
  /-- The start of any other answer, whether or not it is JSON. -/
  | start (hcs : cs ≠ []) (htext : ∀ s, Json.read cs ≠ .ok (.str s))
      (hfield : ∀ v words, Json.read cs = .ok v → v.field? "message" = some words →
        words.truthy = false) :
      Says cs status reason (Text.ofList (cs.take 500))
  /-- The status and its reason, for an answer in which there is nothing. -/
  | silence (h : cs = [] ∨ Json.read cs = .ok (.str "")) :
      Says cs status reason ("HTTP 错误 " ++ Text.ofList (Value.intText status) ++ ": " ++ reason)

theorem interpret_eq_refusal_iff {c : ServiceFault} :
    interpret (.refused status reason body) = .error (.fault (.service c)) ↔
      ∃ words, explain (Utf8.decodeLossy body) = .ok words ∧ refusal status reason words = c := by
  rw [interpret]
  cases hexplain : explain (Utf8.decodeLossy body) with
  | error f =>
      obtain ⟨rfl, -⟩ := explain_eq_error_iff.1 hexplain
      constructor
      · intro h
        cases h
      · rintro ⟨words, h, -⟩
        cases h
  | ok words => simp

theorem explain_of_ne_nil (h : strip cs ≠ []) : explain cs =
    match Json.read (strip cs) with
    | .error (.misread _) => .ok (Text.ofList ((strip cs).take 500))
    | .error .tooManyDigits => .error .tooManyDigits
    | .ok (.str s) => .ok s
    | .ok v =>
      match v.field? "message" with
      | some words => .ok (if words.truthy then words.text else Text.ofList ((strip cs).take 500))
      | none => .ok (Text.ofList ((strip cs).take 500)) := by
  rw [explain, if_neg (by simpa using h)]
  rfl

theorem take_ne_empty (h : cs ≠ []) : Text.ofList (cs.take 500) ≠ "" := by
  intro hempty
  have hnil : cs.take 500 = [] := congrArg Text.toList hempty
  cases cs with
  | nil => exact h rfl
  | cons c cs => cases hnil

theorem Says.ne_empty {t : Text} (h : Says cs status reason t) : t ≠ "" := by
  cases h with
  | field _ _ htrue => exact Value.text_ne_empty_of_truthy htrue
  | text _ hs => exact hs
  | start hcs => exact take_ne_empty hcs
  | silence =>
      exact ServiceFault.message_ne_empty (f := .silent status reason) nofun nofun

theorem Says.unique {t t' : Text} (h : Says cs status reason t) (h' : Says cs status reason t') :
    t = t' := by
  have hnil : ∀ v, Json.read [] ≠ .ok v := by
    rw [Json.read_nil]
    nofun
  -- A text has no fields, so no answer speaks in two ways.
  have hstr : ∀ s, (Value.str s).field? "message" = none := fun _ => rfl
  cases h <;> cases h' <;> grind

theorem message_refusal_of_ne_empty (h : words ≠ "") :
    (refusal status reason words).message = words := by
  rw [refusal, if_neg h]
  rfl

theorem Says.of_explain (h : explain cs = .ok words) :
    Says (strip cs) status reason (refusal status reason words).message := by
  by_cases hblank : strip cs = []
  · have hempty : words = "" := by
      simpa [explain, hblank, eq_comm] using h
    rw [hempty]
    exact .silence (.inl hblank)
  have hstart := take_ne_empty hblank
  rw [explain_of_ne_nil hblank] at h
  split at h
  · rename_i hread
    cases h
    rw [message_refusal_of_ne_empty hstart]
    exact .start hblank (fun s hs => nomatch hread.symm.trans hs)
      fun v words hv => nomatch hread.symm.trans hv
  · cases h
  · rename_i hread
    cases h
    by_cases hempty : words = ""
    · rw [hempty] at hread ⊢
      exact .silence (.inr hread)
    · rw [message_refusal_of_ne_empty hempty]
      exact .text hread hempty
  · rename_i v htext hread
    have hnotext : ∀ s, Json.read (strip cs) ≠ .ok (.str s) := fun s hs =>
      htext s (Except.ok.inj (hread.symm.trans hs))
    have hquoted (hfield : ∀ w, v.field? "message" = some w → w.truthy = false) :
        Says (strip cs) status reason
          (refusal status reason (Text.ofList ((strip cs).take 500))).message := by
      rw [message_refusal_of_ne_empty hstart]
      refine .start hblank hnotext fun v' w hv' hw => hfield w ?_
      rwa [Except.ok.inj (hread.symm.trans hv')]
    split at h
    · rename_i w hw
      cases h
      cases htrue : w.truthy with
      | true =>
          rw [if_pos rfl, message_refusal_of_ne_empty (Value.text_ne_empty_of_truthy htrue)]
          exact .field hread hw htrue
      | false =>
          refine hquoted fun w' hw' => ?_
          rwa [← Option.some.inj (hw.symm.trans hw')]
    · rename_i hnone
      cases h
      exact hquoted fun w hw => nomatch hnone.symm.trans hw

/-- A refusal says what its fault says, and nothing else. -/
theorem says_iff (h : explain cs = .ok words) {t : Text} :
    Says (strip cs) status reason t ↔ t = (refusal status reason words).message :=
  ⟨fun ht => ht.unique (.of_explain h), fun ht => ht ▸ .of_explain h⟩

end Gateway

/-! ## Calls -/

namespace Registry

variable {σ α : Type} {r : Registry (StateM σ)} {s : σ} {reply : Reply} {c : ServiceFault}
  {role : Role} {database : Text}

/-- An outcome is a fault of a kind, and the words of a fault of the service stand at its end. -/
def PassesOn (kind : Kind) (c : ServiceFault) (outcome : Except Failure α) : Prop :=
  ∃ f, outcome = .error (.fault f) ∧ f.kind = kind ∧ c.message.toList <:+ f.message.toList

/-- A request for a call is sent in a state, and it gets a reply. -/
def Meets (r : Registry (StateM σ)) (call : Text × Value) (s : σ) (reply : Reply) : Prop :=
  ∃ q, r.gateway.request call.1 call.2 = .ok q ∧ ((r.send q).run s).1 = reply

theorem passesOn_readRoster (role : Role)
    (h : Gateway.interpret reply = .error (.fault (.service c))) :
    PassesOn .catalog c (readRoster role reply).2 := by
  rw [readRoster, h]
  exact ⟨.catalog (.modulesFailed c), rfl, rfl, _, rfl⟩

/-- The state of a registry after the notice about a change. -/
def noticed (r : Registry (StateM σ)) (e : Edit) (database : Text) (names : List Text) (s : σ) :
    σ :=
  ((Task.report r.reporter [e.notice database names]).runIn s).2

theorem fst_runIn_apply_of_exchange {e : Edit} {names : List Text}
    (h : ((r.exchange (e.path, Edit.body database names)).runIn
      (r.noticed e database names s)).1 = .ok reply) :
    ((r.apply e database names).runIn s).1 =
      ((Gateway.interpret reply).mapError (within e.fault)).map fun _ => () := by
  unfold noticed at h
  rw [apply, runIn_bind_of_eq_ok rfl, runIn_bind_of_eq_ok h]
  cases Gateway.interpret reply <;> rfl

theorem run_attempt_of_meets (h : Meets r (rosterCall role database) s reply) :
    ((r.attempt role database).run s).1.2 = (readRoster role reply).2 := by
  obtain ⟨q, hq, rfl⟩ := h
  unfold attempt
  simp only [hq]
  rfl

/--
**Every refusal says why.**  If a service refuses a call and a fault comes of it, the
words of the fault are not empty, and they are what the answer says: the field
`message` of an object if it counts as true, otherwise the text that the answer is,
otherwise the first 500 characters of the answer, and the status with its reason if
there are none.  The fault of a listing or of a change that is refused has these
words at its end.
-/
theorem refusal_says_why {status : Int} {reason : Text} {body : List UInt8} {c : ServiceFault}
    (hfault : Gateway.interpret (.refused status reason body) = .error (.fault (.service c))) :
    c.message ≠ "" ∧
    (∀ t, Gateway.Says (strip (Utf8.decodeLossy body)) status reason t ↔ t = c.message) ∧
    ∀ {σ : Type} (r : Registry (StateM σ)) (s : σ),
      (∀ call, ((r.exchange call).runIn s).1 = .ok (.refused status reason body) →
        ((r.call call).runIn s).1 = .error (.fault (.service c))) ∧
      (∀ role database,
        ((r.exchange (rosterCall role database)).runIn s).1 = .ok (.refused status reason body) →
        PassesOn .catalog c ((r.fetch role database).runIn s).1) ∧
      (((r.exchange databasesCall).runIn s).1 = .ok (.refused status reason body) →
        PassesOn .catalog c (r.databases.runIn s).1) ∧
      (∀ database, r.Meets (rosterCall .catalog database) s (.refused status reason body) →
        PassesOn .catalog c ((r.fetchSnapshot database).runIn s).1) ∧
      (∀ database catalog, ((r.attempt .catalog database).run s).1.2 = .ok catalog →
        r.Meets (rosterCall .installed database) ((r.attempt .catalog database).run s).2
          (.refused status reason body) →
        PassesOn .catalog c ((r.fetchSnapshot database).runIn s).1) ∧
      ∀ e database names,
        ((r.exchange (e.path, Edit.body database names)).runIn (r.noticed e database names s)).1 =
          .ok (.refused status reason body) →
        PassesOn .command c ((r.apply e database names).runIn s).1 := by
  obtain ⟨words, hexplain, rfl⟩ := Gateway.interpret_eq_refusal_iff.1 hfault
  have hmessage : Gateway.Says (strip (Utf8.decodeLossy body)) status reason
      (Gateway.refusal status reason words).message := .of_explain hexplain
  refine ⟨hmessage.ne_empty, fun t => Gateway.says_iff hexplain, fun r s =>
    ⟨fun call h => ?_, fun role database h => ?_, fun h => ?_, fun database h => ?_,
      fun database catalog hcatalog h => ?_, fun e database names h => ?_⟩⟩
  · rw [fst_runIn_call, h]
    exact hfault
  · rw [fst_runIn_fetch_of_exchange h]
    exact passesOn_readRoster role hfault
  · rw [fst_runIn_databases_of_exchange h, readDatabases, hfault]
    exact ⟨.catalog (.databasesFailed _), rfl, rfl, _, rfl⟩
  · obtain ⟨f, hf, hkind⟩ := passesOn_readRoster .catalog hfault
    rw [fst_runIn_fetchSnapshot, run_attempt_of_meets h, hf]
    exact ⟨f, rfl, hkind⟩
  · obtain ⟨f, hf, hkind⟩ := passesOn_readRoster .installed hfault
    rw [fst_runIn_fetchSnapshot, hcatalog, run_attempt_of_meets h, hf]
    exact ⟨f, rfl, hkind⟩
  · rw [fst_runIn_apply_of_exchange h, hfault]
    cases e with
    | install => exact ⟨.command (.installFailed _), rfl, rfl, _, rfl⟩
    | remove => exact ⟨.command (.removalFailed _), rfl, rfl, _, rfl⟩

/-- A refusal in words of the service. -/
def fullDisk : Reply :=
  .refused 507 "Insufficient Storage"
    (Utf8.encode (Json.write (.map [(.str "message", .str "disk full")])))

/-- A change that is refused with an object ends with the words of its field. -/
theorem refusal_says_why_fullDisk :
    ∃ c, Gateway.interpret fullDisk = .error (.fault (.service c)) ∧ c.message = "disk full" ∧
      PassesOn .command c
        (((replying fullDisk).apply .install "main" ["shop"]).runIn ()).1 := by
  have hplain : Json.Plain (.map [(.str "message", .str "disk full")]) :=
    ⟨⟨"message", rfl, by simp⟩, trivial, trivial⟩
  have hread : Json.read (strip (Utf8.decodeLossy (Utf8.encode
      (Json.write (.map [(.str "message", .str "disk full")]))))) =
        .ok (.map [(.str "message", .str "disk full")]) := by
    rw [Utf8.decodeLossy_encode (by decide), ← Json.read_write hplain]
    exact congrArg Json.read (by decide)
  have hexplain : Gateway.explain (Utf8.decodeLossy (Utf8.encode
      (Json.write (.map [(.str "message", .str "disk full")])))) = .ok "disk full" := by
    rw [Gateway.explain_of_ne_nil, hread]
    · rfl
    · intro hnil
      rw [hnil] at hread
      cases hread
  have hfault : Gateway.interpret fullDisk = .error (.fault (.service
      (Gateway.refusal 507 "Insufficient Storage" "disk full"))) :=
    Gateway.interpret_eq_refusal_iff.2 ⟨_, hexplain, rfl⟩
  obtain ⟨-, hwords, hcalls⟩ := refusal_says_why hfault
  refine ⟨_, hfault, ?_, ?_⟩
  · exact ((hwords _).1 (.field hread rfl rfl)).symm
  · obtain ⟨-, -, -, -, -, happly⟩ := hcalls (replying fullDisk) ()
    exact happly .install "main" ["shop"] rfl

end Registry

end ModuleKeeper
