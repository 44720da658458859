import ModuleKeeper.Proofs.Firsts
import ModuleKeeper.Proofs.JsonData
import ModuleKeeper.Proofs.Running
import ModuleKeeper.Proofs.Utf8
import ModuleKeeper.Registry

/-!
# How a call ends

A call gives a value, or it fails with a fault of the service.  This is what
those who make the call can deal with.  But there are also bytes that are no
text, and numbers that are too long, and for these the gateway has no rule.
This file says exactly which replies lead there (`Derails`), so that every
other reply is known to be dealt with, and which calls are not even sent
(`Unsendable`).

## Main results

* `Gateway.understood_interpret`: a reply gives data or a fault, or it derails.
* `Gateway.interpret_eq_mishap_iff`: the replies that derail a call.
* `Gateway.request_eq_error_iff`: the calls that are not sent.
* `Registry.fst_runIn_call`, `Registry.fst_runIn_fetchSnapshot`: what becomes of the replies.
* `Registry.call_endings`: how a call ends.
* `Registry.call_strayByte`: one byte is enough.
-/

namespace ModuleKeeper

open ModuleKeeper.Text ModuleKeeper.Task

/-! ## Replies -/

/-- The ways in which an exchange can go: what can be read of an acceptance is one text. -/
inductive Reply.Course : Reply → Prop
  | unreachable (reason : Text) : Course (.unreachable reason)
  | broken (cause : Mishap) : Course (.broken cause)
  | refused (status : Int) (reason : Text) (body : List UInt8) :
      Course (.refused status reason body)
  | accepted {cs : List CodePoint} (hcs : isWritable cs = true) :
      Course (.accepted (Utf8.encode cs))
  | illegible {body : List UInt8} (h : ∀ cs, isWritable cs = true → Utf8.encode cs ≠ body) :
      Course (.accepted body)

theorem Reply.course (reply : Reply) : reply.Course := by
  cases reply with
  | unreachable reason => exact .unreachable reason
  | broken cause => exact .broken cause
  | refused status reason body => exact .refused status reason body
  | accepted body =>
      by_cases htext : ∃ cs, isWritable cs = true ∧ Utf8.encode cs = body
      · obtain ⟨cs, hcs, rfl⟩ := htext
        exact .accepted hcs
      · exact .illegible fun cs hcs hbody => htext ⟨cs, hcs, hbody⟩

/-- The bytes of a reply, if it is an answer. -/
def Reply.body? : Reply → Option (List UInt8)
  | .accepted body | .refused _ _ body => some body
  | .unreachable _ | .broken _ => none

/-- What is left without blanks at both ends stands in the text. -/
theorem Text.strip_isInfix (cs : List CodePoint) : strip cs <:+: cs := by
  have hfront : (cs.dropWhile isBlank).reverse.dropWhile isBlank <:+
      (cs.dropWhile isBlank).reverse := List.dropWhile_suffix _
  have hback := List.reverse_prefix.2 hfront
  rw [List.reverse_reverse] at hback
  exact hback.isInfix.trans (List.dropWhile_suffix _).isInfix

namespace Gateway

variable {reply : Reply} {cs : List CodePoint} {body : List UInt8} {status : Int} {reason : Text}

theorem interpret_accepted (hcs : isWritable cs = true) :
    interpret (.accepted (Utf8.encode cs)) = valueOf cs := by
  simp only [interpret, Utf8.decode_encode hcs]

theorem interpret_illegible (h : ∀ cs, isWritable cs = true → Utf8.encode cs ≠ body) :
    interpret (.accepted body) = .error (.mishap .badEncoding) := by
  have hnone : Utf8.decode body = none := by
    rw [Option.eq_none_iff_forall_ne_some]
    intro cs hcs
    obtain ⟨hwritable, hbody⟩ := Utf8.decode_eq_some_iff.1 hcs
    exact h cs hwritable hbody
  simp only [interpret, hnone]

theorem status?_refusal (status : Int) (reason words : Text) :
    (refusal status reason words).status? = some status := by
  unfold refusal
  split <;> rfl

/-! ### Numbers that are too long -/

/-- A number is not blank. -/
theorem strip_ne_nil_of_read (h : Json.read cs = .error .tooManyDigits) : strip cs ≠ [] := by
  obtain ⟨digits, hin, hdigits, hlong⟩ := Json.hasLongRun_of_read h
  obtain ⟨d, hd⟩ := List.exists_mem_of_length_pos (Nat.zero_lt_of_lt hlong)
  rw [Ne, strip_eq_nil_iff]
  intro hblank
  have hnot := isBlank_of_isDigit (isDigit_of_isDigit (hdigits d hd))
  rw [hblank d (hin.subset hd)] at hnot
  cases hnot

theorem valueOf_of_strip_ne_nil (h : strip cs ≠ []) :
    valueOf cs = (Json.read cs).mapError jsonFailure := by
  rw [valueOf, if_neg (by simpa using h)]

theorem valueOf_blank (h : strip cs = []) : valueOf cs = .ok .null := by
  rw [valueOf, if_pos (by simpa using h)]

theorem valueOf_of_tooManyDigits (h : Json.read cs = .error .tooManyDigits) :
    valueOf cs = .error (.mishap .badValue) := by
  rw [valueOf_of_strip_ne_nil (strip_ne_nil_of_read h), h]
  rfl

/-- A refusal has no words only because of a number. -/
theorem explain_eq_error_iff {f : Json.Fault} : explain cs = .error f ↔
    f = .tooManyDigits ∧ Json.read (strip cs) = .error .tooManyDigits := by
  unfold explain
  dsimp only
  split
  · rename_i hempty
    rw [List.isEmpty_iff.1 hempty, Json.read_nil]
    exact iff_of_false nofun nofun
  · split
    · rename_i hread
      exact iff_of_false nofun fun h => nomatch hread.symm.trans h.2
    · rename_i hread
      exact ⟨fun h => ⟨(Except.error.inj h).symm, hread⟩, fun h => congrArg Except.error h.1.symm⟩
    · rename_i hread
      exact iff_of_false nofun fun h => nomatch hread.symm.trans h.2
    · rename_i hread
      refine iff_of_false ?_ fun h => nomatch hread.symm.trans h.2
      split <;> nofun

/-! ### What is understood -/

/-- The replies that no rule of the gateway covers, with what a call ends with then. -/
inductive Derails : Reply → Mishap → Prop
  /-- Something went wrong on the way. -/
  | broken (cause : Mishap) : Derails (.broken cause) cause
  /-- The bytes of an acceptance are those of no text. -/
  | illegible {body : List UInt8} (h : ∀ cs, isWritable cs = true → Utf8.encode cs ≠ body) :
      Derails (.accepted body) .badEncoding
  /-- A number in an acceptance is too long. -/
  | longNumber {cs : List CodePoint} (hcs : isWritable cs = true)
      (h : Json.read cs = .error .tooManyDigits) : Derails (.accepted (Utf8.encode cs)) .badValue
  /-- A number in a refusal is too long. -/
  | longNumberRefused {status : Int} {reason : Text} {body : List UInt8}
      (h : Json.read (strip (Utf8.decodeLossy body)) = .error .tooManyDigits) :
      Derails (.refused status reason body) .badValue

theorem interpret_of_derails {cause : Mishap} (h : Derails reply cause) :
    interpret reply = .error (.mishap cause) := by
  cases h with
  | broken => rfl
  | illegible h => exact interpret_illegible h
  | longNumber hcs h =>
      rw [interpret_accepted hcs]
      exact valueOf_of_tooManyDigits h
  | longNumberRefused h =>
      rw [interpret, explain_eq_error_iff.2 ⟨rfl, h⟩]
      rfl

/-- An answer derails a call by its numbers only if more digits stand in it than can be read. -/
theorem Derails.hasLongRun (h : Derails reply .badValue) (hbody : reply.body? = some body) :
    Json.HasLongRun (Utf8.decodeLossy body) := by
  cases h with
  | broken => cases hbody
  | longNumber hcs h =>
      obtain rfl := Option.some.inj hbody
      rw [Utf8.decodeLossy_encode hcs]
      exact Json.hasLongRun_of_read h
  | longNumberRefused h =>
      obtain rfl := Option.some.inj hbody
      exact (Json.hasLongRun_of_read h).of_isInfix (strip_isInfix _)

/-- A service refused with a status. -/
def RefusedWith (reply : Reply) (status : Int) : Prop :=
  ∃ reason body, reply = .refused status reason body

theorem refusedWith_refused_iff {status' : Int} :
    RefusedWith (.refused status reason body) status' ↔ status = status' := by
  constructor
  · rintro ⟨_, _, ⟨⟩⟩
    rfl
  · rintro rfl
    exact ⟨reason, body, rfl⟩

/-- An answer refuses with its own status, unless this is one from 200 to 299. -/
theorem refusedWith_answered_iff {status' : Int} :
    RefusedWith (.answered status reason body) status' ↔
      ¬(200 ≤ status ∧ status < 300) ∧ status = status' := by
  constructor
  · rintro ⟨_, _, hreply⟩
    obtain ⟨hrefuses, hstatus, -⟩ := Reply.answered_eq_refused_iff.1 hreply
    exact ⟨hrefuses, hstatus⟩
  · rintro ⟨hrefuses, rfl⟩
    exact ⟨reason, body, Reply.answered_eq_refused_iff.2 ⟨hrefuses, rfl, rfl, rfl⟩⟩

/-- A reply gives data, or a fault with the status of a refusal, or it derails the call. -/
inductive Understood (reply : Reply) : Except Failure Value → Prop
  | data {v : Value} (hv : Json.IsData v) : Understood reply (.ok v)
  | fault {c : ServiceFault}
      (hstatus : ∀ status, c.status? = some status ↔ RefusedWith reply status) :
      Understood reply (.error (.fault (.service c)))
  | derailed {cause : Mishap} (hcause : Derails reply cause) :
      Understood reply (.error (.mishap cause))

theorem understood_valueOf (hcs : isWritable cs = true) :
    Understood (.accepted (Utf8.encode cs)) (valueOf cs) := by
  by_cases hblank : strip cs = []
  · rw [valueOf_blank hblank]
    exact .data .null
  · rw [valueOf_of_strip_ne_nil hblank]
    cases hread : Json.read cs with
    | ok v => exact .data (Json.isData_of_read hread)
    | error f =>
        cases f with
        | misread m => exact .fault fun status => iff_of_false nofun fun ⟨_, _, h⟩ => nomatch h
        | tooManyDigits => exact .derailed (.longNumber hcs hread)

theorem understood_interpret (reply : Reply) : Understood reply (interpret reply) := by
  cases reply.course with
  | unreachable reason =>
      exact .fault fun status => iff_of_false nofun fun ⟨_, _, h⟩ => nomatch h
  | broken cause => exact .derailed (.broken cause)
  | refused status reason body =>
      rw [interpret]
      cases hexplain : explain (Utf8.decodeLossy body) with
      | error f =>
          obtain ⟨rfl, hread⟩ := explain_eq_error_iff.1 hexplain
          exact .derailed (.longNumberRefused hread)
      | ok words =>
          refine .fault fun status' => ?_
          rw [status?_refusal, Option.some.injEq]
          exact refusedWith_refused_iff.symm
  | accepted hcs =>
      rw [interpret_accepted hcs]
      exact understood_valueOf hcs
  | illegible hnone =>
      rw [interpret_illegible hnone]
      exact .derailed (.illegible hnone)

/-- The replies that derail a call are known. -/
theorem interpret_eq_mishap_iff {cause : Mishap} :
    interpret reply = .error (.mishap cause) ↔ Derails reply cause := by
  refine ⟨fun h => ?_, interpret_of_derails⟩
  have hunderstood := understood_interpret reply
  rw [h] at hunderstood
  cases hunderstood with
  | derailed hcause => exact hcause

theorem isData_of_interpret {v : Value} (h : interpret reply = .ok v) : Json.IsData v := by
  have hunderstood := understood_interpret reply
  rw [h] at hunderstood
  cases hunderstood with
  | data hv => exact hv

/-! ### What is sent -/

/-- The bodies that are not sent, with what a call ends with then. -/
inductive Unsendable (g : Gateway) (body : Value) : Mishap → Prop
  /-- Half of a character stands in the body. -/
  | unwritable (h : isWritable (Json.write body) = false) : Unsendable g body .unwritable
  /-- The token is no text, and a number in it is too long to be written. -/
  | longToken (hbody : isWritable (Json.write body) = true) (h : g.token.hasLongNumber = true) :
      Unsendable g body .badValue

theorem request_eq_error_iff {g : Gateway} {path : Text} {content : Value} {cause : Mishap} :
    g.request path content = .error cause ↔ Unsendable g content cause := by
  constructor
  · intro h
    unfold request at h
    split at h
    · rename_i hbody
      cases h
      exact .unwritable (by simpa using hbody)
    · rename_i hbody
      split at h
      · rename_i htoken
        cases h
        exact .longToken (by simpa using hbody) htoken
      · cases h
  · rintro (hbody | ⟨hbody, htoken⟩)
    · simp [request, hbody]
    · simp [request, hbody, htoken]

end Gateway

/-! ## Calls -/

namespace Registry

open Gateway

variable {σ : Type} {r : Registry (StateM σ)} {s : σ}

/-- An exchange fails only before it, with a request that cannot be made. -/
theorem fst_runIn_exchange_eq_error_iff {call : Text × Value} {failure : Failure} :
    ((r.exchange call).runIn s).1 = .error failure ↔
      ∃ cause, failure = .mishap cause ∧ r.gateway.Unsendable call.2 cause := by
  have hrequest : ∀ cause, r.gateway.Unsendable call.2 cause ↔
      r.gateway.request call.1 call.2 = .error cause := fun _ => request_eq_error_iff.symm
  simp only [hrequest]
  unfold exchange
  rw [runIn_bind, runIn_ofExcept]
  cases r.gateway.request call.1 call.2 with
  | error cause =>
      constructor
      · rintro ⟨⟩
        exact ⟨cause, rfl, rfl⟩
      · rintro ⟨_, rfl, ⟨⟩⟩
        rfl
  | ok q => exact iff_of_false nofun nofun

theorem fst_runIn_call (call : Text × Value) :
    ((r.call call).runIn s).1 = ((r.exchange call).runIn s).1.bind interpret := by
  unfold Registry.call
  rw [runIn_bind]
  rcases (r.exchange call).runIn s with ⟨failure | reply, s₁⟩
  · rfl
  · show (interpret reply).mapError id = interpret reply
    cases interpret reply <;> rfl

/-- A call that gives a value has a reply that is understood as this value. -/
theorem exists_reply_of_call {call : Text × Value} {answer : Value} {s₁ : σ}
    (h : (r.call call).runIn s = (.ok answer, s₁)) :
    ∃ reply, ((r.exchange call).runIn s).1 = .ok reply ∧ interpret reply = .ok answer := by
  obtain ⟨reply, s₂, hexchange, hinterpret⟩ := runIn_bind_eq_ok.1 h
  refine ⟨reply, by rw [hexchange], ?_⟩
  exact mapError_eq_ok_iff.1 (congrArg Prod.fst hinterpret)

/-! ### What is made of a reply -/

variable {reply : Reply}

theorem fst_runIn_fetch_of_exchange {role : Role} {database : Text}
    (h : ((r.exchange (rosterCall role database)).runIn s).1 = .ok reply) :
    ((r.fetch role database).runIn s).1 = (readRoster role reply).2 := by
  rw [fetch, runIn_bind_of_eq_ok h, runIn_bind]
  show (readRoster role reply).2.mapError id = _
  cases (readRoster role reply).2 <;> rfl

theorem fst_runIn_databases_of_exchange (h : ((r.exchange databasesCall).runIn s).1 = .ok reply) :
    (r.databases.runIn s).1 = readDatabases reply := by
  rw [databases, runIn_bind_of_eq_ok h]
  show (readDatabases reply).mapError id = _
  cases readDatabases reply <;> rfl

/-- Both rosters are asked for, and a failure of the catalog comes first. -/
theorem fst_runIn_fetchSnapshot (r : Registry (StateM σ)) (database : Text) (s : σ) :
    ((r.fetchSnapshot database).runIn s).1 =
      ((r.attempt .catalog database).run s).1.2.bind fun catalog =>
        ((r.attempt .installed database).run
          ((r.attempt .catalog database).run s).2).1.2.map (catalog, ·) := by
  unfold fetchSnapshot
  rcases hfirst : (r.attempt .catalog database).run s with ⟨⟨n₁, catalog⟩, s₁⟩
  rcases hsecond : (r.attempt .installed database).run s₁ with ⟨⟨n₂, installed⟩, s₂⟩
  rw [runIn_bind, runIn_act, hfirst]
  dsimp only
  rw [runIn_bind, runIn_act, hsecond]
  cases catalog with
  | error f => rfl
  | ok catalog => cases installed <;> rfl

/--
**How a call ends.**  A call that is sent gives data or a fault of the service, unless
its reply derails it: with bytes that are no text, or with a whole number of more than
4300 digits.  Then, and only then, the call ends with a mishap.  A fault has a status
exactly if the service refused, and then it is the status of the refusal; an answer
refuses exactly if its status is none from 200 to 299.  An acceptance without anything
but blanks is null.

A call that is not sent ends with a mishap, and its body or the token says which.
-/
theorem call_endings (r : Registry (StateM σ)) (call : Text × Value) (s : σ) :
    (∀ failure, ((r.exchange call).runIn s).1 = .error failure →
      ((r.call call).runIn s).1 = .error failure ∧
        ∃ cause, failure = .mishap cause ∧ r.gateway.Unsendable call.2 cause) ∧
    ∀ reply, ((r.exchange call).runIn s).1 = .ok reply →
      (((∃ v, ((r.call call).runIn s).1 = .ok v ∧ Json.IsData v) ∨
          ∃ c, ((r.call call).runIn s).1 = .error (.fault (.service c))) ↔
        ¬∃ cause, Derails reply cause) ∧
      (∀ cause, ((r.call call).runIn s).1 = .error (.mishap cause) ↔ Derails reply cause) ∧
      (∀ c, ((r.call call).runIn s).1 = .error (.fault (.service c)) →
        ∀ status, c.status? = some status ↔ RefusedWith reply status) ∧
      (∀ status reason body, reply = .answered status reason body → ∀ status',
        RefusedWith reply status' ↔ ¬(200 ≤ status ∧ status < 300) ∧ status = status') ∧
      (∀ cs, isWritable cs = true → strip cs = [] → reply = .accepted (Utf8.encode cs) →
        ((r.call call).runIn s).1 = .ok .null) ∧
      ∀ body, reply.body? = some body → Derails reply .badValue →
        Json.HasLongRun (Utf8.decodeLossy body) := by
  refine ⟨fun failure hfailed => ⟨?_, fst_runIn_exchange_eq_error_iff.1 hfailed⟩,
    fun reply hreply => ?_⟩
  · rw [fst_runIn_call, hfailed]
    rfl
  have hcall : ((r.call call).runIn s).1 = interpret reply := by
    rw [fst_runIn_call, hreply]
    rfl
  rw [hcall]
  refine ⟨?_, fun cause => interpret_eq_mishap_iff, fun c hc => ?_, ?_, ?_, ?_⟩
  · have hunderstood := understood_interpret reply
    simp only [← interpret_eq_mishap_iff]
    generalize interpret reply = outcome at hunderstood
    cases hunderstood with
    | data hv => exact iff_of_true (.inl ⟨_, rfl, hv⟩) nofun
    | fault => exact iff_of_true (.inr ⟨_, rfl⟩) nofun
    | derailed => exact iff_of_false (by simp) fun h => h ⟨_, rfl⟩
  · have hunderstood := understood_interpret reply
    rw [hc] at hunderstood
    cases hunderstood with
    | fault hstatus => exact hstatus
  · rintro status reason body rfl status'
    exact refusedWith_answered_iff
  · rintro cs hcs hblank rfl
    rw [interpret_accepted hcs, valueOf_blank hblank]
  · exact fun body hbody hderails => hderails.hasLongRun hbody

/-- A registry whose service gives one reply to every call. -/
def replying (reply : Reply) : Registry (StateM Unit) :=
  ⟨⟨"http://svc", .str "", .int 30⟩, fun _ => pure reply, fun _ => pure ()⟩

/-- One byte that is no text, and the call for the databases neither gives data nor a fault. -/
theorem call_strayByte :
    ¬((∃ v, (((replying (.answered 200 "" [0xff])).call databasesCall).runIn ()).1 = .ok v) ∨
        ∃ c, (((replying (.answered 200 "" [0xff])).call databasesCall).runIn ()).1 =
          .error (.fault (.service c))) ∧
      (((replying (.answered 200 "" [0xff])).call databasesCall).runIn ()).1 =
        .error (.mishap .badEncoding) := by
  have hrun : (((replying (.answered 200 "" [0xff])).call databasesCall).runIn ()).1 =
      .error (.mishap .badEncoding) := by rfl
  rw [hrun]
  exact ⟨by simp, rfl⟩

end Registry

end ModuleKeeper
