import ModuleKeeper.Json.Writer
import ModuleKeeper.Task
import ModuleKeeper.Text.Utf8

/-!
# The gateway to a service

How a call becomes a request and how the reply becomes a value. Every call
posts a JSON object to an address below that of the service. The status of an
answer says whether the call is accepted. A reply that refuses the call says
why, if it can, in a field of its body.

## Main results

* `eq_of_request`: a request goes to the address of its call and has its body.
* `Reply.answered_eq_refused_iff`: which answers refuse a call.
* `Reply.ofText_of_isWritable`: a text that can be written is the body of a reply.
-/

namespace ModuleKeeper

open ModuleKeeper.Text

/-- What is sent to a service. -/
structure Request where
  url : Text
  body : Value
  headers : List (Text × Text)
  timeout : Value
  deriving Inhabited

/-- The body of a request as it is sent. -/
def Request.data (q : Request) : Text := Text.ofList (Json.write q.body)

/-- The method of every request. -/
def Request.method : Text := "POST"

/-- What comes back. -/
inductive Reply where
  /-- An answer that accepts the call, as its bytes. -/
  | accepted (body : List UInt8)
  /-- An answer that refuses the call: its status, the reason that goes with it, and its bytes. -/
  | refused (status : Int) (reason : Text) (body : List UInt8)
  /-- No answer, and why. -/
  | unreachable (reason : Text)
  /--
  No answer, because of a mishap on the way. It stands also for an answer against the rules of
  the exchange and for a refusal whose bytes break off, be it by a failure of the network; these
  causes have no names of their own among the mishaps.
  -/
  | broken (cause : Mishap)
  deriving Inhabited

/-- The reply that is an answer: a status from 200 to 299 accepts the call, any other refuses it. -/
def Reply.answered (status : Int) (reason : Text) (body : List UInt8) : Reply :=
  if 200 ≤ status ∧ status < 300 then .accepted body else .refused status reason body

theorem Reply.answered_eq_refused_iff {status status' : Int} {reason reason' : Text}
    {body body' : List UInt8} : Reply.answered status reason body = .refused status' reason' body' ↔
      ¬(200 ≤ status ∧ status < 300) ∧ status = status' ∧ reason = reason' ∧ body = body' := by
  unfold Reply.answered
  split <;> simp [*]

/-- The reply with a text, if the text can be written as bytes. -/
def Reply.ofText (status : Int) (reason : Text) (body : List CodePoint) : Reply :=
  if isWritable body then .answered status reason (Utf8.encode body) else .broken .unwritable

theorem Reply.ofText_of_isWritable {body : List CodePoint} (h : isWritable body = true)
    (status : Int) (reason : Text) :
    Reply.ofText status reason body = .answered status reason (Utf8.encode body) := by
  simp [Reply.ofText, h]

/-- A service with its address, the token that opens it and the time that it is given. -/
structure Gateway where
  address : Text
  token : Value
  timeout : Value
  deriving Inhabited

namespace Gateway

/-- The failure that goes with an address that is refused. -/
def addressFailure (setting : Text) : Url.Refusal → Failure
  | .notText => .mishap .missingAttribute
  | .notAscii => .mishap .badEncoding
  | .badHost => .mishap .badValue
  | .badScheme scheme address => .fault (.validation (.badScheme scheme setting address))

/-- The gateway to an address, if it is accepted. -/
def make (address token timeout : Value) : Except Failure Gateway :=
  match Url.check address with
  | .error refusal => .error (addressFailure addressSetting refusal)
  | .ok () => .ok ⟨address.text, token, timeout⟩

/-! ## Requests -/

/-- The version of the service's calls, which comes first in every path. -/
def version : Text := "v1"

/-- The address of a call. -/
def urlFor (g : Gateway) (path : Text) : Text := Url.join g.address [version, path]

/-- An address as it is sent: without blanks around it, and without a mark of an empty fragment. -/
def sentUrl (url : Text) : Text :=
  let cs := strip url.toList
  match cs.reverse with
  | '#' :: rest => Text.ofList rest.reverse
  | _ => Text.ofList cs

/-- The headers of every request, with the token if there is one. -/
def headers (g : Gateway) : List (Text × Text) :=
  let common : List (Text × Text) := [("Content-type", "application/json")]
  ("Accept", "application/json") ::
    (if g.token.truthy then ("Authorization", "Bearer " ++ g.token.text) :: common else common)

/-- The request of a call, if its body and its headers can be written. -/
def request (g : Gateway) (path : Text) (body : Value) : Except Mishap Request :=
  if !isWritable (Json.write body) then .error .unwritable
  else if g.token.hasLongNumber then .error .badValue
  else .ok ⟨sentUrl (g.urlFor path), body, g.headers, g.timeout⟩

theorem eq_of_request {g : Gateway} {path : Text} {body : Value} {q : Request}
    (h : g.request path body = .ok q) : q.url = sentUrl (g.urlFor path) ∧ q.body = body := by
  unfold request at h
  split at h
  · cases h
  · split at h
    · cases h
    · cases h
      exact ⟨rfl, rfl⟩

/-- The notice about a call. -/
def callNotice (g : Gateway) (path : Text) (body : Value) : Notice :=
  Notice.plain .debug .exchange ("POST " ++ g.urlFor path ++ " " ++ body.text)

/-! ## Replies -/

/-- The number of characters of an answer that a message quotes. -/
def quotedLength : Nat := 500

/--
The words of a refusal: the field `message` of an object if it counts as true, a text
that is the whole answer, and otherwise the start of the answer as it is.
-/
def explain (cs : List CodePoint) : Except Json.Fault Text :=
  let cs := strip cs
  let quoted := Text.ofList (cs.take quotedLength)
  if cs.isEmpty then .ok ""
  else
    match Json.read cs with
    | .error (.misread _) => .ok quoted
    | .error .tooManyDigits => .error .tooManyDigits
    | .ok (.str s) => .ok s
    | .ok v =>
      match v.field? "message" with
      | some words => .ok (if words.truthy then words.text else quoted)
      | none => .ok quoted

/-- The failure that goes with a text that is no JSON. -/
def jsonFailure : Json.Fault → Failure
  | .misread m => .fault (.service (.malformed m))
  | .tooManyDigits => .mishap .badValue

/-- The value of an accepted answer; a blank one is null. -/
def valueOf (cs : List CodePoint) : Except Failure Value :=
  if (strip cs).isEmpty then .ok .null else (Json.read cs).mapError jsonFailure

/-- The fault of a refusal has its words, if there are any. -/
def refusal (status : Int) (reason words : Text) : ServiceFault :=
  if words = "" then .silent status reason else .refused status words

/-- The value of a reply. -/
def interpret : Reply → Except Failure Value
  | .unreachable reason => .error (.fault (.service (.unreachable reason)))
  | .broken cause => .error (.mishap cause)
  | .accepted body =>
    match Utf8.decode body with
    | none => .error (.mishap .badEncoding)
    | some cs => valueOf cs
  | .refused status reason body =>
    match explain (Utf8.decodeLossy body) with
    | .error f => .error (jsonFailure f)
    | .ok words => .error (.fault (.service (refusal status reason words)))

end Gateway

end ModuleKeeper
