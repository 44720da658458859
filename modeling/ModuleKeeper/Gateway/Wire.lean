import ModuleKeeper.Decimal.Reading
import ModuleKeeper.Gateway
import ModuleKeeper.Text.Line

/-!
# Requests and replies on the wire

A request as the bytes that are sent over a connection, and the bytes that
come back as a reply. The connection carries one request and is closed behind
the reply. The body of a reply has a stated length, comes in chunks, or ends
with the connection.
-/

namespace ModuleKeeper.Gateway.Wire

open ModuleKeeper.Text

/-! ## Places -/

/-- Where a request goes. -/
structure Place where
  /-- The host and the service, as the request names them. -/
  authority : List CodePoint
  host : List CodePoint
  /-- The number of the service at the host. -/
  service : Nat
  path : List CodePoint
  deriving DecidableEq

/-- The number of a service whose address gives none. -/
def usualService : Nat := 80

/-- The host and the text of the service; a host that is a number may stand in brackets. -/
def splitService : List CodePoint → List CodePoint × List CodePoint
  | '[' :: cs => (cs.takeWhile (· != .char ']'), (cs.dropWhile (· != .char ']')).drop 2)
  | cs => (cs.takeWhile (· != .char ':'), (cs.dropWhile (· != .char ':')).drop 1)

/-- The service that a text names. -/
def serviceOf (cs : List CodePoint) : Nat := ((Numeral.readInt? cs).map Int.toNat).getD usualService

/-- The path of a request, which is never empty and has no fragment. -/
def pathOf (cs : List CodePoint) : List CodePoint :=
  match cs.takeWhile (· != .char '#') with
  | '/' :: rest => '/' :: rest
  | cs => '/' :: cs

/-- Where a request to an address goes, if the address can be reached without encryption. -/
def Place.ofUrl? (url : Text) : Option Place :=
  let (scheme, rest) := Url.splitScheme (Url.cleaned url.toList)
  if scheme = "http" then
    (Url.host? rest).map fun authority =>
      let named := Url.withoutUser authority
      let (host, service) := splitService named
      ⟨named, host, serviceOf service, pathOf (rest.drop (authority.length + 2))⟩
  else none

/-! ## Requests -/

/-- A line of a head. -/
def line (cs : List CodePoint) : List CodePoint := cs ++ "\r\n"

/-- The head of a request. -/
def requestHead (p : Place) (q : Request) (size : Nat) : List CodePoint :=
  line (Request.method.toList ++ " " ++ p.path ++ " HTTP/1.1") ++
    line ("Host: " ++ p.authority) ++
    line ("Content-Length: " ++ decimal size) ++
    (q.headers.flatMap fun h => line (h.1.toList ++ ": " ++ h.2.toList)) ++
    line "Connection: close" ++ line []

/-- A request as it is sent. -/
def requestBytes (p : Place) (q : Request) : List UInt8 :=
  let data := Utf8.encode q.data.toList
  Utf8.encode (requestHead p q data.length) ++ data

/-! ## Replies -/

/-- The head of a reply, `done` last byte first, and the body. There is none without an end. -/
def splitHeadFrom? (done : List UInt8) : List UInt8 → Option (List UInt8 × List UInt8)
  | [] => none
  | 13 :: 10 :: 13 :: 10 :: body => some (done.reverse, body)
  | b :: bs => splitHeadFrom? (b :: done) bs

/-- The head of a reply and its body. -/
def splitHead? (bs : List UInt8) : Option (List UInt8 × List UInt8) := splitHeadFrom? [] bs

/-- Bytes as characters of the same numbers. -/
def characters (bs : List UInt8) : List CodePoint := bs.map fun b => CodePoint.ofNat b.toNat

/-- The number that hexadecimal digits at the start of a line stand for. -/
def sizeOf (cs : List CodePoint) : Nat :=
  Numeral.valueOf 16 0 ((cs.takeWhile fun c => (Json.hexValue? c).isSome).filterMap Json.hexValue?)

/-- The bytes of a body that comes in chunks, each behind its size. -/
def chunks (bs : List UInt8) : List UInt8 :=
  let size := sizeOf (characters (bs.takeWhile (· != 10)))
  let rest := (bs.dropWhile (· != 10)).drop 1
  if size = 0 ∨ bs = [] then []
  else rest.take size ++ chunks (rest.drop (size + 2))
termination_by bs.length
decreasing_by
  rename_i h
  have hb : 0 < bs.length := List.length_pos_iff.2 fun e => h (.inr e)
  have hd := (List.dropWhile_sublist (fun b : UInt8 => b != 10) (l := bs)).length_le
  simp only [List.length_drop]
  omega

/-- A field of a head, if the line holds one. -/
def field? (cs : List CodePoint) : Option (List CodePoint × List CodePoint) :=
  match cs.dropWhile (· != .char ':') with
  | [] => none
  | _ :: value => some ((strip (cs.takeWhile (· != .char ':'))).map CodePoint.toLower, strip value)

/-- The value of a field of a head. -/
def value? (fields : List (List CodePoint × List CodePoint)) (name : Text) :
    Option (List CodePoint) :=
  (fields.find? (·.1 = name.toList)).map (·.2)

/-- The body of a reply with the given fields. -/
def bodyOf (fields : List (List CodePoint × List CodePoint)) (bs : List UInt8) : List UInt8 :=
  if (value? fields "transfer-encoding").map (·.map CodePoint.toLower) = some "chunked" then
    chunks bs
  else
    match (value? fields "content-length").bind Numeral.readInt? with
    | some n => bs.take n.toNat
    | none => bs

/-- The status and the reason that the first line of a reply tells. -/
def statusOf? (cs : List CodePoint) : Option (Int × Text) :=
  let rest := stripLeft (cs.dropWhile (· != .char ' '))
  (Numeral.readInt? (rest.takeWhile (· != .char ' '))).map fun status =>
    (status, Text.ofList (strip (rest.dropWhile (· != .char ' '))))

/-- The reply that bytes hold, if they hold a whole head. -/
def readReply? (bs : List UInt8) : Option Reply :=
  (splitHead? bs).bind fun (head, body) =>
    let rows := lines (unifyBreaks (characters head))
    (statusOf? (rows.headD [])).map fun (status, reason) =>
      .answered status reason (bodyOf (rows.tail.filterMap field?) body)

end ModuleKeeper.Gateway.Wire
