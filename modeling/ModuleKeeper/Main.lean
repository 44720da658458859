import ModuleKeeper.CommandLine.Session
import ModuleKeeper.Gateway.Wire
import Std.Async.DNS
import Std.Async.TCP
import Std.Async.Timer

/-!
# The program

Runs a session against the real terminal, the files of the user and the
network. Nothing is decided here: this module only carries out what a session
asks for.
-/

namespace ModuleKeeper.Program

open Std.Async Std.Net

/-! ## The terminal -/

/-- A text as the system takes it; a text that cannot be written has no characters. -/
def systemString (cs : List CodePoint) : String := ((Text.ofList cs).string?).getD ""

/-- Shows a text at once. -/
def put (cs : List CodePoint) : IO Unit := do
  let output ← IO.getStdout
  output.putStr (systemString cs)
  output.flush

/-- Shows a text, if it can be written as bytes. -/
def write (cs : List CodePoint) : IO (Except Mishap Unit) := do
  if Text.isWritable cs then
    put cs
    pure (.ok ())
  else pure (.error .unwritable)

/-- Asks a question until a typed line is accepted. -/
partial def ask {α : Type} (q : Question α) : IO (Except Mishap α) := do
  put (q.prompt ++ " ")
  let typed ← (← IO.getStdin).getLine
  match Text.lines (Text.unifyBreaks (Text.letters typed)) with
  | [] => pure (.error .inputEnded)
  | line :: _ =>
    match q.judge line with
    | .accepted a => pure (.ok a)
    | .broken cause => pure (.error cause)
    | .refused reason =>
      put (Verdict.refusal reason)
      ask q

/-- The terminal of the user. -/
def console : Console IO := ⟨write, ask⟩

/-! ## The surroundings -/

/-- The variables of the environment that the program knows. -/
def knownVariables : List Text :=
  [Settings.pathVariable, CommandLine.levelVariable, CommandLine.jsonVariable] ++
    Settings.Name.all.filterMap Settings.Name.variableOf

/-- The environment, as far as the program knows it. -/
def environment : IO Settings.Environment :=
  knownVariables.filterMapM fun name => do
    return (← IO.getEnv (systemString name.toList)).map fun value => (name, Text.ofString value)

/-- The table of users, with their home directories. -/
def userTable : String := "/etc/passwd"

/-- The home directories that lines of the table of users name. -/
def homesIn (lines : List String) : List (Text × Text) :=
  lines.filterMap fun line =>
    match Url.splitAt ':' (Text.letters line) with
    | user :: _ :: _ :: _ :: _ :: home :: _ => some (Text.ofList user, Text.ofList home)
    | _ => none

/-- The home directories of the users. -/
def homes : IO Settings.Path.Homes := do
  let own ← IO.getEnv "HOME"
  match ← (IO.FS.lines userTable).toBaseIO with
  | .ok lines => pure ⟨own.map Text.ofString, homesIn lines.toList⟩
  | .error _ => pure ⟨own.map Text.ofString, []⟩

/-- What a path leads to. What is there and cannot be read as a file counts as a directory. -/
def find (path : Text) : IO Settings.File := do
  let path := systemString path.toList
  let isThere := (← (IO.FS.realPath path).toBaseIO).toOption.isSome
  match ← (IO.FS.readBinFile path).toBaseIO with
  | .ok bytes => pure (.contents bytes.toList)
  | .error (.noFileOrDirectory _ _ _) => pure .missing
  | .error (.inappropriateType _ _ _) => pure (if isThere then .directory else .missing)
  | .error _ => pure (if isThere then .directory else .blocked)

/-- The present time. -/
def now : IO Log.Time := do
  let milliseconds := (← Std.Time.Timestamp.now).toMillisecondsSinceUnixEpoch.val
  let time := Log.Time.ofParts (.int (milliseconds.fdiv 1000)) (.int (milliseconds.fmod 1000))
  pure (time.toOption.getD default)

/-- Writes a notice if a setup of the log shows it. -/
def report (setup : Log.Setup) (n : Notice) : IO Unit := do
  let time ← now
  let stamp := (setup.format.map (·.stamp time)).getD (.ok [])
  match setup.line? (stamp.toOption.getD []) n with
  | some line => IO.eprintln (systemString line)
  | none => pure ()

/-! ## The network -/

/-- Everything that comes over a connection until it is closed, after what came already. -/
partial def receive (client : TCP.Socket.Client) (done : ByteArray) : Async ByteArray := do
  match ← client.recv? 65536 with
  | some bytes => receive client (done ++ bytes)
  | none => pure done

/-- A service at a host as the end of a connection. -/
def socketAddress (service : Nat) : IPAddr → SocketAddress
  | .v4 host => .v4 ⟨host, service.toUInt16⟩
  | .v6 host => .v6 ⟨host, service.toUInt16⟩

/-- Sends a request to a place and waits for the reply. -/
def exchange (p : Gateway.Wire.Place) (q : Request) : Async Reply := do
  let hosts ← DNS.getAddrInfo (systemString p.host) (toString p.service)
  match hosts[0]? with
  | none => pure (.unreachable "Name or service not known")
  | some host =>
    let client ← TCP.Socket.Client.mk
    client.connect (socketAddress p.service host)
    client.send (ByteArray.mk (Gateway.Wire.requestBytes p q).toArray)
    let bytes ← receive client ByteArray.empty
    pure ((Gateway.Wire.readReply? bytes.toList).getD (.unreachable "Remote end closed connection"))

/-- What comes of waiting for too long. -/
def expire (q : Request) : Async Reply := do
  let seconds := ((q.timeout.whole?).getD 30)
  sleep (.ofInt (1000 * seconds))
  pure (.unreachable "timed out")

/-- Sends a request over the network. -/
def send (q : Request) : IO Reply := do
  match Gateway.Wire.Place.ofUrl? q.url with
  | none => pure (.unreachable "encrypted connections are not supported")
  | some p =>
    match ← (Async.block (Async.race (exchange p q) (expire q))).toBaseIO with
    | .ok reply => pure reply
    | .error e => pure (.unreachable (toString e))

/-- Runs a session with arguments; the result is the status of the program. -/
def run (args : List Text) : IO UInt32 := do
  let environment ← environment
  let homes ← homes
  let reporter := report (CommandLine.logSetup environment)
  let ending ← CommandLine.Session.run ⟨environment, homes, find, send, console, reporter⟩ args
  IO.eprint (systemString ending.lastWords)
  pure ending.status.toUInt32

end ModuleKeeper.Program

/-- Runs the program. -/
def main (args : List String) : IO UInt32 :=
  ModuleKeeper.Program.run (args.map ModuleKeeper.Text.ofString)
