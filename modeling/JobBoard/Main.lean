import JobBoard.Board.Session
import JobBoard.CommandLine.Run
import JobBoard.Screen.Columns
import JobBoard.Service.Wire
import JobBoard.Terminal.Output
import JobBoard.Theme.Palette
import JobBoard.View.Picture
import Std.Async.DNS
import Std.Async.TCP

/-!
The program: it reads the environment and the settings file, asks the service over plain connections, and shows the
board on the terminal, which is expected to hand over every key at once.
-/

open JobBoard

namespace JobBoard.Program

def environmentKeys : List String :=
  ["HOME", "XDG_CONFIG_HOME", Environment.configPathKey, Options.logFileKey, Client.baseKey, Credentials.tokenKey,
    Credentials.apiKeyKey, Theme.nameKey, "COLORTERM", "TERM"]

def readEnvironment : IO Environment :=
  environmentKeys.filterMapM fun key => do return (← IO.getEnv key).map fun value => (key, value)

def readFile (path : String) : IO Settings.FileContent := do
  try
    let bytes ← IO.FS.readBinFile path
    return .bytes (bytes.toList.map UInt8.toNat)
  catch
    | .noFileOrDirectory .. => return .missing
    | _ => return .directory

def bytesOf (bs : List Nat) : ByteArray := ⟨(bs.map Nat.toUInt8).toArray⟩

open Std.Async in
partial def readAll (socket : TCP.Socket.Client) (acc : ByteArray) : Async ByteArray := do
  match ← socket.recv? 65536 with
  | some bytes => readAll socket (acc ++ bytes)
  | none => return acc

open Std.Async in
def exchange (address : Std.Net.IPAddr) (port : UInt16) (text : String) : Async ByteArray := do
  let socket ← TCP.Socket.Client.mk
  let endpoint : Std.Net.SocketAddress := match address with
    | .v4 addr => .v4 { addr, port }
    | .v6 addr => .v6 { addr, port }
  socket.connect endpoint
  socket.send text.toUTF8
  readAll socket .empty

open Std.Async in
/-- The answer to a request; none if the service cannot be reached over a plain connection. -/
def ask (r : Request) : IO (Option Answer) := do
  let a := r.address
  match a.host with
  | none => return none
  | some host =>
    if a.scheme != "http" then return none
    let name := String.ofList (host.text.toList.filter fun c => c != '[' && c != ']')
    let port := ((a.port.or (Address.defaultPort? a.scheme)).getD 80).toUInt16
    try
      let addresses ← (DNS.getAddrInfo name "").block
      match addresses[0]? with
      | none => return none
      | some address =>
        let bytes ← (exchange address port (Wire.requestText r)).block
        return Wire.answer? (bytes.toList.map UInt8.toNat)
    catch _ => return none

def printOutcome (o : CommandLine.Outcome) : IO UInt32 := do
  IO.print o.output
  IO.eprint o.errors
  return o.exitCode.toUInt32

def perform (client : Client) (s : Session) (fetch : Fetch) : IO Session := do
  let answer ← match fetch.request client with
    | .ok r => ask r
    | .error _ => pure none
  return s.settle (s.board.learn (fetch.run (Source.ofService client fun _ => answer)))

def presentTime : IO Instant := do
  let t ← Std.Time.Timestamp.now
  return { second := t.toSecondsSinceUnixEpoch.val, nano := 0 }

partial def await (reading : Task (Except IO.Error ByteArray)) (s : Session) : IO (Session × Option ByteArray) := do
  if ← IO.hasFinished reading then
    match reading.get with
    | Except.ok bytes => return (s, some bytes)
    | Except.error _ => return (s, some .empty)
  IO.sleep 16
  let elapsed := (← IO.monoMsNow) - s.now
  let armed := s.board.timer.isArmed
  let s := s.pause elapsed
  if armed && !s.board.timer.isArmed then return (s, none) else await reading s

partial def interact (client : Client) (theme : Theme) (size : Area)
    (reading : Option (Task (Except IO.Error ByteArray))) (s : Session) : IO Session := do
  if s.closed then return s
  let output ← IO.getStdout
  let picture := (s.board.layOut size).picture theme (← presentTime) size.width size.height
  output.putStr (Terminal.picture picture)
  output.flush
  let s := s.step (.draw size)
  match s.waiting with
  | fetch :: waiting => interact client theme size reading (← perform client { s with waiting } fetch)
  | [] =>
    let reading ← match reading with
      | some reading => pure reading
      | none => do
        let input ← IO.getStdin
        IO.asTask (input.read 1024)
    match ← await reading s with
    | (s, none) => interact client theme size (some reading) s
    | (s, some bytes) =>
      if bytes.isEmpty then return s
      let text := Wire.textOf (bytes.toList.map UInt8.toNat)
      interact client theme size none ((Input.ofText text).foldl Session.take s)

def sizeFrom (key : String) (usual : Nat) : IO Nat := do
  return (((← IO.getEnv key).bind String.toNat?).filter (0 < ·)).getD usual

def showBoard (env : Environment) (settings : Settings) (client : Client) (f : Filter) : IO UInt32 := do
  let size : Area := { width := ← sizeFrom "COLUMNS" 80, height := ← sizeFrom "LINES" 24 }
  IO.print Terminal.enter
  let s ← interact client (Theme.ofEnvironment env) size none (.start (.start settings f) (← IO.monoMsNow))
  IO.print Terminal.leave
  IO.print s.farewell
  return 0

def run (words : List String) : IO UInt32 := do
  let env ← readEnvironment
  match CommandLine.plan env (← readFile env.configPath) words with
  | .done o => printOutcome o
  | .command c settings r =>
    match ← ask r with
    | some a => printOutcome (CommandLine.finish c settings r a)
    | none => printOutcome (CommandLine.unanswered c r)
  | .board settings client f => showBoard env settings client f

end JobBoard.Program

def main (words : List String) : IO UInt32 := JobBoard.Program.run words
