import ChatRelay.CommandLine
import ChatRelay.Http.Framing
import Std.Async.DNS
import Std.Async.Signal
import Std.Async.TCP
import Std.Async.Timer

/-!
The program on a real system: files, plain connections, clocks and the signal that asks it to stop. An
address that is not reached over a plain connection is reported as a failure of the connection.
-/

namespace ChatRelay.Main

open Std.Async (Async AsyncTask)

/-! ### Files -/

/-- The fault that the system's error number stands for. -/
def faultOf (code : UInt32) (text : String) : DiskFault :=
  match code with
  | 2 => .notFound
  | 17 => .alreadyExists
  | 20 => .notADirectory
  | 21 => .isADirectory
  | 36 => .nameTooLong
  | _ => .other text

def fault (e : IO.Error) : DiskFault :=
  match e with
  | .noFileOrDirectory _ code _ | .inappropriateType _ code _ | .alreadyExists _ code _
  | .invalidArgument _ code _ | .resourceExhausted _ code _ | .otherError code _ =>
      faultOf code (toString e)
  | _ => .other (toString e)

def attempt {α : Type} (act : IO α) : IO (Except DiskFault α) := do
  match ← act.toBaseIO with
  | .ok a => return .ok a
  | .error e => return .error (fault e)

def succeeds {α : Type} (act : IO α) : IO Bool := do
  match ← act.toBaseIO with
  | .ok _ => return true
  | .error _ => return false

/-- The files of the system. A path that is followed by one more dot only fits a directory. -/
def disk : Disk IO where
  isPresent path := succeeds (IO.FS.realPath ⟨path.text⟩)
  isDirectory path := succeeds (IO.FS.realPath ⟨path.text ++ "/."⟩)
  read path := attempt (IO.FS.readBinFile ⟨path.text⟩)
  makeDirectory path := attempt (IO.FS.createDir ⟨path.text⟩)
  makeFile path := attempt (IO.FS.writeBinFile ⟨path.text⟩ ByteArray.empty)
  append path bytes := attempt do
    let handle ← IO.FS.Handle.mk ⟨path.text⟩ .append
    handle.write bytes
  sync path := attempt do
    let handle ← IO.FS.Handle.mk ⟨path.text⟩ .append
    handle.flush
  rename source target := attempt (IO.FS.rename ⟨source.text⟩ ⟨target.text⟩)
  removeFile path := attempt (IO.FS.removeFile ⟨path.text⟩)

/-! ### Connections -/

/-- The bytes to take from a connection at a time. -/
def receiveBytes : UInt64 := 65536

/-- Take bytes from a connection until they make up a response or the connection ends. -/
partial def receive (socket : Std.Async.TCP.Socket.Client) (arrived : List UInt8) :
    Async (Option Http.Response) := do
  match ← socket.recv? receiveBytes with
  | none => return Http.Framing.response? true arrived
  | some bytes =>
      let arrived := arrived ++ bytes.toList
      match Http.Framing.response? false arrived with
      | some response => return some response
      | none => receive socket arrived

/-- The address of a host on the network. -/
def socketAddress (ip : Std.Net.IPAddr) (port : Nat) : Std.Net.SocketAddress :=
  match ip with
  | .v4 ip => .v4 ⟨ip, port.toUInt16⟩
  | .v6 ip => .v6 ⟨ip, port.toUInt16⟩

/-- Connect, send a request and wait for the response. -/
def converse (address : Http.Address) (request : Http.Request) : Async Http.Exchange := do
  let ips ← Std.Async.DNS.getAddrInfo address.host ""
  match ips[0]? with
  | none => return .failed "the host is not known"
  | some ip =>
      let socket ← Std.Async.TCP.Socket.Client.mk
      socket.connect (socketAddress ip address.port)
      socket.send (Http.Framing.requestBytes address request)
      match ← receive socket [] with
      | some response => return .answered response
      | none => return .failed "the connection was closed before the response was complete"

/-- The outcome when the time is up. -/
def giveUp (timeout : Nat) : Async Http.Exchange := do
  Std.Async.sleep (.ofNat timeout)
  return .timedOut "the operation timed out"

instance : Inhabited Http.Exchange := ⟨.failed ""⟩

def exchange (request : Http.Request) : IO Http.Exchange := do
  match Http.Address.ofUrl? request.url with
  | none => return .failed "the address cannot be reached over a plain connection"
  | some address =>
      let first := Async.race (converse address request) (giveUp request.timeout)
      match ← first.block.toBaseIO with
      | .ok exchange => return exchange
      | .error e => return .failed (toString e)

/-- Milliseconds since the start of 1970. -/
def wallClock : IO Int := do
  let now ← Std.Time.Timestamp.now
  return now.toMillisecondsSinceUnixEpoch.val

/-! ### Waiting -/

/-- The longest wait in one piece, in milliseconds. -/
def longestWait : Nat := 100

/-- Wait for some milliseconds, or until the condition holds. -/
partial def waitUnless (stopped : IO Bool) (left : Nat) : IO Unit := do
  if left = 0 then return
  if ← stopped then return
  let piece := min left longestWait
  IO.sleep piece.toUInt32
  waitUnless stopped (left - piece)

def transport : Http.Transport IO where
  exchange := exchange
  sleep := waitUnless (pure false)
  now := wallClock

/-! ### The program -/

/-- The variables of the process that count. -/
def environment : IO Variables :=
  Variables.names.filterMapM fun name => do
    let value ← IO.getEnv name
    return value.map fun value => (name, value)

/-- More cycles than a process can run. -/
def fuel : Nat := 4611686018427387904

def system (interrupt : AsyncTask Int) : CommandLine.System IO :=
  let stopped : IO Bool := IO.hasFinished interrupt
  { environment := environment
    disk := disk
    transport := transport
    isCancelled := stopped
    pause := waitUnless stopped
    clock := IO.monoMsNow }

end ChatRelay.Main

def main : IO UInt32 := do
  let waiter ← Std.Async.Signal.Waiter.mk .sigint false
  let outcome ← ChatRelay.CommandLine.run (ChatRelay.Main.system (← waiter.wait)) ChatRelay.Main.fuel
  if let some line := outcome.line then
    IO.println line
  if let some failure := outcome.failure then
    IO.eprint failure
  return outcome.exitCode.toUInt32
