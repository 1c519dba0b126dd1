import FlashRescue.CommandLine.Order
import FlashRescue.Files.Path

/-!
# The program

The host tool on a real machine: the queries of `Host.machine` are answered by a serial device, the
terminal and the file system.  The device file is used as it is set up; it has to be in raw mode, and a
read of it must not wait (`min 0 time 0`), since it is this program that measures the time.
-/

namespace FlashRescue.Program

open Host

/-- an open serial device, and what was read from it ahead of need -/
structure Serial where
  reader : IO.FS.Handle
  writer : IO.FS.Handle
  timeoutMs : Nat
  ahead : List UInt8 := []

/-- what the system says, as an error of the host; a fault that a path has by itself is found before
the system is asked -/
def ioError : IO.Error → IoError
  | .noFileOrDirectory _ _ _ => PathError.missing.ioError
  | .inappropriateType (some _) _ _ => PathError.notFolder.ioError
  | .inappropriateType none _ _ => PathError.isFolder.ioError
  | .invalidArgument (some _) _ _ => PathError.tooLong.ioError
  | .permissionDenied _ _ _ => .ofSystem .permissionDenied "Permission denied" 13
  | e => ⟨.other, some (toString e)⟩

/-- reads on, byte by byte, until there are `n` more or the device has none -/
def fetch (s : Serial) : (n : Nat) → IO Serial
  | 0 => return s
  | n + 1 => do
    let got ← s.reader.read 1
    if got.isEmpty then return s
    else fetch { s with ahead := s.ahead ++ got.data.toList } n

/-- waits until there are `n` bytes, at most for so many milliseconds -/
def await (s : Serial) (n : Nat) : (ms : Nat) → IO Serial
  | 0 => fetch s (n - s.ahead.length)
  | ms + 1 => do
    let s ← fetch s (n - s.ahead.length)
    if s.ahead.length ≥ n then return s
    else
      IO.sleep 1
      await s n ms

def ask : (query : Link.Query) → Serial → IO (Link.Reply query × Serial)
  | .read n, s => do
    let s ← await s n s.timeoutMs
    let front := s.ahead.take n
    let s := { s with ahead := s.ahead.drop n }
    if enough : front.length = n then
      return (.ok ⟨front.toArray, by simpa using enough⟩, s)
    else return (.error .timedOut, s)
  | .write bytes, s => do
    try
      s.writer.write ⟨bytes.toArray⟩
      s.writer.flush
      return (.ok (), s)
    catch e => return (.error (.io (ioError e)), s)
  | .poll, s => do
    let s ← fetch s (1 - s.ahead.length)
    return (!s.ahead.isEmpty, s)

/-- what a link that was not opened replies -/
def unopened : (query : Link.Query) → Link.Reply query
  | .read _ => .error .closed
  | .write _ => .error .closed
  | .poll => false

def openSerial (path : String) (timeoutMs : UInt64) : IO Serial := do
  let reader ← IO.FS.Handle.mk path .read
  let writer ← IO.FS.Handle.mk path .write
  return { reader, writer, timeoutMs := timeoutMs.toNat }

def answer (device : IO.Ref (Option Serial)) : (query : Query) → IO (Reply query)
  | .link query => do
    match ← device.get with
    | none => return unopened query
    | some s =>
      let (reply, s) ← ask query s
      device.set (some s)
      return reply
  | .now => IO.monoNanosNow
  | .sleep ms => IO.sleep ms.toUInt32
  | .print text => do
    IO.print text
    (← IO.getStdout).flush
  | .openPort path _ timeoutMs => do
    try
      device.set (some (← openSerial path timeoutMs))
      return .ok ()
    catch e => return .error (ioError e).message
  | .readFile path => do
    match Path.parse path with
    | .error e => return .error e.ioError
    | .ok _ =>
      try return .ok (← IO.FS.readBinFile path)
      catch e => return .error (ioError e)

/-- shows what a command line that is not carried out asks for, or what is wrong with it -/
def explain (usage : CommandLine.Usage) : IO UInt32 := do
  match usage, usage.message? with
  | .displayVersion, _ =>
    IO.println protocolVersion
    return 0
  | .displayHelp, _ =>
    IO.print CommandLine.tool.describe
    return 0
  | _, some text =>
    IO.eprintln ("error: " ++ text)
    return 2
  | _, none =>
    IO.eprint CommandLine.tool.describe
    return 2

/-- carries an order out -/
def execute (order : Order) : IO UInt32 := do
  IO.println ("Flash rescue protocol " ++ protocolVersion)
  let color ← (← IO.getStdout).isTty
  match ← (run color order).perform (answer (← IO.mkRef none)) with
  | .ok () => return 0
  | .error (.failed e) =>
    IO.eprintln ("Error: " ++ e.message)
    return 1
  | .error _ =>
    IO.eprintln "Error: broken off"
    return 101

end FlashRescue.Program

def main (args : List String) : IO UInt32 :=
  match FlashRescue.CommandLine.order args with
  | .ok order => FlashRescue.Program.execute order
  | .error usage => FlashRescue.Program.explain usage
