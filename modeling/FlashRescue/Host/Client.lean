import FlashRescue.Checksum
import FlashRescue.Host.Services
import FlashRescue.Timing

/-!
# The host's side of the protocol

A client takes over a board that says HELLO and then checksums and writes its flash block by block.

* `Client.attach`          waits for HELLO and answers it;
* `Client.requestNacks`, `Client.checksum`  commands that may be sent again when no answer comes;
* `Client.write`           streams a block to the board, chunk by chunk, each acknowledged;
* `Client.writeVerified`   the same, and then compares the checksum;
* `Client.sync`            the same, unless the board has the content already;
* `Client.reset`, `Client.exit`  commands without an answer.
-/

namespace FlashRescue.Host

/-- how a client deals with its board -/
structure Client where
  /-- how often a command without an answer is sent again -/
  retries : UInt32 := 3
  /-- bytes in a chunk of a WRITE, as the board expects them -/
  chunkSize : UInt64 := Timing.chunkSize
  /-- whether the board was asked for NACKs -/
  nacks : Bool := false
  /-- rounds that a waiting loop may take -/
  rounds : Nat := 0x4000000000000000
  deriving DecidableEq, Repr

/-- what became of a block that was to have a content -/
inductive Sync where
  /-- it had it already -/
  | unchanged
  | written
  deriving DecidableEq, Repr

namespace Client

/-! ## Replies -/

/-- takes a response to `op`, which has to be an ACK -/
def awaitAck (op : Opcode) (block : UInt16) : Talk Unit := do
  let response ← demand Link.readResponse
  if response.isAck then return
  else if response.isNack then throw (.nack op block)
  else throw (.noAck op)

/-- reads until nothing is queued, and throws it away, late replies included -/
def discardFor : (rounds : Nat) → Talk Unit
  | 0 => .stop .unfinished
  | rounds + 1 => do
    if ← Link.poll then
      match ← (Link.read 1 : Talk _) with
      | .ok _ => discardFor rounds
      | .error e => throw (.link e)
    else return

def discard (c : Client) : Talk Unit := discardFor c.rounds

/-- makes a request of which nothing is left over when it fails, again if no answer comes -/
def insist {α : Type} (c : Client) (request : Talk α) : (again : Nat) → Talk α
  | 0 => do
    c.discard
    request
  | again + 1 => do
    c.discard
    match ← request.trial with
    | .ok value => return value
    | .error e => if e.isTimeout then c.insist request again else throw e

/-! ## Taking over -/

def helloBytes : List UInt8 := (Command.of .hello 0).encode

def before {α : Type} (deadline : Nat) (wait : UInt64) (next : Talk α) : Talk α := do
  if (← now) ≥ deadline then throw (.noHello wait)
  else next

/-- reads byte by byte until the last three are a HELLO: the host may attach in the middle of a packet.
The clock is read after each byte that does not complete one, and after each timeout -/
def scanFor (deadline : Nat) (wait : UInt64) : (rounds : Nat) → (window : List UInt8) → Talk Unit
  | 0, _ => .stop .unfinished
  | rounds + 1, window => do
    match ← (Link.read 1 : Talk _) with
    | .ok byte =>
      let window := window.drop 1 ++ byte.toList
      if window = helloBytes then return
      else before deadline wait (scanFor deadline wait rounds window)
    | .error e =>
      if e.isTimeout then before deadline wait (scanFor deadline wait rounds window)
      else throw (.link e)

/-- the pause after the ACK of a HELLO, in which the device still repeats it -/
def attachPauseMs : UInt64 := Timing.helloRetryMs + 100

/-- waits for HELLO, answers it and throws away the ones that were still on their way -/
def attach (c : Client) (wait : UInt64) : Talk Unit := do
  let start ← now
  scanFor (start + wait.toNat * Timing.nsPerMs.toNat) wait c.rounds (List.replicate 3 0)
  demand (Link.sendResponse .ack)
  .ask (.sleep attachPauseMs) fun _ => c.discard

/-! ## Commands -/

def requestNacks (c : Client) : Talk Client := do
  c.insist (do
    demand (Link.sendCommand (.of .nackMode 0))
    awaitAck .nackMode 0) c.retries.toNat
  return { c with nacks := true }

/-- asks for the checksum of a block, once -/
def checksumOnce (block : UInt16) : Talk UInt32 := do
  demand (Link.sendCommand (.of .checksum block))
  awaitAck .checksum block
  demand Link.readChecksum

def checksum (c : Client) (block : UInt16) : Talk UInt32 :=
  c.insist (checksumOnce block) c.retries.toNat

/-- cuts bytes into chunks; the last may be shorter -/
def chunks (length : Nat) (data : List UInt8) : List (List UInt8) :=
  (List.range ((data.length + (length - 1)) / length)).map fun i =>
    (data.drop (i * length)).take length

/-- sends a chunk and waits until it is acknowledged -/
def sendChunk (block : UInt16) (chunk : List UInt8) : Talk Unit := do
  demand (Link.write chunk)
  awaitAck .write block

/-- streams a block to the board.  Nothing is sent twice: the board would take a second command for
data -/
def write (c : Client) (block : UInt16) (data : List UInt8) : Talk Unit := do
  if data.length ≠ blockSize then
    throw (.invalidImage
      ("block is " ++ toString data.length ++ " bytes, expected " ++ toString blockSize))
  else
    c.discard
    demand (Link.sendCommand (.of .write block))
    awaitAck .write block
    if c.chunkSize = 0 then .stop (.broken .emptyChunk)
    else (chunks c.chunkSize.toNat data).forM (sendChunk block)

/-- the checksum of a block that was just written.  Nothing is thrown away before it is asked for: the
NACK of a WRITE that failed comes ahead of the reply -/
def readBack (c : Client) (block : UInt16) : Talk UInt32 := do
  match ← (checksumOnce block).trial with
  | .ok crc => return crc
  | .error e =>
    match e, c.nacks with
    | .nack _ _, true => throw (.nack .write block)
    | e, _ => if e.isTimeout then c.checksum block else throw e

/-- streams a block to the board and makes sure that it arrived in the flash -/
def writeVerified (c : Client) (block : UInt16) (data : List UInt8) : Talk Unit := do
  c.write block data
  let expected := FlashRescue.checksum data
  let actual ← c.readBack block
  if actual = expected then return
  else throw (.checksumMismatch block expected actual)

/-- writes a block if its content on the board is another one -/
def sync (c : Client) (block : UInt16) (data : List UInt8) : Talk Sync := do
  if (← c.checksum block) = FlashRescue.checksum data then return .unchanged
  else
    c.writeVerified block data
    return .written

def reset : Talk Unit := demand (Link.sendCommand (.of .reset 0))

def exit : Talk Unit := demand (Link.sendCommand (.of .exit 0))

end Client

end FlashRescue.Host
