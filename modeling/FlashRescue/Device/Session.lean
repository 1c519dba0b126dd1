import FlashRescue.Checksum
import FlashRescue.Device.Services

/-!
# The command loop

Once a host is attached the device only answers, one command at a time, until it is told to leave or
the host falls silent.

* `Session.answerChecksum`, `Session.replace`  the two commands that reach the flash;
* `Session.dispatch`  carries one command out;
* `Session.watch`     ends the session of a silent host;
* `Session.serve`     waits for commands;
* `Session.run`       the whole session.
-/

namespace FlashRescue.Device.Session

/-- where a command leaves the session -/
inductive Step where
  /-- it goes on, with NACKs or without -/
  | proceed (nacks : Bool)
  | finish (outcome : Outcome)
  deriving DecidableEq, Repr

/-! ## Commands -/

/-- the answer to a failed command: a NACK if the host knows about them, else nothing -/
def refuse (nacks : Bool) : Action Unit :=
  if nacks then demand (Link.sendResponse .nack) else return

def answerChecksum (nacks : Bool) (block : UInt16) : Action Unit := do
  match ← flash (.read .bios (blockOffset block) blockSize) with
  | .error _ => refuse nacks
  | .ok content =>
    demand (Link.sendResponse .ack)
    demand (Link.sendChecksum (checksum content))

/-- the lengths of the chunks that a block is cut into; the last may be shorter than `chunkSize` -/
def chunkLengths (chunkSize : Nat) : List Nat :=
  List.replicate (blockSize / chunkSize) chunkSize ++
    (if blockSize % chunkSize = 0 then [] else [blockSize % chunkSize])

/-- takes a chunk, after the host had time to send it, and acknowledges it -/
def receiveChunk (config : Config) (length : Nat) : Action (List UInt8) := do
  pause config.chunkPacingMs
  let bytes ← demand (Link.read length)
  demand (Link.sendResponse .ack)
  return bytes.toList

/-- takes the content of a block in chunks -/
def receiveBlock (config : Config) : Action (List UInt8) :=
  if config.chunkSize = 0 then .stop (.broken .emptyChunk)
  else List.flatten <$> (chunkLengths config.chunkSize.toNat).mapM (receiveChunk config)

/-- erases a block and programs it anew; tells whether both worked -/
def reprogram (block : UInt16) (content : List UInt8) : Action Bool := do
  match ← flash (.erase .bios (blockOffset block) blockSize) with
  | .error _ => return false
  | .ok () =>
    match ← flash (.program .bios (blockOffset block) content) with
    | .error _ => return false
    | .ok () => return true

/-- takes the content of a block and puts it in place of the old one -/
def replace (config : Config) (nacks : Bool) (block : UInt16) : Action Unit := do
  demand (Link.sendResponse .ack)
  let content ← receiveBlock config
  if ← reprogram block content then return
  else refuse nacks

/-- carries one command out; commands without a meaning here are passed over -/
def dispatch (config : Config) (nacks : Bool) (command : Command) : Action Step := do
  match command.opcode? with
  | some .checksum =>
    answerChecksum nacks command.block
    return .proceed nacks
  | some .write =>
    replace config nacks command.block
    return .proceed nacks
  | some .reset =>
    .ask .reset fun _ => return .finish .reset
  | some .exit => return .finish .exited
  | some .nackMode =>
    demand (Link.sendResponse .ack)
    return .proceed true
  | some .hello | some .read | none => return .proceed nacks

/-! ## The loop -/

/-- how long the host may be silent, in nanoseconds -/
def silenceNs (config : Config) : UInt64 := Word.mulSat config.livenessTimeoutMs Timing.nsPerMs

/-- goes on with `next` unless the host has been silent since `last` for too long -/
def watch (config : Config) (last : UInt64) (next : Action Outcome) : Action Outcome := do
  if Word.subSat (← now) last ≥ silenceNs config then throw .livenessTimeout
  else next

/-- waits for commands and carries them out; `last` is the time when the last one was done.  The
clock is read once after each command and once at the end of every round -/
def serve (config : Config) : (rounds : Nat) → (nacks : Bool) → (last : UInt64) → Action Outcome
  | 0, _, _ => .stop .unfinished
  | rounds + 1, nacks, last => do
    if ← Link.poll then
      pause config.pollSettleMs
      let command ← demand Link.readCommand
      let step ← dispatch config nacks command
      let last ← now
      match step with
      | .finish outcome => return outcome
      | .proceed nacks => watch config last (serve config rounds nacks last)
    else watch config last (serve config rounds nacks last)

def run (config : Config) (rounds : Nat) : Action Outcome := do
  match ← flash .init with
  | .error _ => throw .flash
  | .ok () =>
    let start ← now
    serve config rounds config.nackOnFailure start

end FlashRescue.Device.Session
