import FlashRescue.Device.Boot
import FlashRescue.Link.Line

/-!
# A staged board

A board that does nothing of its own: each service replies as it was told beforehand.  It serves to
watch in which order the device calls upon its board, and what it does when a service refuses.

* `StagedBoard`         the replies to come;
* `StagedBoard.answer`  gives them;
* `StagedBoard.play`    lets the device do something, and lists the calls it made;
* `StagedBoard.Call`    a call with its reply.
-/

namespace FlashRescue

open Device

/-- a board whose services reply as told; a service that was told nothing succeeds -/
structure StagedBoard where
  line : Line
  config : Config := {}
  logLevel : LogLevel := .off
  /-- how each call of a flash service ends, in order -/
  inits : List (Option Flash.Error) := []
  reads : List (Option Flash.Error) := []
  erases : List (Option Flash.Error) := []
  programs : List (Option Flash.Error) := []
  /-- the writes that go through before one fails -/
  writesUntilFailure : Option Nat := none
  /-- readings of the clock, before it runs by itself -/
  times : List UInt64 := []
  /-- whether the marker is found, before that depends on what was published -/
  found : List Bool := []
  published : Bool := false
  installStatus : Option Status := none
  locateStatus : Option Status := none
  allocateStatus : Option Status := none
  freeStatus : Option Status := none
  loadStatus : Option Status := none
  image : ImageInfo := ⟨1, 0⟩
  base : UInt64 := 0x10000
  landing : Landing := .entered
  /-- how often the line was polled and the clock was read -/
  polls : Nat := 0
  readings : Nat := 0

namespace StagedBoard

/-! ## Services -/

/-- a value, or the status the service was told to refuse with -/
def granted {α : Type} (value : α) : Option Status → Except Status α
  | none => .ok value
  | some status => .error status

/-- the next reply in a list, and the list without it -/
def next (replies : List (Option Flash.Error)) :
    Except Flash.Error Unit × List (Option Flash.Error) :=
  match replies with
  | some e :: rest => (.error e, rest)
  | none :: rest => (.ok (), rest)
  | [] => (.ok (), [])

/-- replies of the flash controller; a block reads as the low byte of its number -/
def answerFlash : (query : Flash.Query) → StagedBoard → Flash.Reply query × StagedBoard
  | .init, b =>
    let (reply, inits) := next b.inits
    (reply, { b with inits })
  | .read _ offset length, b =>
    let (reply, reads) := next b.reads
    let number := UInt8.ofNat (offset.toNat / blockSize)
    (reply.map fun () => List.replicate length number, { b with reads })
  | .erase _ _ _, b =>
    let (reply, erases) := next b.erases
    (reply, { b with erases })
  | .program _ _ _, b =>
    let (reply, programs) := next b.programs
    (reply, { b with programs })

/-- replies of the line, one of whose writes may fail -/
def answerLink : (query : Link.Query) → StagedBoard → Link.Reply query × StagedBoard
  | .write bytes, b =>
    let b' := { b with writesUntilFailure := b.writesUntilFailure.bind fun
      | 0 => none
      | left + 1 => some left }
    if b.writesUntilFailure = some 0 then (.error .closed, b')
    else
      let (reply, line) := b.line.write bytes
      (reply, { b' with line })
  | .read n, b =>
    let (reply, line) := b.line.read n
    (reply, { b with line })
  | .poll, b =>
    let (reply, line) := b.line.poll
    (reply, { b with line, polls := b.polls + 1 })

def readClock (b : StagedBoard) : UInt64 × StagedBoard :=
  let b := { b with readings := b.readings + 1 }
  match b.times with
  | time :: times => (time, { b with times })
  | [] =>
    let (time, clock) := b.line.clock.read
    (time, { b with line := { b.line with clock } })

def findMarker (b : StagedBoard) : Bool × StagedBoard :=
  match b.found with
  | answer :: found => (answer, { b with found })
  | [] => (b.published, b)

def answer : Device.board.Answerer StagedBoard
  | .link query => answerLink query
  | .flash query => answerFlash query
  | .now => readClock
  | .delay us => fun b => ((), { b with line := { b.line with clock := b.line.clock.delay us } })
  | .reset => fun b => ((), b)
  | .config => fun b => (b.config, b)
  | .isInstalled _ => findMarker
  | .install _ => fun b =>
    (granted () b.installStatus, { b with published := b.published || b.installStatus.isNone })
  | .locate => fun b => (granted b.image b.locateStatus, b)
  | .allocate pages => fun b => (granted ⟨b.base, pages⟩ b.allocateStatus, b)
  | .free _ => fun b => ((granted () b.freeStatus).mapError .inl, b)
  | .load image range => fun b =>
    (match b.loadStatus, Word.add? range.base image.entryOffset with
      | some status, _ => .error (.inl status)
      | none, some entry => .ok entry
      | none, none => .error (.inr .overflow), b)
  | .evict => fun b => ((), b)
  | .jump _ => fun b => (.ok b.landing, b)
  | .logLevel => fun b => (b.logLevel, b)
  | .setLogLevel level => fun b => ((), { b with logLevel := level })
  | .log _ _ => fun b => ((), b)

/-! ## Runs -/

/-- a call of the device, its reply and the log level at that time -/
structure Call where
  query : Query
  reply : Reply query
  level : LogLevel

/-- notes a call; polls, readings of the clock, the log level and records that do not pass are left
out -/
def note : (query : Query) → Reply query → StagedBoard → Option Call
  | .link .poll, _, _ | .now, _, _ | .logLevel, _, _ | .setLogLevel _, _, _ => none
  | .log level text, reply, b =>
    if b.logLevel.passes level then some ⟨.log level text, reply, b.logLevel⟩ else none
  | query, reply, b => some ⟨query, reply, b.logLevel⟩

/-- lets the device do something: how it ended, the board after it, and the calls it made -/
def play {α : Type} (action : Action α) (b : StagedBoard) :
    Except (Stop Error) α × StagedBoard × Array Call :=
  action.run (Interface.Answerer.noting answer note) (b, #[])

/-- rounds that are enough for every loop that ends: as on a board with a line and a clock, once the
readings and the writes laid down beforehand are used up -/
def rounds (b : StagedBoard) : Nat :=
  b.line.rounds + b.config.helloTimeoutMs.toNat + b.times.length +
    b.writesUntilFailure.getD 0 + 1

/-- how often the device can be entered: once for each answer laid down, and twice more -/
def depth (b : StagedBoard) : Nat := b.found.length + 2

/-- what the device does when it is entered -/
def entry (b : StagedBoard) : Action Outcome := Boot.enter b.rounds b.depth

end StagedBoard

end FlashRescue
