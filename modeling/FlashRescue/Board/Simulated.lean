import FlashRescue.Device.Boot
import FlashRescue.Flash.Nor
import FlashRescue.Link.Line
import FlashRescue.Board.ImageStore

/-!
# A simulated board

Everything the device needs, in memory: a line with timed input, a clock, a NOR flash, an image with
pages for its copy, and a registry of published markers.

* `Board`             its state;
* `Board.answer`      replies to the device's queries;
* `Board.play`        lets the device do something on the board;
* `Board.enter`, `Board.serve`, `Board.announce`  a boot attempt, a session, a search for a host;
* `Board.Note`, `Board.note`  what an onlooker sees of a run.
-/

namespace FlashRescue

open Device

structure Board where
  line : Line
  flash : Nor
  image : ImageStore
  registry : List Guid := []
  resets : Nat := 0
  config : Config := {}
  logLevel : LogLevel := .off

namespace Board

/-! ## Parts of a standard board -/

/-- 96 KiB of bytes that count up to 250, over and over -/
def standardImage : List UInt8 := (List.range (96 * 1024)).map fun i => UInt8.ofNat (i % 251)

theorem length_standardImage : standardImage.length = 96 * 1024 := by
  rw [standardImage, List.length_map, List.length_range]

def standardEntry : UInt64 := 0x240

/-- the pages for the copy: 1 MiB from `0x80000000` on -/
def standardArena : Arena := ⟨0x80000000, 0x80100000, 0x80000000⟩

/-- time that passes between two looks at the clock, in nanoseconds -/
def standardTick : UInt64 := 100000

def standard (blocks : Nat) : Board where
  line := { clock := .virtual standardTick }
  flash := .blank blocks
  image :=
    { bytes := standardImage
      length_le := length_standardImage ▸ by decide
      entryOffset := standardEntry
      arena := standardArena }

/-! ## Services -/

/-- answers out of a part of the board -/
def onLine {α : Type} (f : Line → α × Line) (b : Board) : α × Board :=
  let (reply, line) := f b.line
  (reply, { b with line })

def onClock {α : Type} (f : Clock → α × Clock) (b : Board) : α × Board :=
  b.onLine fun line =>
    let (reply, clock) := f line.clock
    (reply, { line with clock })

def onFlash {α : Type} (f : Nor → α × Nor) (b : Board) : α × Board :=
  let (reply, flash) := f b.flash
  (reply, { b with flash })

def onImage {α : Type} (f : ImageStore → α × ImageStore) (b : Board) : α × Board :=
  let (reply, image) := f b.image
  (reply, { b with image })

def install (marker : Guid) (b : Board) : Except Status Unit × Board :=
  if marker ∈ b.registry then (.error .alreadyStarted, b)
  else (.ok (), { b with registry := b.registry ++ [marker] })

def answer : Device.board.Answerer Board
  | .link query => onLine (Line.answer query)
  | .flash query => onFlash (Nor.answer query)
  | .now => onClock Clock.read
  | .delay us => onClock fun clock => ((), clock.delay us)
  | .reset => fun b => ((), { b with resets := b.resets + 1 })
  | .config => fun b => (b.config, b)
  | .isInstalled marker => fun b => (decide (marker ∈ b.registry), b)
  | .install marker => install marker
  | .locate => fun b => (b.image.locate, b)
  | .allocate pages => onImage (ImageStore.allocate pages)
  | .free range => onImage (ImageStore.free range)
  | .load image range => onImage (ImageStore.load image range)
  | .evict => onImage fun image => ((), image.evict)
  | .jump entry => onImage (ImageStore.jump entry)
  | .logLevel => fun b => (b.logLevel, b)
  | .setLogLevel level => fun b => ((), { b with logLevel := level })
  | .log _ _ => fun b => ((), b)

/-! ## Runs -/

/-- how a run ended, and the board after it -/
abbrev Ended (α : Type) : Type := Except (Stop Error) α × Board

def play {α : Type} (action : Action α) (b : Board) : Ended α := action.run answer b

/-- rounds that are enough for every loop that ends: a waiting loop sees nothing new after the bound of
the line, and HELLO is sent at most once in each millisecond of its budget -/
def rounds (b : Board) : Nat := b.line.rounds + b.config.helloTimeoutMs.toNat + 1

/-- how often the device can be entered within one attempt: the first entry publishes the marker before
it makes the second -/
def depth : Nat := 2

/-- what the device does when it is entered -/
def entry (b : Board) : Action Outcome := Boot.enter b.rounds depth

def enter (b : Board) : Ended Outcome := b.play b.entry

/-- a session with the host, with the board's settings whatever they are -/
def serve (b : Board) : Ended Outcome := b.play (Session.run b.config b.rounds)

def announce (b : Board) : Ended Bool := b.play (Boot.announce b.config b.rounds)

def jumpTo (entry : UInt64) (b : Board) : Ended Outcome := b.play (Boot.jumpTo b.entry entry)

/-! ## Notes -/

/-- what an onlooker sees of a run; transfers carry the time when they were over -/
inductive Note where
  | received (time : UInt64) (bytes : List UInt8)
  | starved (time : UInt64)
  | sent (time : UInt64) (bytes : List UInt8)
  | logged (level : LogLevel) (text : String)
  deriving DecidableEq, Repr

/-- the note on a query, its reply and the board after it -/
def note : (query : Query) → Reply query → Board → Option Note
  | .link (.read _), .ok bytes, b => some (.received b.line.clock.peek.1 bytes.toList)
  | .link (.read _), .error _, b => some (.starved b.line.clock.peek.1)
  | .link (.write bytes), .ok (), b => some (.sent b.line.clock.peek.1 bytes)
  | .log level text, (), b => if b.logLevel.passes level then some (.logged level text) else none
  | _, _, _ => none

/-- lets the device do something under an onlooker's eyes -/
def playNoted {α : Type} (action : Action α) (b : Board) : Ended α × Array Note :=
  let (ended, b, notes) := action.run (Interface.Answerer.noting answer note) (b, #[])
  ((ended, b), notes)

end Board

end FlashRescue
