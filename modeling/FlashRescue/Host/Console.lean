import FlashRescue.Host.Client
import FlashRescue.Host.Image

/-!
# The host tool

What a command line asks for, and how it is done: the serial port is opened, the board is taken over, and the
operator is told about every step.

* `Host.Job`, `Host.Order`  a task, and the settings it comes with;
* `Host.report`             tells the operator whether a step worked;
* `Host.listChecksums`, `Host.writeBlocks`, `Host.flashImage`  the longer tasks;
* `Host.run`                carries an order out.
-/

namespace FlashRescue.Host

/-! ## Orders -/

inductive Job where
  | wait
  | checksum (block count : UInt16)
  /-- write blocks of an image, and verify them -/
  | write (image : String) (start : UInt16) (count : Option UInt16)
  /-- write every block that differs from an image, then let the board boot -/
  | flash (image : String)
  | reset
  | exit
  deriving DecidableEq, Repr

structure Order where
  /-- the serial device the board is attached to -/
  serialPort : String
  baud : UInt32 := 115200
  timeout : UInt64 := 2000
  wait : UInt64 := 60000
  retries : UInt32 := 3
  chunkSize : UInt64 := Timing.chunkSize
  nack : Bool := false
  job : Job
  deriving DecidableEq, Repr

/-! ## Terminal -/

/-- the ways in which a word stands out -/
inductive Tint where
  | green
  | red
  | dimmed
  deriving DecidableEq, Repr

/-- a word for a terminal, which may have colours -/
def Tint.paint (color : Bool) (tint : Tint) (word : String) : String :=
  let code := match tint with
    | green => "32"
    | red => "31"
    | dimmed => "2"
  if color then "\x1b[" ++ code ++ "m" ++ word ++ "\x1b[0m" else word

/-- a tinted word at the end of a line -/
def printWord (color : Bool) (tint : Tint) (word : String) : Talk Unit :=
  print (tint.paint color word ++ "\n")

/-- does a step and ends the line with how it went -/
def report {α : Type} (color : Bool) (step : Talk α) : Talk α := do
  match ← step.trial with
  | .ok value =>
    printWord color .green "ok"
    return value
  | .error e =>
    printWord color .red "failed"
    throw e

/-! ## Tasks -/

/-- opens the serial port of an order -/
def openPort (color : Bool) (o : Order) : Talk Unit := do
  print ("Opening " ++ o.serialPort ++ " at " ++ toString o.baud.toNat ++ " baud... ")
  report color do
    match ← .ask (.openPort o.serialPort o.baud o.timeout) .done with
    | .ok () => return
    | .error text => throw (.serial text)

def readFile (path : String) : Talk ByteArray := do
  match ← .ask (.readFile path) .done with
  | .ok bytes => return bytes
  | .error e => throw (.io e)

def readImage (path : String) : Talk Image := do
  match Image.ofBytes? (← readFile path) with
  | .ok image => return image
  | .error e => throw e

/-- prints the checksums of `count` blocks from `block` on.  The number after each block is needed
before the block is read, and the last block has none -/
def listChecksums (c : Client) : (count : Nat) → (block : UInt16) → Talk Unit
  | 0, _ => return
  | count + 1, block => do
    if block = 0xffff then .stop (.broken .overflow)
    else
      let crc ← c.checksum block
      print (hexText 4 block.toNat ++ ": " ++ hexText 8 crc.toNat ++ "\n")
      listChecksums c count (block + 1)

/-- the numbers of the blocks from `start` on, at most `count` of them -/
def selected (image : Image) (start : UInt16) (count : Option UInt16) : List Nat :=
  let rest := image.numbers.drop start.toNat
  match count with
  | some count => rest.take count.toNat
  | none => rest

def writeBlocks (color : Bool) (c : Client) (image : Image) (start : UInt16)
    (count : Option UInt16) : Talk Unit := do
  let numbers := selected image start count
  if numbers.isEmpty then throw (.invalidImage ("no blocks from " ++ hexText 1 start.toNat))
  else numbers.forM fun number => do
    print ("Writing block " ++ hexText 4 number ++ "... ")
    report color (c.writeVerified (UInt16.ofNat number) (image.block number))

/-- makes one block of the board what it is in the image; tells the operator what was done -/
def syncBlock (color : Bool) (c : Client) (image : Image) (number : Nat) : Talk Sync := do
  let data := image.block number
  print ("Block " ++ hexText 4 number ++ " (" ++ hexText 8 (checksum data).toNat ++ ")... ")
  match ← (c.sync (UInt16.ofNat number) data).trial with
  | .ok .unchanged =>
    printWord color .dimmed "unchanged"
    return .unchanged
  | .ok .written =>
    printWord color .green "rewritten"
    return .written
  | .error e =>
    printWord color .red "failed"
    throw e

/-- makes the board's blocks what they are in the image and lets the board boot, unless a block
fails -/
def flashImage (color : Bool) (c : Client) (image : Image) : Talk Unit := do
  let results ← image.numbers.mapM (syncBlock color c image)
  print (toString (results.count .written) ++ " of " ++ toString image.blocks ++
    " blocks rewritten\n")
  print "Continuing boot... "
  report color Client.exit

/-- does a job with a board that was taken over -/
def doJob (color : Bool) (c : Client) : Job → Talk Unit
  | .wait => return
  | .checksum block count => listChecksums c count.toNat block
  | .write path start count => do writeBlocks color c (← readImage path) start count
  | .flash path => do flashImage color c (← readImage path)
  | .reset => do
    print "Resetting... "
    report color Client.reset
  | .exit => do
    print "Continuing boot... "
    report color Client.exit

/-! ## The whole order -/

/-- asks for NACKs, if the order says so -/
def negotiate (color : Bool) (c : Client) (nack : Bool) : Talk Client := do
  if nack then
    print "Enabling NACK mode... "
    report color c.requestNacks
  else return c

def run (color : Bool) (o : Order) : Talk Unit := do
  if o.chunkSize = 0 || blockSize % o.chunkSize.toNat != 0 then
    throw (.other ("Chunk size must divide " ++ toString blockSize))
  else
    openPort color o
    let client : Client := { retries := o.retries, chunkSize := o.chunkSize }
    print "Power on the board now\n"
    print "Waiting for HELLO... "
    report color (client.attach o.wait)
    let client ← negotiate color client o.nack
    doJob color client o.job

end FlashRescue.Host
