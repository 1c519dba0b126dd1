import FlashRescue.ByteOrder
import FlashRescue.Hex

/-!
# Packets

The records that cross the link.  A command is an opcode and a block number, a response an
acknowledge value and a size that is always zero; both are three bytes, least significant first,
without any framing.  Opcodes and acknowledge values stay raw bytes, so that one a reader does not
know is still a packet.

* `Opcode`, `Command`, `Response`;
* `Command.encode`, `Command.decode` and the same for responses;
* `Command.describe`, `Response.describe`  their text in messages.
-/

namespace FlashRescue

/-! ## Opcodes -/

inductive Opcode where
  /-- the device makes itself known to a host -/
  | hello
  | checksum
  /-- reserved, a device takes no notice of it -/
  | read
  /-- replaces a block, whose content follows in chunks -/
  | write
  | reset
  /-- ends the session, the board goes on booting -/
  | exit
  /-- asks for a NACK wherever a command fails -/
  | nackMode
  deriving DecidableEq, Repr

namespace Opcode

def byte : Opcode → UInt8
  | hello => 0x10
  | checksum => 0x11
  | read => 0x12
  | write => 0x13
  | reset => 0x14
  | exit => 0x15
  | nackMode => 0x16

/-- the command that starts with this byte, if there is one -/
def ofByte? (byte : UInt8) : Option Opcode :=
  [hello, checksum, read, write, reset, exit, nackMode].find? (·.byte = byte)

def name : Opcode → String
  | hello => "HELLO"
  | checksum => "CHECKSUM"
  | read => "READ"
  | write => "WRITE"
  | reset => "RESET"
  | exit => "EXIT"
  | nackMode => "NACK_MODE"

theorem ofByte?_byte (op : Opcode) : ofByte? op.byte = some op := by
  cases op <;> rfl

end Opcode

/-! ## Commands -/

structure Command where
  opcode : UInt8
  block : UInt16
  deriving DecidableEq, Repr

namespace Command

abbrev size : Nat := 3

/-- the command `op` on a block; commands without a block carry a zero -/
def of (op : Opcode) (block : UInt16) : Command := ⟨op.byte, block⟩

/-- which command this is, if the protocol knows it -/
def opcode? (c : Command) : Option Opcode := Opcode.ofByte? c.opcode

def encode (c : Command) : List UInt8 :=
  c.opcode :: ByteOrder.little.encode 2 c.block.toNat

def decode (bytes : Vector UInt8 size) : Command :=
  ⟨bytes[0], UInt16.ofNat (ByteOrder.little.decode [bytes[1], bytes[2]])⟩

/-- the text in messages; the block is named where the command has one -/
def describe (c : Command) : String :=
  match c.opcode? with
  | some op =>
    match op with
    | .checksum | .read | .write => op.name ++ " block " ++ toString c.block.toNat
    | _ => op.name
  | none => "unknown opcode " ++ hexText 2 c.opcode.toNat

theorem length_encode (c : Command) : c.encode.length = size := rfl

end Command

/-! ## Responses -/

structure Response where
  acknowledge : UInt8
  size : UInt16
  deriving DecidableEq, Repr

namespace Response

abbrev width : Nat := 3

def ack : Response := ⟨1, 0⟩

def nack : Response := ⟨2, 0⟩

def isAck (r : Response) : Bool := r.acknowledge == ack.acknowledge

def isNack (r : Response) : Bool := r.acknowledge == nack.acknowledge

def encode (r : Response) : List UInt8 :=
  r.acknowledge :: ByteOrder.little.encode 2 r.size.toNat

def decode (bytes : Vector UInt8 width) : Response :=
  ⟨bytes[0], UInt16.ofNat (ByteOrder.little.decode [bytes[1], bytes[2]])⟩

def describe (r : Response) : String :=
  if r.isAck then "ACK"
  else if r.isNack then "NACK"
  else "no ACK (" ++ hexText 2 r.acknowledge.toNat ++ ")"

theorem length_encode (r : Response) : r.encode.length = width := rfl

end Response

end FlashRescue
