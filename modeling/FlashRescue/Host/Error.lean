import FlashRescue.Link.Basic
import FlashRescue.Packet

/-!
# What goes wrong on the host

* `Host.Error`            the causes;
* `Host.Error.message`    the wording;
* `Host.Error.isTimeout`  whether the device just did not answer in time.
-/

namespace FlashRescue.Host

inductive Error where
  /-- nothing that looks like HELLO came within so many milliseconds -/
  | noHello (ms : UInt64)
  /-- the device answered, but neither with ACK nor with NACK -/
  | noAck (op : Opcode)
  | nack (op : Opcode) (block : UInt16)
  /-- the content that was read back is not what was sent -/
  | checksumMismatch (block : UInt16) (expected actual : UInt32)
  | invalidImage (reason : String)
  | packet (error : LinkError)
  | link (error : LinkError)
  | io (error : IoError)
  | serial (text : String)
  | other (text : String)
  deriving DecidableEq, Repr

namespace Error

def message : Error → String
  | noHello ms =>
    "No HELLO from the device within " ++ toString ms.toNat ++ " ms, is the board powered on?"
  | noAck op => "Device didn't acknowledge " ++ op.name
  | nack op block => "Device rejected " ++ op.name ++ " of block " ++ hexText 1 block.toNat
  | checksumMismatch block expected actual =>
    "Checksum mismatch at block " ++ hexText 1 block.toNat ++ "! Expected " ++
      hexText 8 expected.toNat ++ ", got " ++ hexText 8 actual.toNat
  | invalidImage reason => "Invalid image: " ++ reason
  | packet error => "Protocol error: " ++ error.packetMessage
  | link error => "Port error: " ++ error.message
  | io error => "I/O error: " ++ error.message
  | serial text => "serialport error: " ++ text
  | other text => text

def isTimeout : Error → Bool
  | packet error | link error => error.isTimeout
  | io error => error.kind == .timedOut
  | _ => false

end Error

end FlashRescue.Host
