import FlashRescue.Link.Basic
import FlashRescue.Packet

/-!
# Typed transfers

Packets, checksums, numbers and raw bytes over a link.  Each is one read or one write of the bytes
that the value's encoding has, so values follow each other on the link without gaps.

* `readCommand`, `sendCommand`, `readResponse`, `sendResponse`  packets;
* `readNumber`, `sendNumber`      numbers of a given width and byte order;
* `readChecksum`, `sendChecksum`  the four bytes that follow the ACK of a CHECKSUM.
-/

namespace FlashRescue.Link

variable {m : Type → Type} [Functor m] [MonadLink m]

/-! ## Bytes -/

def read (n : Nat) : m (Except LinkError (Vector UInt8 n)) := MonadLink.exchange (.read n)

def write (bytes : List UInt8) : m (Except LinkError Unit) := MonadLink.exchange (.write bytes)

/-- whether a byte can be read at once -/
def poll : m Bool := MonadLink.exchange .poll

/-! ## Packets -/

def readCommand : m (Except LinkError Command) := Except.map Command.decode <$> read Command.size

def sendCommand (c : Command) : m (Except LinkError Unit) := write c.encode

def readResponse : m (Except LinkError Response) :=
  Except.map Response.decode <$> read Response.width

def sendResponse (r : Response) : m (Except LinkError Unit) := write r.encode

/-! ## Numbers -/

def readNumber (order : ByteOrder) (n : Nat) : m (Except LinkError Nat) :=
  Except.map (fun bytes => order.decode bytes.toList) <$> read n

def sendNumber (order : ByteOrder) (n x : Nat) : m (Except LinkError Unit) :=
  write (order.encode n x)

def readChecksum : m (Except LinkError UInt32) :=
  Except.map UInt32.ofNat <$> readNumber .little 4

def sendChecksum (crc : UInt32) : m (Except LinkError Unit) :=
  sendNumber .little 4 crc.toNat

end FlashRescue.Link
