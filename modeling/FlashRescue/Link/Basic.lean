import FlashRescue.IoError

/-!
# Links

A link carries bytes both ways, without framing.  A read asks for a number of bytes and either gets
them all or fails; a poll tells whether a byte can be read at once.

* `LinkError`    what goes wrong on a link, with the wording;
* `Link.Query`   what may be asked of a link, with `Link.Reply` for its answers;
* `MonadLink`    computations that have a link at hand.
-/

namespace FlashRescue

/-! ## Errors -/

inductive LinkError where
  /-- the other end is gone -/
  | closed
  | io (error : IoError)
  /-- the serial device reports a failure -/
  | serial (text : String)
  deriving DecidableEq, Repr

namespace LinkError

def timedOut : LinkError := .io ⟨.timedOut, none⟩

def isTimeout : LinkError → Bool
  | io error => error.kind == .timedOut
  | _ => false

def message : LinkError → String
  | closed => "link closed"
  | io error => "I/O error: " ++ error.message
  | serial text => "serialport error: " ++ text

/-- the wording of an error met while a packet was transferred -/
def packetMessage (e : LinkError) : String := "port error: " ++ e.message

end LinkError

/-! ## Queries -/

namespace Link

inductive Query where
  /-- exactly `n` bytes -/
  | read (n : Nat)
  | write (bytes : List UInt8)
  /-- can a byte be read at once -/
  | poll
  deriving DecidableEq, Repr

@[reducible] def Reply : Query → Type
  | .read n => Except LinkError (Vector UInt8 n)
  | .write _ => Except LinkError Unit
  | .poll => Bool

end Link

class MonadLink (m : Type → Type) where
  exchange : (query : Link.Query) → m (Link.Reply query)

end FlashRescue
