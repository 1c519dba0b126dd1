import FlashRescue.Link.Basic

/-!
# Two connected ends

A pair of ends, each of which reads what was written at the other.  What is written at one end waits in a
channel until the other end receives it, a write at a time; the bytes of a write that a read leaves over are
kept for the next one.  Bytes that were written stay readable after the writing end is gone.

* `Duplex`               the bytes on their way in each direction, and which ends still exist;
* `Duplex.answer`        replies to the queries put to one end;
* `Duplex.AtEnd`         computations that have one end for their link;
* `Duplex.drop`          gives up one end.
-/

namespace FlashRescue

/-- one of the two ends -/
inductive Side where
  | left
  | right
  deriving DecidableEq, Repr

def Side.across : Side → Side
  | left => right
  | right => left

/-! ## One end -/

/-- what is on its way to one end, and whether it still exists -/
structure Endpoint where
  /-- the writes of the other end that were not received yet -/
  incoming : List (List UInt8) := []
  /-- the bytes that were received and not yet read -/
  pending : List UInt8 := []
  present : Bool := true
  deriving DecidableEq, Repr

namespace Endpoint

/-- receives writes until `n` bytes are pending, or none is left -/
def gather (n : Nat) : (pending : List UInt8) → (incoming : List (List UInt8)) →
    List UInt8 × List (List UInt8)
  | pending, [] => (pending, [])
  | pending, chunk :: incoming =>
    if pending.length < n then gather n (pending ++ chunk) incoming
    else (pending, chunk :: incoming)

def fill (n : Nat) (e : Endpoint) : Endpoint :=
  let (pending, incoming) := gather n e.pending e.incoming
  { e with pending, incoming }

/-- receives all there is -/
def drain (e : Endpoint) : Endpoint :=
  { e with pending := e.pending ++ e.incoming.flatten, incoming := [] }

end Endpoint

/-! ## Both ends -/

structure Duplex where
  left : Endpoint := {}
  right : Endpoint := {}
  deriving DecidableEq, Repr

namespace Duplex

def endpoint (d : Duplex) : Side → Endpoint
  | .left => d.left
  | .right => d.right

def setEndpoint (d : Duplex) (endpoint : Endpoint) : Side → Duplex
  | .left => { d with left := endpoint }
  | .right => { d with right := endpoint }

/-- the next `n` bytes; if there are fewer none is read, and the read has waited in vain or, with the other
end gone, need not wait -/
def read (side : Side) (n : Nat) (d : Duplex) : Except LinkError (Vector UInt8 n) × Duplex :=
  let endpoint := (d.endpoint side).fill n
  let front := endpoint.pending.take n
  if enough : front.length = n then
    (.ok ⟨front.toArray, by simpa using enough⟩,
      d.setEndpoint { endpoint with pending := endpoint.pending.drop n } side)
  else
    (.error (if (d.endpoint side.across).present then .timedOut else .closed), d.setEndpoint endpoint side)

/-- hands bytes to the other end, if it still exists -/
def write (side : Side) (bytes : List UInt8) (d : Duplex) : Except LinkError Unit × Duplex :=
  let endpoint := d.endpoint side.across
  if endpoint.present then
    (.ok (), d.setEndpoint { endpoint with incoming := endpoint.incoming ++ [bytes] } side.across)
  else (.error .closed, d)

def poll (side : Side) (d : Duplex) : Bool × Duplex :=
  let endpoint := (d.endpoint side).drain
  (!endpoint.pending.isEmpty, d.setEndpoint endpoint side)

def answer (side : Side) : (query : Link.Query) → Duplex → Link.Reply query × Duplex
  | .read n => read side n
  | .write bytes => write side bytes
  | .poll => poll side

def drop (side : Side) (d : Duplex) : Duplex :=
  d.setEndpoint { d.endpoint side with present := false } side

/-- what is done at one end -/
abbrev AtEnd : Type → Type := ReaderT Side (StateM Duplex)

instance : MonadLink AtEnd where
  exchange query side := answer side query

end Duplex

end FlashRescue
