import FlashRescue.Bench.Remote

/-!
# A cable with a host at its near end

Bytes that were delivered are at hand at once, up to the first gap or failure; that one is met by the
first read that asks for more than is there.

* `Cable`          what was delivered, what is at hand, and the far end;
* `Cable.settle`   takes deliveries up to the first gap or failure;
* `Cable.answer`   replies to the queries a link gets.
-/

namespace FlashRescue

/-- the two ways a host can hold its end -/
inductive Grip where
  /-- one of two connected ends: a read takes all its bytes or none -/
  | duplex
  /-- a serial device: the bytes that a read got before it failed are gone -/
  | serial
  deriving DecidableEq, Repr

structure Cable where
  grip : Grip
  /-- how long a read waits, in milliseconds -/
  timeoutMs : Nat
  remote : Remote
  deliveries : List Delivery := []
  atHand : List UInt8 := []
  connected : Bool := true
  sent : List UInt8 := []
  /-- the time, in nanoseconds -/
  now : Nat := 0

namespace Cable

/-- the bytes at the head of the deliveries, the deliveries after them, and whether the cable is cut
there -/
def collect : List Delivery → List UInt8 × List Delivery × Bool
  | .bytes content :: rest =>
    let (bytes, rest, cut) := collect rest
    (content ++ bytes, rest, cut)
  | .close :: _ => ([], [], true)
  | rest => ([], rest, false)

def settle (c : Cable) : Cable :=
  let (bytes, deliveries, cut) := collect c.deliveries
  { c with atHand := c.atHand ++ bytes, deliveries, connected := c.connected && !cut }

def connect (grip : Grip) (timeoutMs : Nat) (remote : Remote) : Cable :=
  let (deliveries, remote) := remote.opening
  settle { grip, timeoutMs, remote, deliveries }

/-- why a read fails that lacks bytes; a gap is over when it has waited for it -/
def starve (c : Cable) : LinkError × Cable :=
  match c.deliveries with
  | .fail kind :: deliveries => (.io ⟨kind, none⟩, settle { c with deliveries })
  | waiting =>
    (.timedOut,
      settle { c with deliveries := waiting.drop 1, now := c.now + c.timeoutMs * Timing.nsPerMs.toNat })

/-- why a read fails once the cable is cut -/
def cutError : Grip → LinkError
  | .duplex => .closed
  | .serial => .io ⟨.unexpectedEof, some "failed to fill whole buffer"⟩

def read (n : Nat) (c : Cable) : Except LinkError (Vector UInt8 n) × Cable :=
  let front := c.atHand.take n
  if enough : front.length = n then
    (.ok ⟨front.toArray, by simpa using enough⟩, { c with atHand := c.atHand.drop n })
  else
    let c := match c.grip with
      | .duplex => c
      | .serial => { c with atHand := [] }
    if c.connected then
      let (e, c) := c.starve
      (.error e, c)
    else (.error (cutError c.grip), c)

/-- sends bytes to the far end, which replies -/
def write (bytes : List UInt8) (c : Cable) : Except LinkError Unit × Cable :=
  if c.connected then
    let (reply, remote) := c.remote.reply bytes
    (.ok (), settle
      { c with remote, deliveries := c.deliveries ++ reply, sent := c.sent ++ bytes })
  else match c.grip with
    | .duplex => (.error .closed, c)
    | .serial => (.error (.io ⟨.brokenPipe, none⟩), c)

/-- whether a byte is at hand; a serial device that is cut off does not tell -/
def poll (c : Cable) : Bool :=
  match c.grip with
  | .duplex => !c.atHand.isEmpty
  | .serial => c.connected && !c.atHand.isEmpty

def answer : (query : Link.Query) → Cable → Link.Reply query × Cable
  | .read n => read n
  | .write bytes => write bytes
  | .poll => fun c => (c.poll, c)

end Cable

end FlashRescue
