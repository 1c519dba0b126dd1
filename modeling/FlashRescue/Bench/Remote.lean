import FlashRescue.Board.Simulated

/-!
# The far end of a cable

What a host finds at the other end: either a script of replies, one for each of its writes, or a board
that is run anew, after every write, on all the bytes it has got so far, and whose further output is the
reply.

* `Delivery`         what reaches the host's end of a cable;
* `Remote.opening`   what is delivered before the host has written anything;
* `Remote.reply`     what is delivered after a write.
-/

namespace FlashRescue

open Device

inductive Delivery where
  | bytes (content : List UInt8)
  /-- nothing, for as long as a read waits -/
  | gap
  | fail (kind : IoKind)
  | close
  deriving DecidableEq, Repr

/-- a board that is run anew on all it has heard, from its boot or from its command loop on -/
structure Replay where
  board : Board
  bootstrap : Bool
  heard : List UInt8 := []
  /-- how many bytes of its output were delivered -/
  delivered : Nat := 0

namespace Replay

/-- how the board gets on with what it has heard -/
def outcome (r : Replay) : Board.Ended Outcome :=
  let board := { r.board with line := r.board.line.push 0 r.heard }
  if r.bootstrap then board.enter else board.serve

/-- the output that was not delivered yet, which from now on is -/
def deliver (r : Replay) (output : List UInt8) : List Delivery × Replay :=
  ([.bytes (output.drop r.delivered)], { r with delivered := max r.delivered output.length })

/-- what a board that boots sends before it has heard anything: one HELLO -/
def opening (r : Replay) : List Delivery × Replay :=
  if r.bootstrap then r.deliver (r.outcome.2.line.outgoing.take Command.size) else ([], r)

/-- what the board sends more once it has heard `bytes` too -/
def reply (bytes : List UInt8) (r : Replay) : List Delivery × Replay :=
  let r := { r with heard := r.heard ++ bytes }
  r.deliver r.outcome.2.line.outgoing

end Replay

/-- what is at the far end -/
inductive Remote where
  | scripted (opening : List Delivery) (replies : List (List Delivery))
  | replayed (replay : Replay)

namespace Remote

def opening : Remote → List Delivery × Remote
  | scripted opening replies => (opening, scripted [] replies)
  | replayed replay =>
    let (deliveries, replay) := replay.opening
    (deliveries, replayed replay)

def reply (bytes : List UInt8) : Remote → List Delivery × Remote
  | scripted opening (reply :: replies) => (reply, scripted opening replies)
  | scripted opening [] => ([], scripted opening [])
  | replayed replay =>
    let (deliveries, replay) := replay.reply bytes
    (deliveries, replayed replay)

end Remote

end FlashRescue
