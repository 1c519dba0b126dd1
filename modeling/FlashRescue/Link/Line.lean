import FlashRescue.Clock
import FlashRescue.Link.Basic

/-!
# A line with timed input

The board's end of a serial line whose input is laid down in advance: every byte has a moment from
which on it can be seen.  A read waits for its bytes by moving the clock, and a read of more bytes
than were ever laid down finds the line closed.

* `Line`           the queue, the clock and what was sent;
* `Line.push`      lays down more input;
* `Line.outgoing`  everything that was sent, in order; `outgoing_write`: a write adds its bytes;
* `Line.answer`    replies to the queries a link gets.
-/

namespace FlashRescue

/-- a line, its input with the moment of each byte, and everything sent over it, last byte first -/
structure Line where
  clock : Clock
  incoming : List (UInt64 × UInt8) := []
  sent : List UInt8 := []
  /-- how many writes go through before the line is closed to them -/
  writesLeft : Option Nat := none

namespace Line

def outgoing (l : Line) : List UInt8 := l.sent.reverse

def push (moment : UInt64) (bytes : List UInt8) (l : Line) : Line :=
  { l with incoming := l.incoming ++ bytes.map (moment, ·) }

/-- the next `n` bytes, once the last of them can be seen; all or nothing -/
def read (n : Nat) (l : Line) : Except LinkError (Vector UInt8 n) × Line :=
  let front := l.incoming.take n
  if enough : front.length = n then
    (.ok ⟨(front.map (·.2)).toArray, by simpa using enough⟩,
      { l with
        incoming := l.incoming.drop n
        clock := front.foldl (fun clock entry => clock.advanceTo entry.1) l.clock })
  else (.error .closed, l)

/-- sends bytes, unless the line is closed to writes -/
def write (bytes : List UInt8) (l : Line) : Except LinkError Unit × Line :=
  match l.writesLeft with
  | some 0 => (.error .closed, l)
  | left => (.ok (), { l with sent := bytes.reverseAux l.sent, writesLeft := left.map (· - 1) })

theorem outgoing_write (bytes : List UInt8) (l : Line) :
    (l.write bytes).2.outgoing =
      if l.writesLeft = some 0 then l.outgoing else l.outgoing ++ bytes := by
  obtain ⟨clock, incoming, sent, writesLeft⟩ := l
  match writesLeft with
  | some 0 => rfl
  | none | some (left + 1) =>
    exact (congrArg List.reverse List.reverseAux_eq).trans
      ((List.reverse_append ..).trans (congrArg _ (List.reverse_reverse bytes)))

/-- whether the first byte can be seen by now -/
def poll (l : Line) : Bool × Line :=
  let (now, clock) := l.clock.peek
  (l.incoming.head?.any (·.1 ≤ now), { l with clock })

def answer : (query : Link.Query) → Line → Link.Reply query × Line
  | .read n => read n
  | .write bytes => write bytes
  | .poll => poll

/-- rounds after which a program that does nothing but look at the line and its clock has seen every
state they take: the clock is back where it was after as many looks as there are words, and all that
changes besides are the unread bytes and the writes left -/
def rounds (l : Line) : Nat :=
  (l.incoming.length + 1) * UInt64.size + l.writesLeft.getD 0

instance : MonadLink (StateM Line) where
  exchange := answer

end Line

end FlashRescue
