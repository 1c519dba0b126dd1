import FlashRescue.Bench.Cable
import FlashRescue.Proofs.Bench.Replay
import FlashRescue.Proofs.Host.Talk

/-!
# A link on which answers take their time

Nothing is lost, added or changed on it and nothing is overtaken, but how many bytes reach the host before
each of its queries is up to a schedule.  A read that lacks bytes then times out.

* `Courier`           the board, the bytes on the way and those at hand;
* `Courier.answer`    replies to the queries of a host;
* `Courier.coming`    all that the host has still to read, whether it is there yet or not;
* `run_read`, `run_read_short`, `run_poll`, `run_write`  the transfers;
* `run_read_ok`       what a read that succeeds has taken;
* `replay_quiet`      nothing but a write reaches the board.
-/

namespace FlashRescue

open Host

/-- a board whose answers arrive when the schedule has it -/
structure Courier where
  grip : Grip := .duplex
  replay : Replay
  onTheWay : List UInt8 := []
  atHand : List UInt8 := []
  queries : Nat := 0
  arrivals : Nat → Nat

namespace Courier

def arrive (k : Courier) : Courier :=
  { k with
    onTheWay := k.onTheWay.drop (k.arrivals k.queries)
    atHand := k.atHand ++ k.onTheWay.take (k.arrivals k.queries)
    queries := k.queries + 1 }

/-- the bytes of deliveries, on a link where no other kind occurs -/
def carried : List Delivery → List UInt8
  | .bytes content :: rest => content ++ carried rest
  | _ => []

/-- a read that lacks bytes: on a serial port it has used up those that were there -/
def starve (k : Courier) : Courier :=
  match k.grip with
  | .duplex => k
  | .serial => { k with atHand := [] }

def read (n : Nat) (k : Courier) : Except LinkError (Vector UInt8 n) × Courier :=
  let front := k.atHand.take n
  if enough : front.length = n then
    (.ok ⟨front.toArray, by simpa using enough⟩, { k with atHand := k.atHand.drop n })
  else (.error .timedOut, k.starve)

def write (bytes : List UInt8) (k : Courier) : Courier :=
  { k with
    replay := (k.replay.reply bytes).2
    onTheWay := k.onTheWay ++ carried (k.replay.reply bytes).1 }

/-- replies to the queries of a host, who has nothing but the link -/
def answer : machine.Answerer Courier
  | .link (.read n) => fun k => k.arrive.read n
  | .link (.write bytes) => fun k => (.ok (), k.arrive.write bytes)
  | .link .poll => fun k => (!k.arrive.atHand.isEmpty, k.arrive)
  | .now => fun k => (0, k)
  | .sleep _ | .print _ => fun k => ((), k)
  | .openPort _ _ _ => fun k => (.error "no other port", k)
  | .readFile _ => fun k => (.error ⟨.notFound, none⟩, k)

/-- all that the host has still to read -/
def coming (k : Courier) : List UInt8 := k.atHand ++ k.onTheWay

variable {k : Courier}

theorem coming_arrive (k : Courier) : k.arrive.coming = k.coming := by
  show k.atHand ++ k.onTheWay.take _ ++ k.onTheWay.drop _ = k.atHand ++ k.onTheWay
  rw [List.append_assoc, List.take_append_drop]

theorem arrive_front {front rest : List UInt8} (split : k.onTheWay = front ++ rest)
    (h : k.arrivals k.queries = front.length) :
    k.arrive =
      { k with onTheWay := rest, atHand := k.atHand ++ front, queries := k.queries + 1 } := by
  rw [arrive, h, split, List.drop_left' rfl, List.take_left' rfl]

/-! ## Transfers -/

theorem run_poll (k : Courier) :
    (Link.poll : Talk Bool).run answer k = (.ok (!k.arrive.atHand.isEmpty), k.arrive) := rfl

theorem run_read {n : Nat} {front rest : List UInt8} (hand : k.arrive.atHand = front ++ rest)
    (length : front.length = n) :
    ∃ bytes, (Link.read n : Talk _).run answer k =
        (.ok (.ok bytes), { k.arrive with atHand := rest }) ∧ bytes.toList = front := by
  have transfer : (Link.read n : Talk _).run answer k =
      (.ok (k.arrive.read n).1, (k.arrive.read n).2) := rfl
  have taken : k.arrive.atHand.take n = front := by rw [hand, List.take_left' length]
  have left : k.arrive.atHand.drop n = rest := by rw [hand, List.drop_left' length]
  have enough : (k.arrive.atHand.take n).length = n := by rw [taken, length]
  rw [read, dif_pos enough, left] at transfer
  exact ⟨_, transfer, taken⟩

theorem run_read_short {n : Nat} (short : k.arrive.atHand.length < n) :
    (Link.read n : Talk _).run answer k = (.ok (.error .timedOut), k.arrive.starve) := by
  have transfer : (Link.read n : Talk _).run answer k =
      (.ok (k.arrive.read n).1, (k.arrive.read n).2) := rfl
  have less : ¬ (k.arrive.atHand.take n).length = n := by
    rw [List.length_take]
    omega
  rwa [read, dif_neg less] at transfer

/-- a read that succeeds takes the first of the bytes to come -/
theorem run_read_ok {n : Nat} {bytes : Vector UInt8 n} {k' : Courier}
    (h : (Link.read n : Talk _).run answer k = (.ok (.ok bytes), k')) :
    k.coming = bytes.toList ++ k'.coming := by
  by_cases short : k.arrive.atHand.length < n
  · rw [run_read_short short] at h
    cases h
  · have length : (k.arrive.atHand.take n).length = n := List.length_take_of_le (by omega)
    obtain ⟨bytes', ran, front⟩ := run_read (List.take_append_drop n _).symm length
    rw [ran] at h
    cases h
    rw [front, ← coming_arrive, coming, coming, ← List.append_assoc, List.take_append_drop]

theorem replay_starve (k : Courier) : k.starve.replay = k.replay := by
  rw [starve]
  split <;> rfl

/-- only writes reach the board -/
theorem replay_quiet {query : machine.Query} (quiet : isWrite query = false) (k : Courier) :
    (answer query k).2.replay = k.replay := by
  cases query with
  | link query =>
    cases query with
    | write bytes => cases quiet
    | poll => rfl
    | read n =>
      show (k.arrive.read n).2.replay = k.arrive.replay
      rw [read]
      split
      · rfl
      · exact k.arrive.replay_starve
  | now | sleep _ | print _ | openPort _ _ _ | readFile _ => rfl

theorem run_write (bytes : List UInt8) (k : Courier) :
    (demand (Link.write bytes) : Talk Unit).run answer k = (.ok (), k.arrive.write bytes) := rfl

theorem run_sendCommand (command : Command) (k : Courier) :
    (demand (Link.sendCommand command) : Talk Unit).run answer k =
      (.ok (), k.arrive.write command.encode) := rfl

theorem replay_write (bytes : List UInt8) (k : Courier) :
    (k.write bytes).replay = (k.replay.reply bytes).2 := rfl

theorem coming_write {bytes more : List UInt8} {r : Replay}
    (reply : k.replay.reply bytes = ([.bytes more], r)) :
    (k.write bytes).coming = k.coming ++ more := by
  have carriage : carried (k.replay.reply bytes).1 = more := by
    rw [reply]
    exact List.append_nil _
  show k.atHand ++ (k.onTheWay ++ carried _) = k.atHand ++ k.onTheWay ++ more
  rw [carriage, List.append_assoc]

end Courier

end FlashRescue
