import FlashRescue.Bench.Desk
import FlashRescue.Proofs.Bench.Replay
import FlashRescue.Proofs.Host.Talk

/-!
# A host and a board on a lossless cable

The transfers of a host whose cable ends at a replayed board: what it writes the board hears at once, and
what the board answers is at hand.

* `Desk.Linked`            the two ends: the ledger of the board, the request it is in the middle of, and
                           what the host has not read yet;
* `run_read`, `run_read_short`, `run_poll`  the host's reads;
* `run_write`, `run_write_finish`  its writes.
-/

namespace FlashRescue.Desk

open Host Replay

/-- a host on a lossless cable to a board -/
structure Linked (d : Desk) (b : Board) (l : Ledger) (remnant queue : List UInt8) : Prop where
  duplex : d.cable.grip = .duplex
  connected : d.cable.connected = true
  settled : d.cable.deliveries = []
  queued : d.cable.atHand = queue
  remote : ∃ r, d.cable.remote = .replayed r ∧ r.Attends b l remnant

variable {d : Desk} {b : Board} {l : Ledger} {remnant queue : List UInt8}

/-! ## Reads -/

theorem run_poll (h : Linked d b l remnant queue) :
    (Link.poll : Talk Bool).run answer d = (.ok (!queue.isEmpty), d) := by
  have polled : (Link.poll : Talk Bool).run answer d = (.ok d.cable.poll, d) := rfl
  rw [polled, Cable.poll, h.duplex, h.queued]

theorem run_read (h : Linked d b l remnant queue) {front rest : List UInt8} {n : Nat}
    (split : queue = front ++ rest) (length : front.length = n) :
    ∃ bytes d', (Link.read n : Talk _).run answer d = (.ok (.ok bytes), d') ∧
      bytes.toList = front ∧ Linked d' b l remnant rest := by
  have hand : d.cable.atHand = front ++ rest := h.queued.trans split
  have taken : d.cable.atHand.take n = front := by rw [hand, List.take_left' length]
  have enough : (d.cable.atHand.take n).length = n := by rw [taken, length]
  have transfer : (Link.read n : Talk _).run answer d =
      (.ok (d.cable.read n).1, { d with cable := (d.cable.read n).2 }) := rfl
  rw [Cable.read, dif_pos enough] at transfer
  refine ⟨_, _, transfer, taken, h.duplex, h.connected, h.settled, ?_, h.remote⟩
  show d.cable.atHand.drop n = rest
  rw [hand, List.drop_left' length]

/-- a read that asks for more than is there waits in vain, and takes nothing -/
theorem read_short {c : Cable} (duplex : c.grip = .duplex) (connected : c.connected = true)
    (settled : c.deliveries = []) {n : Nat} (short : c.atHand.length < n) :
    ∃ now, c.read n = (.error .timedOut, { c with now }) := by
  have less : ¬ (c.atHand.take n).length = n := by
    rw [List.length_take]
    omega
  rw [Cable.read, dif_neg less]
  obtain ⟨grip, timeoutMs, remote, deliveries, atHand, connected, sent, now⟩ := c
  cases duplex
  cases connected
  cases settled
  refine ⟨now + timeoutMs * Timing.nsPerMs.toNat, ?_⟩
  simp only [Cable.starve, Cable.settle, Cable.collect, List.drop_nil, List.append_nil, if_true,
    Bool.not_false, Bool.and_self]

theorem run_read_short (h : Linked d b l remnant queue) {n : Nat} (short : queue.length < n) :
    ∃ d', (Link.read n : Talk _).run answer d = (.ok (.error .timedOut), d') ∧
      Linked d' b l remnant queue := by
  have transfer : (Link.read n : Talk _).run answer d =
      (.ok (d.cable.read n).1, { d with cable := (d.cable.read n).2 }) := rfl
  obtain ⟨now, waited⟩ := read_short h.duplex h.connected h.settled (h.queued ▸ short)
  rw [waited] at transfer
  exact ⟨_, transfer, h.duplex, h.connected, h.settled, h.queued, h.remote⟩

/-! ## Writes -/

theorem run_write_replayed (h : Linked d b l remnant queue) {r r' : Replay} {bytes more : List UInt8}
    (remote : d.cable.remote = .replayed r) (reply : r.reply bytes = ([.bytes more], r')) :
    ∃ d', (demand (Link.write bytes) : Talk Unit).run answer d = (.ok (), d') ∧
      d'.cable.grip = .duplex ∧ d'.cable.connected = true ∧ d'.cable.deliveries = [] ∧
      d'.cable.atHand = queue ++ more ∧ d'.cable.remote = .replayed r' := by
  have written : d.cable.write bytes = (.ok (), Cable.settle
      { d.cable with
        remote := .replayed r'
        deliveries := [.bytes more]
        sent := d.cable.sent ++ bytes }) := by
    rw [Cable.write, if_pos h.connected, remote, Remote.reply, reply, h.settled]
    rfl
  have transfer : (Link.write bytes : Talk _).run answer d =
      (.ok (d.cable.write bytes).1, { d with cable := (d.cable.write bytes).2 }) := rfl
  rw [written] at transfer
  refine ⟨_, run_demand_ok transfer, h.duplex, ?_, rfl, ?_, rfl⟩
  · show (d.cable.connected && !false) = true
    rw [h.connected]
    rfl
  · show d.cable.atHand ++ (more ++ []) = queue ++ more
    rw [h.queued, List.append_nil]

/-- what the board replies is at hand -/
theorem run_write (h : Linked d b l remnant queue) {bytes more remnant' : List UInt8} {l' : Ledger}
    (reply : ∀ r : Replay, r.Attends b l remnant →
      ∃ r', r.reply bytes = ([.bytes more], r') ∧ r'.Attends b l' remnant') :
    ∃ d', (demand (Link.write bytes) : Talk Unit).run answer d = (.ok (), d') ∧
      Linked d' b l' remnant' (queue ++ more) := by
  obtain ⟨r, remote, attends⟩ := h.remote
  obtain ⟨r', replied, attends'⟩ := reply r attends
  obtain ⟨d', written, duplex, connected, settled, queued, remote'⟩ :=
    run_write_replayed h remote replied
  exact ⟨d', written, duplex, connected, settled, queued, r', remote', attends'⟩

/-- a write that ends the session -/
theorem run_write_finish (stands : Stands b) (h : Linked d b l [] queue) {q : Request}
    {outcome : Device.Outcome} (whole : q.Whole) (ends : q.outcome? = some outcome) :
    ∃ d' r', (demand (Link.write q.encode) : Talk Unit).run answer d = (.ok (), d') ∧
      d'.cable.remote = .replayed r' ∧ r'.outcome.1 = .ok outcome ∧
      ∃ nacks, r'.outcome.2.ledger nacks =
        l.take b.config.chunkSize.toNat b.flash.failing q := by
  obtain ⟨r, remote, attends⟩ := h.remote
  obtain ⟨r', replied, finished⟩ := reply_finish stands attends whole ends
  obtain ⟨d', written, _, _, _, _, remote'⟩ := run_write_replayed h remote replied
  exact ⟨d', r', written, remote', finished⟩

end FlashRescue.Desk
