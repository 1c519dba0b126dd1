import FlashRescue.Proofs.Checksum
import FlashRescue.Proofs.Host.Calls

/-!
# Replies that come late

A reply names neither its command nor its block, so a host that has moved on can take the reply to one
command for that to another.  What it takes for a checksum is settled when it asks for the last
time: by the bytes that are still to be read then.

* `Courier.answered`   the bytes that will be taken for a checksum;
* `Courier.Clear`      replies to other commands are out of the way, and replies arrive whole;
* `Courier.Vouches`    when the checksum that a call returns is that of its block;
* `checksum_vouched`   so it is in any sequence of calls;
* `late_reply_taken`   a call that returns the checksum of another block.
-/

namespace FlashRescue.Courier

open Host Host.Client Replay Dialogue Ledger

/-- the bytes after the first response of all that a host will read whose command gets this reply -/
def answered (k : Courier) (reply : List UInt8) : List UInt8 :=
  ((k.coming ++ reply).drop Response.width).take 4

def replies (reply : List UInt8) (n : Nat) : List UInt8 := (List.replicate n reply).flatten

/-- nothing but some of these replies is on its way, and from now on they arrive whole -/
structure Uncut (reply : List UInt8) (k : Courier) : Prop where
  onTheWay : ∃ n, k.onTheWay = replies reply n
  arrivals : ∀ q, k.queries ≤ q → reply.length ∣ k.arrivals q

/-- so it is once a call for the checksum of a block has dropped what is queued -/
def Clear (c : Client) (block : UInt16) (k : Courier) : Prop :=
  ∀ k₁, c.discard.run answer k = (.ok (), k₁) → k₁.Uncut (checksumReply k.flash block.toNat)

/-- when a call has returned the checksum of its block -/
structure Vouches (c : Client) {α : Type} (call : Talk α) (k : Courier) (block : UInt16) (v : UInt32) :
    Prop where
  /-- what was still to be read when the call sent its last command decides; right are late replies to
  the same command, and nothing at all -/
  decided : ∃ sending, call.lastly answer isWrite k = some sending ∧ sending.flash = k.flash ∧
    (v = FlashRescue.checksum (blockAt k.flash block.toNat) ↔
      sending.answered (checksumReply k.flash block.toNat) =
        ByteOrder.little.encode 4 (FlashRescue.checksum (blockAt k.flash block.toNat)).toNat) ∧
    ∀ n, sending.coming = replies (checksumReply k.flash block.toNat) n →
      v = FlashRescue.checksum (blockAt k.flash block.toNat)
  /-- attempts of the call itself do no harm -/
  clear : k.Clear c block → v = FlashRescue.checksum (blockAt k.flash block.toNat)

variable {b : Board} {content reply : List UInt8} {k k' : Courier} {c : Client} {block : UInt16}
  {v : UInt32}

/-! ## Replies -/

theorem replies_succ (reply : List UInt8) (n : Nat) :
    replies reply (n + 1) = reply ++ replies reply n := by
  rw [replies, List.replicate_succ, List.flatten_cons]
  rfl

theorem replies_concat (reply : List UInt8) (n : Nat) :
    replies reply n ++ reply = replies reply (n + 1) := by
  rw [replies, ← List.flatten_concat, ← List.replicate_succ']
  rfl

theorem drop_replies (reply : List UInt8) (m n : Nat) :
    (replies reply n).drop (reply.length * m) = replies reply (n - m) := by
  induction m generalizing n with
  | zero => rfl
  | succ m ih =>
    cases n with
    | zero =>
      rw [Nat.zero_sub]
      exact List.drop_nil
    | succ n =>
      rw [replies_succ, Nat.mul_succ, Nat.add_comm, ← List.drop_drop, List.drop_left' rfl, ih,
        Nat.add_sub_add_right]

theorem answered_replies {n : Nat}
    (coming : k.coming = replies (checksumReply content block.toNat) n) :
    k.answered (checksumReply content block.toNat) =
      ByteOrder.little.encode 4 (FlashRescue.checksum (blockAt content block.toNat)).toNat := by
  rw [answered, coming, replies_concat, replies_succ, checksumReply, List.append_assoc,
    List.drop_left' (Response.length_encode _), List.take_left' (ByteOrder.length_encode ..)]

theorem encode_checksum_inj {v w : UInt32} :
    ByteOrder.little.encode 4 v.toNat = ByteOrder.little.encode 4 w.toNat ↔ v = w := by
  constructor
  · intro same
    have numbers := congrArg (ByteOrder.decode .little) same
    rw [ByteOrder.decode_encode, ByteOrder.decode_encode] at numbers
    have range : ByteOrder.range 4 = 2 ^ 32 := rfl
    rw [range, Nat.mod_eq_of_lt v.toNat_lt, Nat.mod_eq_of_lt w.toNat_lt] at numbers
    exact UInt32.toNat_inj.mp numbers
  · intro same
    rw [same]

/-! ## One attempt -/

/-- two reads that succeed take the first of all that was to come, the reply to the command included -/
theorem checksumOnce_ok (stands : Stands b) (h : k.Waits b content)
    (can : readable b.flash.failing content block.toNat = true)
    (ran : (checksumOnce block).run answer k = (.ok v, k')) :
    (checksumOnce block).lastly answer isWrite k = some k ∧
      k.answered (checksumReply content block.toNat) = ByteOrder.little.encode 4 v.toNat := by
  obtain ⟨l, attends, rfl⟩ := h
  obtain ⟨_, k₁, command, rest⟩ := run_bind_eq_ok ran
  obtain ⟨_, k₂, ack, sum⟩ := run_bind_eq_ok rest
  have sent := run_sendCommand (.of .checksum block) k
  constructor
  · have silent : (do
        awaitAck .checksum block
        demand Link.readChecksum : Talk UInt32).lastly answer isWrite k₁ = none :=
      lastly_of_only (only_bind (only_awaitAck ..) fun _ => only_readChecksum)
    rw [checksumOnce, lastly_bind_ok command, silent]
    rfl
  · have k₁_eq : k₁ = k.arrive.write (Command.of .checksum block).encode := by
      cases command.symm.trans sent
      rfl
    obtain ⟨r', replied, -⟩ := reply_checksum stands attends can
    have coming : k₁.coming = k.coming ++ checksumReply l.content block.toNat := by
      rw [k₁_eq, coming_write (show k.arrive.replay.reply _ = _ from replied), coming_arrive]
    obtain ⟨first, read₁⟩ := awaitAck_ok ack
    obtain ⟨second, read₂, digits⟩ := readChecksum_ok sum
    rw [answered, ← coming, run_read_ok read₁, List.drop_left' (Vector.length_toList ..), run_read_ok read₂,
      List.take_left' (Vector.length_toList ..), digits]

theorem atHand_discard {k' : Courier} {done : Unit}
    (ran : c.discard.run answer k = (.ok done, k')) : k'.atHand = [] := by
  rw [Client.discard] at ran
  generalize c.rounds = rounds at ran
  induction rounds generalizing k with
  | zero => cases ran
  | succ rounds ih =>
    obtain ⟨queued, k₁, polled, rest⟩ := run_bind_eq_ok ran
    cases polled.symm.trans (run_poll k)
    cases empty : k.arrive.atHand.isEmpty with
    | true =>
      rw [empty] at rest
      cases rest
      exact List.isEmpty_iff.mp empty
    | false =>
      rw [empty] at rest
      obtain ⟨byte, k₂, read, rest⟩ := run_bind_eq_ok rest
      cases byte with
      | ok byte => exact ih rest
      | error e => cases rest

/-! ## Whole replies -/

theorem uncut_arrive (h : k.Uncut reply) : k.arrive.Uncut reply := by
  obtain ⟨n, same⟩ := h.onTheWay
  obtain ⟨m, whole⟩ := h.arrivals k.queries Nat.le.refl
  refine ⟨⟨n - m, ?_⟩, fun q later => h.arrivals q (Nat.le_of_succ_le later)⟩
  show k.onTheWay.drop (k.arrivals k.queries) = _
  rw [same, whole, drop_replies]

theorem uncut_answer (stands : Stands b) (can : readable b.flash.failing content block.toNat = true)
    {query : machine.Query} (writes : Writes (Command.of .checksum block).encode query)
    (waits : k.Waits b content) (h : k.Uncut (checksumReply content block.toNat)) :
    (answer query k).2.Uncut (checksumReply content block.toNat) := by
  have arrived := uncut_arrive h
  match query with
  | .link .poll => exact arrived
  | .link (.read n) =>
    show (k.arrive.read n).2.Uncut _
    rw [read]
    split
    · exact ⟨arrived.onTheWay, arrived.arrivals⟩
    · rw [starve]
      split
      · exact arrived
      · exact ⟨arrived.onTheWay, arrived.arrivals⟩
  | .link (.write bytes) =>
    obtain rfl : bytes = (Command.of .checksum block).encode := writes
    obtain ⟨l, attends, rfl⟩ := waits
    obtain ⟨r', replied, -⟩ := reply_checksum stands attends can
    obtain ⟨n, same⟩ := arrived.onTheWay
    refine ⟨⟨n + 1, ?_⟩, arrived.arrivals⟩
    show k.arrive.onTheWay ++ carried (k.arrive.replay.reply _).1 = _
    rw [show k.arrive.replay.reply _ = _ from replied, same, ← replies_concat]
    exact congrArg _ (List.append_nil _)
  | .now | .sleep _ | .print _ | .openPort _ _ _ | .readFile _ => exact h

theorem uncut_run {α : Type} (stands : Stands b)
    (can : readable b.flash.failing content block.toNat = true) {d : Talk α}
    (writes : d.Only (Writes (Command.of .checksum block).encode)) (waits : k.Waits b content)
    (h : k.Uncut (checksumReply content block.toNat)) :
    (d.run answer k).2.Uncut (checksumReply content block.toNat) := by
  have preserved (query : machine.Query) (s : Courier)
      (kind : Writes (Command.of .checksum block).encode query)
      (both : s.Waits b content ∧ s.Uncut (checksumReply content block.toNat)) :
      (answer query s).2.Waits b content ∧
        (answer query s).2.Uncut (checksumReply content block.toNat) :=
    ⟨waits_answer stands (by decide) (Request.outcome?_of (by decide) _ _) kind both.1,
      uncut_answer stands can kind both.1 both.2⟩
  have both : (fun s : Courier => s.Waits b content ∧ s.Uncut (checksumReply content block.toNat))
      (d.run answer k).2 := writes.run preserved ⟨waits, h⟩
  exact both.2

/-! ## Calls -/

section
variable (stands : Stands b) (h : k.Waits b content)
  (can : readable b.flash.failing content block.toNat = true)
  (ran : (c.checksum block).run answer k = (.ok v, k'))

include stands h can ran

/-- the last attempt of a call that was answered -/
theorem checksum_ok {P : Courier → Prop}
    (kept : ∀ s, s.Waits b content ∧ P s →
      P (c.discard.run answer s).2 ∧ P ((checksumOnce block).run answer s).2)
    (first : ∀ s, c.discard.run answer k = (.ok (), s) → P s) :
    ∃ sending, (c.checksum block).lastly answer isWrite k = some sending ∧ sending.Waits b content ∧
      P sending ∧ sending.atHand = [] ∧
      sending.answered (checksumReply content block.toNat) = ByteOrder.little.encode 4 v.toNat := by
  have kept' (s : Courier) (both : s.Waits b content ∧ P s) :
      ((c.discard.run answer s).2.Waits b content ∧ P (c.discard.run answer s).2) ∧
        ((checksumOnce block).run answer s).2.Waits b content ∧
          P ((checksumOnce block).run answer s).2 :=
    ⟨⟨waits_discard c both.1, (kept s both).1⟩,
      waits_checksum stands (only_checksumOnce block) both.1, (kept s both).2⟩
  have first' (s : Courier) (quiet : c.discard.run answer k = (.ok (), s)) :
      s.Waits b content ∧ P s := by
    have waits := waits_discard c h
    rw [quiet] at waits
    exact ⟨waits, first s quiet⟩
  obtain ⟨before, sending, quiet, ⟨waits, inv⟩, answered, last⟩ :=
    insist_ok (P := fun s => s.Waits b content ∧ P s) c kept' _ first' ran
  obtain ⟨sent, digits⟩ := checksumOnce_ok stands waits can answered
  exact ⟨sending, last sending sent, waits, inv, atHand_discard quiet, digits⟩

/-- replies to earlier attempts do as well as the reply to the last one -/
theorem checksum_clear (clear : ∀ s, c.discard.run answer k = (.ok (), s) →
      s.Uncut (checksumReply content block.toNat)) :
    v = FlashRescue.checksum (blockAt content block.toNat) := by
  have kept (s : Courier)
      (both : s.Waits b content ∧ s.Uncut (checksumReply content block.toNat)) :
      (c.discard.run answer s).2.Uncut (checksumReply content block.toNat) ∧
        ((checksumOnce block).run answer s).2.Uncut (checksumReply content block.toNat) :=
    ⟨uncut_run stands can (c.only_discard.mono (writes_of_quiet _)) both.1 both.2,
      uncut_run stands can (only_checksumOnce block) both.1 both.2⟩
  obtain ⟨sending, -, -, uncut, hand, digits⟩ := checksum_ok stands h can ran kept clear
  obtain ⟨n, same⟩ := uncut.onTheWay
  have coming : sending.coming = replies (checksumReply content block.toNat) n := by
    rw [coming, hand, same]
    rfl
  rw [answered_replies coming] at digits
  exact (encode_checksum_inj.mp digits).symm

end

/-! ## A reply that is late -/

/-- what is at hand and what is on its way at the query with this number, while the board waits for a
command -/
structure Laden (k : Courier) (b : Board) (content hand pending : List UInt8)
    (schedule : Nat → Nat) (q : Nat) : Prop where
  duplex : k.grip = .duplex
  waits : k.Waits b content
  atHand : k.atHand = hand
  onTheWay : k.onTheWay = pending
  arrivals : k.arrivals = schedule
  queries : k.queries = q

section
variable {hand pending front rest : List UInt8} {schedule : Nat → Nat} {q n : Nat}

theorem Laden.arrive (h : k.Laden b content hand (front ++ rest) schedule q)
    (due : schedule q = front.length) : k.arrive.Laden b content (hand ++ front) rest schedule (q + 1) := by
  have arrivals : k.arrivals k.queries = front.length := by rw [h.arrivals, h.queries, due]
  rw [arrive_front h.onTheWay arrivals]
  exact ⟨h.duplex, h.waits, congrArg (· ++ front) h.atHand, rfl, h.arrivals,
    congrArg (· + 1) h.queries⟩

theorem Laden.idle (h : k.Laden b content hand pending schedule q) (none : schedule q = 0) :
    k.arrive.Laden b content hand pending schedule (q + 1) := by
  have arrived : k.arrive.Laden b content (hand ++ []) pending schedule (q + 1) := h.arrive none
  rwa [List.append_nil] at arrived

theorem Laden.read (h : k.arrive.Laden b content (front ++ rest) pending schedule q)
    (length : front.length = n) :
    ∃ bytes k', (Link.read n : Talk _).run answer k = (.ok (.ok bytes), k') ∧
      bytes.toList = front ∧ k'.Laden b content rest pending schedule q := by
  obtain ⟨bytes, ran, same⟩ := run_read h.atHand length
  exact ⟨bytes, _, ran, same, h.duplex, h.waits, rfl, h.onTheWay, h.arrivals, h.queries⟩

theorem Laden.send (stands : Stands b) (h : k.Laden b content hand pending schedule q)
    (can : readable b.flash.failing content block.toNat = true) :
    (k.write (Command.of .checksum block).encode).Laden b content hand
      (pending ++ checksumReply content block.toNat) schedule q := by
  obtain ⟨l, attends, rfl⟩ := h.waits
  obtain ⟨r, replied, attends'⟩ := reply_checksum stands attends can
  refine ⟨h.duplex, ?_, h.atHand, ?_, h.arrivals, h.queries⟩
  · refine ⟨l.say (checksumReply l.content block.toNat), ?_, rfl⟩
    rw [replay_write, replied]
    exact attends'
  · show k.onTheWay ++ carried (k.replay.reply _).1 = _
    rw [replied, h.onTheWay]
    exact congrArg _ (List.append_nil _)

theorem run_discard_idle (rounds : c.rounds ≠ 0) (h : k.Laden b content [] pending schedule q)
    (none : schedule q = 0) : c.discard.run answer k = (.ok (), k.arrive) := by
  refine run_discard rounds ?_
  rw [run_poll, (h.idle none).atHand]
  rfl

/-- an attempt whose reply does not come in time -/
theorem run_checksumOnce_late (stands : Stands b) (h : k.Laden b content [] pending schedule q)
    (can : readable b.flash.failing content block.toNat = true) (none : schedule q = 0)
    (none' : schedule (q + 1) = 0) :
    ∃ k', (checksumOnce block).run answer k = (.error (.failed (.packet .timedOut)), k') ∧
      k'.Laden b content []
        (pending ++ checksumReply content block.toNat) schedule (q + 2) := by
  have waited := ((h.idle none).send stands can).idle none'
  have short : (k.arrive.write (Command.of .checksum block).encode).arrive.atHand.length <
      Response.width := by
    rw [waited.atHand]
    decide
  refine ⟨_, ?_, waited⟩
  have unanswered := run_awaitAck_error (run_read_short short) .checksum block
  rw [starve, waited.duplex] at unanswered
  rw [checksumOnce, run_bind_ok (run_sendCommand (.of .checksum block) k)]
  exact run_bind_error unanswered

/-- an attempt that is told the checksum that an earlier command asked for -/
theorem run_checksumOnce_stale (stands : Stands b) {crc : UInt32} (h : k.Laden b content []
      (Response.ack.encode ++ ByteOrder.little.encode 4 crc.toNat ++ pending) schedule q)
    (can : readable b.flash.failing content block.toNat = true) (none : schedule q = 0)
    (reply : schedule (q + 1) = 7) (none' : schedule (q + 2) = 0) :
    ∃ k', (checksumOnce block).run answer k = (.ok crc, k') ∧
      k'.Laden b content []
        (pending ++ checksumReply content block.toNat) schedule (q + 3) := by
  have sent := (h.idle none).send stands can
  rw [List.append_assoc] at sent
  have arrived := sent.arrive reply
  rw [List.nil_append] at arrived
  obtain ⟨ack, k₂, read₂, ack_eq, laden₂⟩ := arrived.read (Response.length_encode .ack)
  have waiting := laden₂.idle none'
  rw [← List.append_nil (ByteOrder.encode ..)] at waiting
  obtain ⟨sum, k₃, read₃, sum_eq, laden₃⟩ := waiting.read (ByteOrder.length_encode ..)
  refine ⟨k₃, ?_, laden₃⟩
  rw [checksumOnce, run_bind_ok (run_sendCommand (.of .checksum block) k),
    run_bind_ok (run_awaitAck read₂ ack_eq .checksum block)]
  exact run_readChecksum read₃ crc sum_eq

end

/-- a marked block and an erased one -/
def markedBoard : Board := (Board.standard 2).withCells (markedBlock ++ erasedBlock).toByteArray

/-- the reply to the first command comes after the second, the reply to that one after the third -/
def lateCourier : Courier where
  replay := { board := markedBoard, bootstrap := false }
  arrivals q := if q = 5 ∨ q = 9 then 7 else 0

theorem stands_markedBoard : Stands markedBoard := (stands_standard 2).withCells _

theorem content_markedBoard : markedBoard.flash.content = markedBlock ++ erasedBlock := by
  rw [markedBoard, content_withCells, List.data_toByteArray]

theorem blockAt_marked : blockAt (markedBlock ++ erasedBlock) 0 = markedBlock := by
  rw [blockAt, Nat.zero_mul, List.drop_zero, List.take_left' length_markedBlock]

theorem blockAt_erased : blockAt (markedBlock ++ erasedBlock) 1 = erasedBlock := by
  rw [blockAt, Nat.one_mul, List.drop_left' length_markedBlock,
    List.take_of_length_le (Nat.le_of_eq length_erasedBlock)]

theorem readable_marked {block : Nat} (inside : block < 2) :
    readable markedBoard.flash.failing (markedBlock ++ erasedBlock) block = true := by
  have count : blockCount (markedBlock ++ erasedBlock) = 2 := by
    rw [blockCount, List.length_append, length_markedBlock, length_erasedBlock]
    rfl
  have failing : markedBoard.flash.failing = {} := by
    rw [markedBoard, failing_withCells]
    rfl
  simp [readable, count, inside, failing]

theorem rounds_default : ({} : Client).rounds ≠ 0 := by decide

theorem waits_lateCourier : lateCourier.Waits markedBoard (markedBlock ++ erasedBlock) :=
  ⟨_, attends_start, (Board.content_ledger ..).trans content_markedBoard⟩

/-- a call whose first attempt times out, and whose second one is told what the first one asked for -/
theorem run_checksum_retried : ∃ k, (Client.checksum {} 0).run answer lateCourier =
      (.ok (FlashRescue.checksum markedBlock), k) ∧
    k.Laden markedBoard (markedBlock ++ erasedBlock) []
      (Response.ack.encode ++ ByteOrder.little.encode 4 (FlashRescue.checksum markedBlock).toNat ++ [])
      lateCourier.arrivals 7 := by
  have start : lateCourier.Laden markedBoard (markedBlock ++ erasedBlock) [] []
      lateCourier.arrivals 0 :=
    ⟨rfl, waits_lateCourier, rfl, rfl, rfl, rfl⟩
  have can : readable markedBoard.flash.failing (markedBlock ++ erasedBlock)
      (0 : UInt16).toNat = true := readable_marked (by decide)
  have pending : [] ++ checksumReply (markedBlock ++ erasedBlock) (0 : UInt16).toNat =
      Response.ack.encode ++ ByteOrder.little.encode 4 (FlashRescue.checksum markedBlock).toNat ++ [] := by
    have zero : (0 : UInt16).toNat = 0 := rfl
    rw [checksumReply, zero, blockAt_marked, List.nil_append, List.append_nil]
  have quiet := run_discard_idle rounds_default start rfl
  obtain ⟨k', late, laden⟩ := run_checksumOnce_late stands_markedBoard (start.idle rfl) can rfl rfl
  rw [pending] at laden
  have quiet' := run_discard_idle rounds_default laden rfl
  obtain ⟨k, again, laden'⟩ :=
    run_checksumOnce_stale stands_markedBoard (laden.idle rfl) can rfl rfl rfl
  rw [pending] at laden'
  exact ⟨k, (run_insist_late {} 2 quiet late rfl).trans (run_insist {} 2 quiet' again), laden'⟩

/-! ## Any calls -/

/-- in any sequence of calls, on any schedule: what a call takes for the checksum of its block is that
checksum if and only if the bytes say so that are still to be read when it last asks; surely if these
are late replies to the same command, and if the replies to others were out of the way when it began.
So it is with a block that is left as it is -/
theorem checksum_vouched {k₀ : Courier} (stands : Stands b) (waits : k₀.Waits b content)
    (calls : Calls k₀ k) (c : Client) (block : UInt16)
    (can : readable b.flash.failing k.flash block.toNat = true) :
    (∀ v k', (c.checksum block).run answer k = (.ok v, k') →
      k'.flash = k.flash ∧ Vouches c (c.checksum block) k block v) ∧
    ∀ data k', (c.sync block data).run answer k = (.ok .unchanged, k') →
      k'.flash = k.flash ∧ Vouches c (c.sync block data) k block (FlashRescue.checksum data) := by
  obtain ⟨now, waits'⟩ := calls.waits stands waits
  have flash := waits'.flash stands
  rw [flash] at can
  have asked (v : UInt32) (k' : Courier) (ran : (c.checksum block).run answer k = (.ok v, k')) :
      k'.flash = k.flash ∧ Vouches c (c.checksum block) k block v := by
    have after := waits_checksum stands (c.only_checksum block) waits'
    rw [ran] at after
    obtain ⟨sending, last, waiting, -, -, digits⟩ :=
      checksum_ok (P := fun _ => True) stands waits' can ran (fun _ _ => ⟨trivial, trivial⟩)
        fun _ _ => trivial
    have exactly : v = FlashRescue.checksum (blockAt now block.toNat) ↔
        sending.answered (checksumReply now block.toNat) =
          ByteOrder.little.encode 4 (FlashRescue.checksum (blockAt now block.toNat)).toNat := by
      rw [digits, encode_checksum_inj]
    refine ⟨(after.flash stands).trans flash.symm, ?_, ?_⟩
    · rw [flash]
      exact ⟨sending, last, waiting.flash stands, exactly, fun n coming =>
        exactly.mpr (answered_replies coming)⟩
    · intro clear
      rw [Clear, flash] at clear
      rw [flash]
      exact checksum_clear stands waits' can ran clear
  refine ⟨asked, ?_⟩
  intro data k' ran
  obtain ⟨v, k₁, checked, rest⟩ := run_bind_eq_ok ran
  obtain ⟨after, vouches⟩ := asked v k₁ checked
  by_cases equal : v = FlashRescue.checksum data
  · rw [if_pos equal] at rest
    cases rest
    rw [← equal]
    refine ⟨after, ?_, vouches.clear⟩
    obtain ⟨sending, last, decided⟩ := vouches.decided
    refine ⟨sending, ?_, decided⟩
    rw [sync, lastly_bind_ok checked, if_pos equal, last]
    rfl
  · rw [if_neg equal] at rest
    obtain ⟨_, k₂, -, ended⟩ := run_bind_eq_ok rest
    cases ended

/-- the first of two late replies -/
theorem checksum_vouched_retried :
    (Stands markedBoard ∧ lateCourier.Waits markedBoard (markedBlock ++ erasedBlock) ∧
      Calls lateCourier lateCourier ∧
      readable markedBoard.flash.failing lateCourier.flash (0 : UInt16).toNat = true) ∧
    ∃ k, (Client.checksum {} 0).run answer lateCourier = (.ok (FlashRescue.checksum markedBlock), k) ∧
      k.flash = lateCourier.flash ∧
      Vouches {} (Client.checksum {} 0) lateCourier 0 (FlashRescue.checksum markedBlock) := by
  have can : readable markedBoard.flash.failing lateCourier.flash (0 : UInt16).toNat = true := by
    rw [waits_lateCourier.flash stands_markedBoard]
    exact readable_marked (by decide)
  obtain ⟨k, ran, -⟩ := run_checksum_retried
  exact ⟨⟨stands_markedBoard, waits_lateCourier, .none, can⟩, k, ran,
    (checksum_vouched stands_markedBoard waits_lateCourier .none {} 0 can).1 _ k ran⟩

/-- A board that answers each CHECKSUM: the first block is asked for and its reply comes late, so it is
asked for once more.  The second reply is then taken for that to a CHECKSUM of the second block, and a
sync leaves that block as it is though it should hold what the first one holds -/
theorem late_reply_taken :
    Stands markedBoard ∧ ∃ k₁ k₂ k₃ : Courier, ∃ v : UInt32,
      (Client.checksum {} 0).run answer lateCourier = (.ok (FlashRescue.checksum markedBlock), k₁) ∧
      (Client.checksum {} 1).run answer k₁ = (.ok v, k₂) ∧
      (Client.sync {} 1 markedBlock).run answer k₁ = (.ok .unchanged, k₃) ∧
      (∀ k ∈ [lateCourier, k₁, k₂, k₃], k.flash = markedBlock ++ erasedBlock) ∧
      v ≠ FlashRescue.checksum (blockAt k₂.flash 1) ∧
      FlashRescue.checksum (blockAt k₃.flash 1) ≠ FlashRescue.checksum markedBlock := by
  obtain ⟨k₁, first, laden₁⟩ := run_checksum_retried
  have can : readable markedBoard.flash.failing (markedBlock ++ erasedBlock)
      (1 : UInt16).toNat = true := readable_marked (by decide)
  have quiet := run_discard_idle rounds_default laden₁ rfl
  obtain ⟨k₂, wrong, laden₂⟩ :=
    run_checksumOnce_stale stands_markedBoard (laden₁.idle rfl) can rfl rfl rfl
  have second : (Client.checksum {} 1).run answer k₁ =
      (.ok (FlashRescue.checksum markedBlock), k₂) := run_insist {} 3 quiet wrong
  have third : (Client.sync {} 1 markedBlock).run answer k₁ = (.ok .unchanged, k₂) := by
    rw [sync, run_bind_ok second, if_pos rfl]
    rfl
  have flash₂ := laden₂.waits.flash stands_markedBoard
  have differ : FlashRescue.checksum (blockAt k₂.flash 1) ≠ FlashRescue.checksum markedBlock := by
    rw [flash₂, blockAt_erased]
    exact checksum_markedBlock
  refine ⟨stands_markedBoard, k₁, k₂, k₂, _, first, second, third, ?_, differ.symm, differ⟩
  intro k mem
  simp only [List.mem_cons, List.not_mem_nil, or_false] at mem
  rcases mem with rfl | rfl | rfl | rfl
  · exact waits_lateCourier.flash stands_markedBoard
  · exact laden₁.waits.flash stands_markedBoard
  · exact flash₂
  · exact flash₂

end FlashRescue.Courier
