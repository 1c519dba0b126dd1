import FlashRescue.Bench.Desk
import FlashRescue.Proofs.Host.Acknowledgement
import Mathlib.Algebra.Order.Floor.Div

/-!
# A block is streamed piece by piece

What is on the line when a block is written, whatever the machine replies: the command and then the content in
chunks, each of them only once the one before it was acknowledged, and none twice.

* `Client.pieces`    what is sent for a WRITE; `write_eq`: it is sent piece by piece;
* `Host.Posted`      the ways in which pieces can go; `recorded_posted`: there are no others;
* `Posted.in_turn`   the piece that is written next is the one with the number of ACKs so far;
* `Host.Written`     the ways in which a block can be written; `recorded_written`: there are no others;
* `stop_and_wait`    at most one piece is unacknowledged, and a write works out just if all of them went out and
                     were acknowledged.
-/

namespace FlashRescue.Host

open Dialogue

namespace Client

/-- what is sent for a WRITE: the command, and then the content in chunks -/
def pieces (c : Client) (block : UInt16) (data : List UInt8) : List (List UInt8) :=
  (Command.of .write block).encode :: chunks c.chunkSize.toNat data

theorem length_pieces (c : Client) (block : UInt16) {data : List UInt8} (full : data.length = blockSize)
    (some_ : c.chunkSize ≠ 0) : (c.pieces block data).length = 1 + blockSize ⌈/⌉ c.chunkSize.toNat := by
  have positive : c.chunkSize.toNat ≠ 0 := fun zero => some_ (UInt64.toNat_inj.mp zero)
  rw [pieces, List.length_cons, chunks, List.length_map, List.length_range, full, Nat.add_comm,
    Nat.ceilDiv_eq_add_pred_div, Nat.add_sub_assoc (Nat.one_le_iff_ne_zero.mpr positive)]

theorem write_refused (c : Client) (block : UInt16) {data : List UInt8} (other : data.length ≠ blockSize) :
    c.write block data = throw (.invalidImage
      ("block is " ++ toString data.length ++ " bytes, expected " ++ toString blockSize)) := if_pos other

theorem write_eq (c : Client) (some_ : c.chunkSize ≠ 0) (block : UInt16) {data : List UInt8}
    (full : data.length = blockSize) :
    c.write block data = (c.discard >>= fun _ => (c.pieces block data).forM (sendChunk block)) := by
  rw [write, if_neg (not_not_intro full), if_neg some_, pieces]
  refine congrArg (c.discard >>= ·) (funext fun _ => ?_)
  exact (Dialogue.bind_assoc (demand (Link.sendCommand (.of .write block))) (fun _ => awaitAck .write block)
    fun _ => (chunks c.chunkSize.toNat data).forM (sendChunk block)).symm

end Client

/-! ## Pieces -/

/-- the ways in which pieces can go that are sent one after the other -/
inductive Posted (block : UInt16) : List (List UInt8) → List Call → Except (Stop Error) Unit → Prop
  | done : Posted block [] [] (.ok ())
  /-- one of them is not acknowledged, and the others are not sent -/
  | cut {piece : List UInt8} {pieces : List (List UInt8)} {calls : List Call} {why : Stop Error}
      (handed : Handed .write block piece calls (.error why)) :
      Posted block (piece :: pieces) calls (.error why)
  | next {piece : List UInt8} {pieces : List (List UInt8)} {calls rest : List Call}
      {ended : Except (Stop Error) Unit} (taken : Taken piece calls) (more : Posted block pieces rest ended) :
      Posted block (piece :: pieces) (calls ++ rest) ended

section
variable {σ : Type} {answer : machine.Answerer σ} {s s' : σ} {calls calls' before after : List Call}
  {block : UInt16} {pieces : List (List UInt8)} {bytes : List UInt8} {reply : Except LinkError Unit}
  {ended : Except (Stop Error) Unit}

theorem recorded_posted (h : Recorded answer (pieces.forM (Client.sendChunk block)) s calls ended s') :
    Posted block pieces calls ended := by
  induction pieces generalizing s calls with
  | nil =>
    obtain ⟨rfl, rfl, -⟩ := h.unique (recorded_done PUnit.unit s)
    exact .done
  | cons piece pieces ih =>
    have sending : Recorded answer (Client.sendChunk block piece >>= fun _ =>
      pieces.forM (Client.sendChunk block)) s calls ended s' := h
    rcases sending.of_bind with ⟨why, rfl, stopped⟩ | ⟨first, _, s₁, rest, rfl, went, later⟩
    · exact .cut (Client.recorded_handed stopped)
    · exact .next (Client.recorded_handed went).of_ok (ih later)

/-- what is written after calls that write nothing is written later -/
theorem split_silent (silent : packets calls = [])
    (split : calls ++ calls' = before ++ ⟨.link (.write bytes), reply⟩ :: after) :
    ∃ between, before = calls ++ between ∧ calls' = between ++ ⟨.link (.write bytes), reply⟩ :: after := by
  rcases List.append_eq_append_iff.mp split with ⟨between, rfl, same⟩ | ⟨between, rfl, same⟩
  · exact ⟨between, rfl, same⟩
  · cases between with
    | nil => exact ⟨[], by rw [List.append_nil, List.append_nil], same.symm⟩
    | cons call between =>
      obtain ⟨rfl, -⟩ := List.cons.inj same
      rw [packets_append] at silent
      cases (List.append_eq_nil_iff.mp silent).2

/-- what is written from a packet on is the packet itself, or it is written after it -/
theorem Handed.split {op : Opcode} {piece : List UInt8} (h : Handed op block piece calls ended)
    (split : calls ++ calls' = before ++ ⟨.link (.write bytes), reply⟩ :: after) :
    before = [] ∧ bytes = piece ∨
      ∃ between, before = calls ++ between ∧ calls' = between ++ ⟨.link (.write bytes), reply⟩ :: after := by
  obtain ⟨replied, tail, rfl, quiet⟩ := h.begins
  cases before with
  | nil =>
    cases (List.cons.inj split).1
    exact .inl ⟨rfl, rfl⟩
  | cons call before =>
    obtain ⟨rfl, later⟩ := List.cons.inj split
    obtain ⟨between, rfl, same⟩ := split_silent (packets_quiet quiet) later
    exact .inr ⟨between, rfl, same⟩

/-- a piece is written when those before it were acknowledged, and nothing but them was written until then -/
theorem Posted.in_turn (h : Posted block pieces calls ended)
    (split : calls = before ++ ⟨.link (.write bytes), reply⟩ :: after) :
    pieces[acks before]? = some bytes ∧ packets before = pieces.take (acks before) := by
  induction h generalizing before with
  | done => cases (List.append_eq_nil_iff.mp split.symm).2
  | cut handed =>
    rcases handed.split ((List.append_nil _).trans split) with ⟨rfl, rfl⟩ | ⟨between, -, none_⟩
    · exact ⟨rfl, rfl⟩
    · cases (List.append_eq_nil_iff.mp none_.symm).2
  | next taken more ih =>
    have handed : Handed .write block _ _ (.ok ()) := .taken taken
    rcases handed.split split with ⟨rfl, rfl⟩ | ⟨between, rfl, later⟩
    · exact ⟨rfl, rfl⟩
    · obtain ⟨next, earlier⟩ := ih later
      rw [acks_append, taken.acks, Nat.add_comm, packets_append, handed.packets, earlier]
      exact ⟨next, rfl⟩

/-- the first pieces go out, each of them once -/
theorem Posted.sent_eq (h : Posted block pieces calls ended) :
    ∃ j ≤ pieces.length, sent calls = (pieces.take j).flatten := by
  induction h with
  | done => exact ⟨0, Nat.le_refl 0, rfl⟩
  | cut handed =>
    rcases handed.of_error.1 with none_ | one
    · exact ⟨0, Nat.zero_le _, none_⟩
    · refine ⟨1, Nat.le_add_left .., ?_⟩
      rw [one, List.take_succ_cons, List.take_zero, List.flatten_singleton]
  | next taken more ih =>
    obtain ⟨j, le, same⟩ := ih
    refine ⟨j + 1, Nat.succ_le_succ le, ?_⟩
    rw [sent_append, taken.sent_eq, same, List.take_succ_cons, List.flatten_cons]

theorem Posted.of_ok (h : Posted block pieces calls (.ok ())) :
    sent calls = pieces.flatten ∧ acks calls = pieces.length ∧ Unbroken .write block calls := by
  generalize same : (.ok () : Except (Stop Error) Unit) = ended at h
  induction h with
  | done => exact ⟨rfl, rfl, nofun⟩
  | cut handed => cases same
  | next taken more ih =>
    obtain ⟨all, count, unbroken⟩ := ih same
    refine ⟨?_, ?_, taken.unbroken.append unbroken⟩
    · rw [sent_append, taken.sent_eq, all, List.flatten_cons]
    · rw [acks_append, taken.acks, count, List.length_cons, Nat.add_comm]

theorem Posted.of_error {why : Stop Error} (h : Posted block pieces calls (.error why)) :
    acks calls < pieces.length ∧ ∃ e, why = .failed e ∧ BrokenOff .write block calls e := by
  generalize same : (.error why : Except (Stop Error) Unit) = ended at h
  induction h with
  | done => cases same
  | cut handed =>
    cases same
    obtain ⟨-, none_, broken⟩ := handed.of_error
    exact ⟨none_ ▸ Nat.zero_lt_succ _, broken⟩
  | next taken more ih =>
    obtain ⟨fewer, e, failed, broken⟩ := ih same
    refine ⟨?_, e, failed, broken.after taken.unbroken⟩
    rw [acks_append, taken.acks, List.length_cons, Nat.add_comm]
    exact Nat.succ_lt_succ fewer

/-! ## A whole block -/

/-- the ways in which a block can be written -/
inductive Written (c : Client) (block : UInt16) (data : List UInt8) :
    List Call → Except (Stop Error) Unit → Prop
  /-- what was queued cannot be thrown away -/
  | clogged {calls : List Call} {why : Stop Error} (clogged : Clogged c calls why) :
      Written c block data calls (.error why)
  | posted {thrown calls : List Call} {ended : Except (Stop Error) Unit} (drained : Drained thrown)
      (posted : Posted block (c.pieces block data) calls ended) : Written c block data (thrown ++ calls) ended

variable {c : Client} {data : List UInt8}

theorem recorded_written (some_ : c.chunkSize ≠ 0) (full : data.length = blockSize)
    (h : Recorded answer (c.write block data) s calls ended s') : Written c block data calls ended := by
  rw [c.write_eq some_ block full] at h
  rcases h.of_bind with ⟨why, rfl, stopped⟩ | ⟨thrown, _, s₁, rest, rfl, drain, posting⟩
  · exact .clogged (Client.recorded_clogged stopped)
  · exact .posted (Client.recorded_discard drain) (recorded_posted posting)

theorem Written.in_turn (h : Written c block data calls ended)
    (split : calls = before ++ ⟨.link (.write bytes), reply⟩ :: after) :
    (c.pieces block data)[acks before]? = some bytes ∧
      packets before = (c.pieces block data).take (acks before) := by
  cases h with
  | clogged clogged =>
    obtain ⟨between, -, none_⟩ := split_silent clogged.silent ((List.append_nil _).trans split)
    cases (List.append_eq_nil_iff.mp none_.symm).2
  | posted drained posted =>
    obtain ⟨between, rfl, later⟩ := split_silent drained.silent split
    rw [acks_append, drained.acks, Nat.zero_add, packets_append, drained.silent, List.nil_append]
    exact posted.in_turn later

theorem eq_write {call : Call} (writes : isWrite call.query = true) :
    ∃ bytes reply, call = ⟨.link (.write bytes), reply⟩ := by
  obtain ⟨query, reply⟩ := call
  cases query with
  | link query =>
    cases query with
    | write bytes => exact ⟨bytes, reply, rfl⟩
    | read _ | poll => cases writes
  | now | sleep _ | print _ | openPort _ _ _ | readFile _ => cases writes

/-- at no time is more than one piece unacknowledged -/
theorem Written.pending (h : Written c block data calls ended) {front : List Call} (begins : front <+: calls) :
    (packets front).length ≤ acks front + 1 := by
  induction front using List.reverseRecOn with
  | nil => exact Nat.zero_le _
  | append_singleton front call ih =>
    obtain ⟨rest, whole⟩ := begins
    rw [List.append_assoc] at whole
    rw [packets_append, acks_append, List.length_append]
    by_cases writes : isWrite call.query = true
    · obtain ⟨bytes, reply, rfl⟩ := eq_write writes
      obtain ⟨-, earlier⟩ := h.in_turn whole.symm
      have few := List.length_take_le (acks front) (c.pieces block data)
      rw [← earlier] at few
      exact Nat.succ_le_succ (Nat.le_add_right_of_le few)
    · rw [packets_quiet (List.forall_mem_singleton.mpr (Bool.eq_false_iff.mpr writes)), Nat.add_right_comm]
      exact Nat.le_add_right_of_le (ih ⟨_, whole⟩)

theorem Written.sent_eq (h : Written c block data calls ended) :
    sent calls = [] ∨ ∃ j ≤ (Client.chunks c.chunkSize.toNat data).length,
      sent calls = (Command.of .write block).encode ++ ((Client.chunks c.chunkSize.toNat data).take j).flatten := by
  cases h with
  | clogged clogged => exact .inl (unsent_of_silent clogged.silent)
  | posted drained posted =>
    obtain ⟨j, le, same⟩ := posted.sent_eq
    rw [sent_append, drained.unsent, same]
    cases j with
    | zero => exact .inl rfl
    | succ j => exact .inr ⟨j, Nat.le_of_succ_le_succ le, rfl⟩

/-- it works out just if all pieces went out and were acknowledged -/
theorem Written.ok_iff (h : Written c block data calls ended) :
    ended = .ok () ↔
      sent calls = (c.pieces block data).flatten ∧ acks calls = (c.pieces block data).length := by
  cases h with
  | clogged clogged =>
    refine iff_of_false nofun fun ⟨_, count⟩ => ?_
    rw [clogged.acks] at count
    cases count
  | @posted thrown rest ended drained posted =>
    rw [sent_append, drained.unsent, List.nil_append, acks_append, drained.acks, Nat.zero_add]
    cases ended with
    | ok _ =>
      obtain ⟨all, count, -⟩ := posted.of_ok
      exact iff_of_true rfl ⟨all, count⟩
    | error why => exact iff_of_false nofun fun ⟨_, count⟩ => posted.of_error.1.ne count

/-- it ends with an error just if a reply amounts to it, and then that reply is the last -/
theorem Written.course (h : Written c block data calls ended) :
    (ended = .ok () ∨ ended = .error .unfinished ∧ Clogged c calls .unfinished) ∧
        Unbroken .write block calls ∨
      ∃ e, ended = .error (.failed e) ∧ BrokenOff .write block calls e := by
  cases h with
  | clogged clogged =>
    rcases clogged.ends with ⟨e, rfl, broken⟩ | ⟨rfl, unbroken⟩
    · exact .inr ⟨e, rfl, broken⟩
    · exact .inl ⟨.inr ⟨rfl, clogged⟩, unbroken⟩
  | @posted thrown rest ended drained posted =>
    cases ended with
    | ok _ => exact .inl ⟨.inl rfl, drained.unbroken.append posted.of_ok.2.2⟩
    | error why =>
      obtain ⟨-, e, rfl, broken⟩ := posted.of_error
      exact .inr ⟨e, rfl, broken.after drained.unbroken⟩

/-- whatever the machine replies, a block of the wrong length is not written, and no other is written in any way
but this: the command goes out and then the content, piece by piece; each piece is written once those before it
were acknowledged, and none twice; it works out just if all of them went out and were acknowledged; and the first
reply that amounts to an error ends it -/
theorem stop_and_wait (some_ : c.chunkSize ≠ 0)
    (h : Recorded answer (c.write block data) s calls ended s') :
    (data.length ≠ blockSize → calls = [] ∧ s' = s ∧ ended = .error (.failed (.invalidImage
      ("block is " ++ toString data.length ++ " bytes, expected " ++ toString blockSize)))) ∧
    (data.length = blockSize → Written c block data calls ended ∧
      (sent calls = [] ∨ ∃ j ≤ blockSize ⌈/⌉ c.chunkSize.toNat, sent calls =
        (Command.of .write block).encode ++ ((Client.chunks c.chunkSize.toNat data).take j).flatten) ∧
      (∀ before bytes reply after, calls = before ++ ⟨.link (.write bytes), reply⟩ :: after →
        (c.pieces block data)[acks before]? = some bytes ∧
          packets before = (c.pieces block data).take (acks before)) ∧
      (∀ front, front <+: calls → (packets front).length ≤ acks front + 1) ∧
      (ended = .ok () ↔ sent calls = (Command.of .write block).encode ++ data ∧
        acks calls = 1 + blockSize ⌈/⌉ c.chunkSize.toNat) ∧
      (∀ before call after e, calls = before ++ call :: after → breach? .write block call = some e →
        after = [] ∧ ended = .error (.failed e)) ∧
      (∀ e, ended = .error (.failed e) → BrokenOff .write block calls e) ∧
      (∀ fault, ended ≠ .error (.broken fault)) ∧
      (ended = .error .unfinished → Clogged c calls .unfinished)) := by
  refine ⟨fun other => ?_, fun full => ?_⟩
  · rw [c.write_refused block other] at h
    obtain ⟨rfl, rfl, rfl⟩ := h.unique (recorded_stop _ s)
    exact ⟨rfl, rfl, rfl⟩
  have way := recorded_written some_ full h
  have count := c.length_pieces block full some_
  have content : (c.pieces block data).flatten = (Command.of .write block).encode ++ data := by
    have positive : c.chunkSize.toNat ≠ 0 := fun zero => some_ (UInt64.toNat_inj.mp zero)
    rw [Client.pieces, List.flatten_cons, Client.join_chunks full positive]
  have prefixes := way.sent_eq
  rw [Nat.add_left_cancel ((Nat.add_comm ..).trans count : 1 + _ = 1 + _)] at prefixes
  refine ⟨way, prefixes, fun _ _ _ _ => way.in_turn, fun _ => way.pending, ?_, ?_⟩
  · rw [← content, ← count]
    exact way.ok_iff
  rcases way.course with ⟨quiet, unbroken⟩ | ⟨e, rfl, broken⟩
  · refine ⟨fun before call after e split breach => ?_, fun e failed => ?_, fun fault broke => ?_, fun stuck => ?_⟩
    · cases (unbroken.at_none split).symm.trans breach
    · rcases quiet with rfl | ⟨rfl, -⟩ <;> cases failed
    · rcases quiet with rfl | ⟨rfl, -⟩ <;> cases broke
    · rcases quiet with rfl | ⟨-, endless⟩
      · cases stuck
      · exact endless
  · refine ⟨fun before call after e' split breach => ?_, fun e' same => ?_, nofun, nofun⟩
    · obtain ⟨none_, rfl⟩ := broken.at_once split breach
      exact ⟨none_, rfl⟩
    · cases same
      exact broken

end

/-- a byte that is still queued is thrown away, and a block goes out in two chunks, the second of them shorter -/
theorem stop_and_wait_uneven :
    let c : Client := { chunkSize := 3000 }
    let data := List.replicate blockSize 0xa5
    let ack := [Delivery.bytes [1, 0, 0]]
    let d : Desk :=
      { cable := .connect .duplex 500 (.scripted [.bytes [7]] [ack, ack, ack]), folder := Desk.working [] }
    c.chunkSize ≠ 0 ∧ ∃ calls d', Recorded Desk.answer (c.write 5 data) d calls (.ok ()) d' ∧
      sent calls = (Command.of .write 5).encode ++ data ∧ acks calls = 3 := by
  intro c data ack d
  have some_ : c.chunkSize ≠ 0 := by decide
  have full : data.length = blockSize := List.length_replicate
  have ran : ((c.write 5 data).run Desk.answer d).1 = .ok () := by decide +kernel
  have went := recorded (Prod.eta ((c.write 5 data).run Desk.answer d)).symm
  rw [ran] at went
  obtain ⟨-, -, -, -, done, -⟩ := (stop_and_wait some_ went).2 full
  obtain ⟨whole, count⟩ := done.mp rfl
  have three : 1 + blockSize ⌈/⌉ c.chunkSize.toNat = 3 := by
    rw [Nat.ceilDiv_eq_add_pred_div]
    decide
  exact ⟨some_, _, _, went, whole, count.trans three⟩

end FlashRescue.Host
