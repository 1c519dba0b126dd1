import FlashRescue.Proofs.Host.Verification

/-!
# Calls that fail, and the ones after them

A call that fails leaves replies behind: an ACK and a checksum that no one read, or the NACK of a WRITE.
The next call throws them away, so that it finds out what it would have found out without them.

* `Operation`          the calls after which a board stays in its session; `performAll`: some in a row;
* `Settled`            what holds between them;
* `Settled.perform`, `Settled.performAll`  one call, and any number of them;
* `failures_stay_apart`  a checksum tells what is in the flash, whatever went on before;
* `refused_iff`, `attributed_iff`  what a NACK is put down to when NACKs are on at both ends.
-/

namespace FlashRescue

open Host

theorem Replay.reply_nackMode {b : Board} {r : Replay} {l : Ledger} (stands : Stands b)
    (h : Attends r b l []) :
    ∃ r', r.reply (Command.of .nackMode 0).encode = ([.bytes Response.ack.encode], r') ∧
      Attends r' b { l.say Response.ack.encode with nacks := true } [] := by
  have goes : (Request.bare .nackMode 0).outcome? = none := Request.outcome?_of (by decide) _ _
  have whole : (Request.bare .nackMode 0).Whole := Request.whole_bare (by decide) 0
  have taken : (l.take b.config.chunkSize.toNat b.flash.failing (.bare .nackMode 0)).sent =
      l.sent ++ Response.ack.encode := rfl
  have replied := reply_encode stands h whole goes taken
  rwa [Request.encode_bare] at replied

namespace Desk

open Replay

variable {d : Desk} {b : Board} {l : Ledger} {c : Client} {queue : List UInt8}

/-! ## Calls with replies left over from before -/

theorem run_insist_late {α : Type} (request : Talk α) (again : Nat) (enough : queue.length < c.rounds)
    (h : Linked d b l [] queue) :
    ∃ d₁, (c.insist request again).run answer d = (c.insist request again).run answer d₁ ∧
      Linked d₁ b l [] [] := by
  obtain ⟨d₁, quiet, linked₁⟩ := run_discard_all h enough
  have still := run_discard linked₁ (Nat.ne_zero_of_lt enough)
  exact ⟨d₁, c.run_insist_drained request again quiet still, linked₁⟩

theorem run_checksum_late (stands : Stands b) (enough : queue.length < c.rounds)
    (h : Linked d b l [] queue) (block : UInt16) :
    ∃ d', (c.checksum block).run answer d =
        ((learned b.flash.failing l.content l.nacks block).mapError .failed, d') ∧
      Linked d' b (l.say (l.answered b.flash.failing block)) [] [] := by
  obtain ⟨d₁, same, linked₁⟩ := run_insist_late (Client.checksumOnce block) c.retries.toNat enough h
  obtain ⟨d', ran, linked⟩ := run_checksum_told stands linked₁ (Nat.ne_zero_of_lt enough) block
  exact ⟨d', same.trans ran, linked⟩

/-- a board takes up NACKs at the first attempt -/
theorem run_requestNacks (stands : Stands b) (enough : queue.length < c.rounds)
    (h : Linked d b l [] queue) :
    ∃ d', c.requestNacks.run answer d = (.ok { c with nacks := true }, d') ∧
      Linked d' b { l.say Response.ack.encode with nacks := true } [] [] := by
  obtain ⟨d₁, quiet, linked₁⟩ := run_discard_all h enough
  obtain ⟨d₂, asked, linked₂⟩ := run_write linked₁ fun _ attends => reply_nackMode stands attends
  rw [List.nil_append, ← List.append_nil (Response.encode _)] at linked₂
  obtain ⟨ack, d', read, ack_eq, linked⟩ := run_read linked₂ rfl (Response.length_encode .ack)
  have request : (do
      demand (Link.sendCommand (.of .nackMode 0))
      Client.awaitAck .nackMode 0 : Talk Unit).run answer d₁ = (.ok (), d') :=
    (Dialogue.run_bind_ok asked).trans (Client.run_awaitAck read ack_eq .nackMode 0)
  refine ⟨d', ?_, linked⟩
  rw [Client.requestNacks, Dialogue.run_bind_ok (c.run_insist c.retries.toNat quiet request)]
  rfl

/-! ## Operations -/

/-- the calls of a client that leave a board in its session -/
inductive Operation where
  | checksum (block : UInt16)
  | write (block : UInt16) (data : List UInt8)
  | writeVerified (block : UInt16) (data : List UInt8)
  | sync (block : UInt16) (data : List UInt8)
  | requestNacks

namespace Operation

/-- its data make up a block -/
def Full : Operation → Prop
  | .write _ data | .writeVerified _ data | .sync _ data => data.length = blockSize
  | .checksum _ | .requestNacks => True

/-- the client and its desk after a call, however it ended -/
def perform : Operation → Client × Desk → Client × Desk
  | .checksum block, (c, d) => (c, ((c.checksum block).run answer d).2)
  | .write block data, (c, d) => (c, ((c.write block data).run answer d).2)
  | .writeVerified block data, (c, d) => (c, ((c.writeVerified block data).run answer d).2)
  | .sync block data, (c, d) => (c, ((c.sync block data).run answer d).2)
  | .requestNacks, (c, d) =>
    match c.requestNacks.run answer d with
    | (.ok c', d') => (c', d')
    | (.error _, d') => (c, d')

def performAll (operations : List Operation) (s : Client × Desk) : Client × Desk :=
  operations.foldl (fun s operation => operation.perform s) s

theorem performAll_concat (operations : List Operation) (operation : Operation) (s : Client × Desk) :
    performAll (operations ++ [operation]) s = operation.perform (performAll operations s) :=
  List.foldl_append ..

theorem perform_requestNacks {s : Client × Desk}
    (asked : (s.1.requestNacks.run answer s.2).1 = .ok { s.1 with nacks := true }) :
    (Operation.requestNacks.perform s).1 = { s.1 with nacks := true } := by
  obtain ⟨c, d⟩ := s
  rw [perform]
  split
  · rename_i c' d' ran
    rw [ran] at asked
    exact Except.ok.inj asked
  · rename_i why d' ran
    rw [ran] at asked
    cases asked

end Operation

/-- between two calls: the board waits for a command, with NACKs on if the client thinks so, and no more
than one reply is left over -/
structure Settled (b : Board) (l : Ledger) (s : Client × Desk) : Prop where
  linked : ∃ queue, s.2.Linked b l [] queue ∧ queue.length ≤ longestReply
  patient : longestReply < s.1.rounds
  chunks : s.1.chunkSize = b.config.chunkSize
  agreed : s.1.nacks = true → l.nacks = true
  length : l.content.length = b.flash.content.length

namespace Settled

variable {d' : Desk} {l' : Ledger} {s : Client × Desk}

/-- whatever leaves the client as it is -/
theorem went (h : Settled b l (c, d)) (linked : Linked d' b l' [] queue)
    (few : queue.length ≤ longestReply) (nacks : l'.nacks = l.nacks)
    (length : l'.content.length = l.content.length) : Settled b l' (c, d') where
  linked := ⟨queue, linked, few⟩
  patient := h.patient
  chunks := h.chunks
  agreed on := nacks.trans (h.agreed on)
  length := length.trans h.length

theorem length_complaint (failing : Nor.Failing) (l : Ledger) (block : Nat) :
    (l.complaint failing block).length ≤ longestReply := by
  rw [Ledger.complaint]
  split
  · exact Nat.zero_le _
  · split <;> decide

theorem checksum (stands : Stands b) (h : Settled b l (c, d)) (block : UInt16) :
    ∃ d', (c.checksum block).run answer d =
        ((learned b.flash.failing l.content l.nacks block).mapError .failed, d') ∧
      Settled b (l.say (l.answered b.flash.failing block)) (c, d') := by
  obtain ⟨queue, linked, few⟩ := h.linked
  obtain ⟨d', ran, linked'⟩ :=
    run_checksum_late stands (Nat.lt_of_le_of_lt few h.patient) linked block
  exact ⟨d', ran, h.went linked' (Nat.zero_le _) rfl rfl⟩

theorem write (stands : Stands b) (h : Settled b l (c, d)) {data : List UInt8}
    (full : data.length = blockSize) (block : UInt16) :
    ∃ d' l', (c.write block data).run answer d = (.ok (), d') ∧ Settled b l' (c, d') := by
  obtain ⟨queue, linked, few⟩ := h.linked
  obtain ⟨d', ran, linked'⟩ :=
    run_writeBlock_late stands full h.chunks (Nat.lt_of_le_of_lt few h.patient) linked block
  obtain ⟨content, nacks⟩ := l.take_written b.config.chunkSize.toNat b.flash.failing block data
  refine ⟨d', _, ran, h.went linked' (length_complaint ..) nacks ?_⟩
  rw [content, length_replaced _ _ full]

theorem writeVerified (stands : Stands b) (h : Settled b l (c, d)) {data : List UInt8}
    (full : data.length = blockSize) (block : UInt16) :
    ∃ d' l', (c.writeVerified block data).run answer d =
        ((verdict b.flash.failing l.content l.nacks c.nacks block data).mapError .failed, d') ∧
      Settled b l' (c, d') := by
  obtain ⟨queue, linked, few⟩ := h.linked
  obtain ⟨d', l', queue', ran, linked', content, nacks, few'⟩ :=
    run_writeVerified_left stands full h.chunks (Nat.lt_of_le_of_lt few h.patient) linked block
  refine ⟨d', l', ran, h.went linked' few' nacks ?_⟩
  rw [content, length_replaced _ _ full]

theorem sync (stands : Stands b) (h : Settled b l (c, d)) {data : List UInt8}
    (full : data.length = blockSize) (block : UInt16) :
    ∃ ended d' l', (c.sync block data).run answer d = (ended, d') ∧ Settled b l' (c, d') := by
  obtain ⟨d₁, asked, settled₁⟩ := h.checksum stands block
  cases told : learned b.flash.failing l.content l.nacks block with
  | error e =>
    rw [told] at asked
    exact ⟨_, d₁, _, Dialogue.run_bind_error asked, settled₁⟩
  | ok crc =>
    rw [told] at asked
    rw [Client.sync, Dialogue.run_bind_ok asked]
    by_cases equal : crc = FlashRescue.checksum data
    · rw [if_pos equal]
      exact ⟨_, d₁, _, rfl, settled₁⟩
    · rw [if_neg equal]
      obtain ⟨d₂, l₂, written, settled₂⟩ := settled₁.writeVerified stands full block
      generalize (verdict _ _ _ _ _ _).mapError Stop.failed = ended at written
      cases ended with
      | ok _ => exact ⟨_, d₂, l₂, Dialogue.run_bind_ok written, settled₂⟩
      | error why => exact ⟨_, d₂, l₂, Dialogue.run_bind_error written, settled₂⟩

theorem requestNacks (stands : Stands b) (h : Settled b l (c, d)) :
    ∃ d' l', c.requestNacks.run answer d = (.ok { c with nacks := true }, d') ∧
      Settled b l' ({ c with nacks := true }, d') := by
  obtain ⟨queue, linked, few⟩ := h.linked
  obtain ⟨d', ran, linked'⟩ := run_requestNacks stands (Nat.lt_of_le_of_lt few h.patient) linked
  exact ⟨d', _, ran, ⟨[], linked', Nat.zero_le _⟩, h.patient, h.chunks, fun _ => rfl, h.length⟩

/-- one call, whatever it comes to -/
theorem perform (stands : Stands b) (h : Settled b l s) {operation : Operation}
    (full : operation.Full) : ∃ l', Settled b l' (operation.perform s) := by
  obtain ⟨c, d⟩ := s
  cases operation with
  | checksum block =>
    obtain ⟨d', ran, settled⟩ := h.checksum stands block
    rw [Operation.perform, ran]
    exact ⟨_, settled⟩
  | write block data =>
    obtain ⟨d', l', ran, settled⟩ := h.write stands full block
    rw [Operation.perform, ran]
    exact ⟨l', settled⟩
  | writeVerified block data =>
    obtain ⟨d', l', ran, settled⟩ := h.writeVerified stands full block
    rw [Operation.perform, ran]
    exact ⟨l', settled⟩
  | sync block data =>
    obtain ⟨ended, d', l', ran, settled⟩ := h.sync stands full block
    rw [Operation.perform, ran]
    exact ⟨l', settled⟩
  | requestNacks =>
    obtain ⟨d', l', ran, settled⟩ := h.requestNacks stands
    rw [Operation.perform, ran]
    exact ⟨l', settled⟩

theorem performAll (stands : Stands b) {operations : List Operation}
    (full : ∀ operation ∈ operations, operation.Full) (h : Settled b l s) :
    ∃ l', Settled b l' (Operation.performAll operations s) := by
  induction operations generalizing l s with
  | nil => exact ⟨l, h⟩
  | cons operation operations ih =>
    obtain ⟨l₁, settled₁⟩ := h.perform stands (full operation List.mem_cons_self)
    exact ih (fun operation' mem => full operation' (List.mem_cons_of_mem _ mem)) settled₁

end Settled

/-- whatever of the flash fails, and however the calls before have ended: the board waits for a command,
it can be asked for NACKs, a client that thinks they are on is right, and a checksum is that of what is in
the flash now, or else the board refuses it -/
theorem failures_stay_apart (stands : Stands b) (unsent : b.line.outgoing = []) {timeoutMs : Nat}
    (cable : d.cable = .connect .duplex timeoutMs (.replayed { board := b, bootstrap := false }))
    (retries : UInt32) {operations : List Operation}
    (full : ∀ operation ∈ operations, operation.Full) :
    let start : Client := { retries, chunkSize := b.config.chunkSize }
    let s := Operation.performAll operations (start, d)
    ∃ r l, s.2.cable.remote = .replayed r ∧ r.Attends b l [] ∧
      r.outcome.2.flash.content = l.content ∧
      (s.1.nacks = true → l.nacks = true) ∧
      (s.1.requestNacks.run answer s.2).1 = .ok { s.1 with nacks := true } ∧
      ∀ block, ((s.1.checksum block).run answer s.2).1 =
        if b.flash.failing.reads = false ∧ block.toNat < blockCount b.flash.content then
          .ok (checksum (blockAt r.outcome.2.flash.content block.toNat))
        else .error (.failed (if l.nacks then .nack .checksum block else .packet .timedOut)) := by
  intro start s
  have fresh : Settled b (b.ledger b.config.nackOnFailure) (start, d) :=
    ⟨⟨[], linked_connect unsent cable, Nat.zero_le _⟩,
      show longestReply < ({} : Client).rounds by decide, rfl, nofun, rfl⟩
  obtain ⟨l, settled⟩ := fresh.performAll stands full
  obtain ⟨queue, linked, -⟩ := settled.linked
  obtain ⟨r, remote, attends⟩ := linked.remote
  obtain ⟨nacks, same⟩ := ledger_outcome stands attends
  have content : r.outcome.2.flash.content = l.content := congrArg Ledger.content same
  refine ⟨r, l, remote, attends, content, settled.agreed, ?_, fun block => ?_⟩
  · obtain ⟨d', l', ran, -⟩ := settled.requestNacks stands
    exact congrArg Prod.fst ran
  · obtain ⟨d', ran, -⟩ := settled.checksum stands block
    refine (congrArg Prod.fst ran).trans ?_
    have blocks : blockCount l.content = blockCount b.flash.content := by
      rw [blockCount, settled.length, blockCount]
    have can : readable b.flash.failing l.content block.toNat = true ↔
        b.flash.failing.reads = false ∧ block.toNat < blockCount b.flash.content := by
      rw [readable, blocks]
      simp
    rw [learned, content]
    by_cases ok : readable b.flash.failing l.content block.toNat = true
    · rw [if_pos ok, if_pos (can.mp ok)]
      rfl
    · rw [if_neg ok, if_neg (mt can.mpr ok)]
      rfl

/-- blocks that cannot be read -/
def unreadableBoard (blocks : Nat) : Board :=
  { Board.standard blocks with flash := { Nor.blank blocks with failing.reads := true } }

theorem content_unreadableBoard (blocks : Nat) :
    (unreadableBoard blocks).flash.content = List.replicate (blocks * blockSize) Nor.erased :=
  Nor.content_blank blocks

/-- a write that no one could verify, and NACKs from then on -/
theorem failures_stay_apart_unreadable :
    let b := unreadableBoard 1
    let cable := Cable.connect .duplex 500 (.replayed { board := b, bootstrap := false })
    let d : Desk := { cable, folder := working [] }
    let start : Client := { retries := 3, chunkSize := b.config.chunkSize }
    let s := Operation.performAll [.writeVerified 0 markedBlock, .requestNacks] (start, d)
    (Stands b ∧ b.line.outgoing = [] ∧ (Operation.writeVerified 0 markedBlock).Full) ∧
    s.1.nacks = true ∧
    ((s.1.checksum 0).run answer s.2).1 = .error (.failed (.nack .checksum 0)) := by
  intro b cable d
  have stands : Stands b := stands_fitted 1 rfl false
  have full : (Operation.writeVerified 0 markedBlock).Full := length_markedBlock
  have once : ∀ operation ∈ [Operation.writeVerified 0 markedBlock], operation.Full :=
    List.forall_mem_singleton.mpr full
  have both : ∀ operation ∈ [Operation.writeVerified 0 markedBlock, .requestNacks], operation.Full :=
    List.forall_mem_cons.mpr ⟨full, List.forall_mem_singleton.mpr (show True from trivial)⟩
  obtain ⟨-, -, -, -, -, -, asked, -⟩ :=
    failures_stay_apart (d := d) (b := b) stands rfl rfl 3 once
  obtain ⟨r, l, -, -, -, agreed, -, told⟩ :=
    failures_stay_apart (d := d) (b := b) stands rfl rfl 3 both
  have last := Operation.performAll_concat [.writeVerified 0 markedBlock] .requestNacks
    ({ retries := 3, chunkSize := b.config.chunkSize }, d)
  rw [List.singleton_append] at last
  have on : l.nacks = true := agreed (by rw [last, Operation.perform_requestNacks asked])
  have known : (Operation.performAll [.writeVerified 0 markedBlock, .requestNacks]
      ({ retries := 3, chunkSize := b.config.chunkSize }, d)).1.nacks = true := by
    rw [last, Operation.perform_requestNacks asked]
  have refused := told 0
  rw [if_neg (fun can => Bool.false_ne_true can.1.symm), on, if_pos rfl] at refused
  exact ⟨⟨stands, rfl, full⟩, known, refused⟩

/-! ## NACKs -/

/-- a NACK is put down to what has failed: `replaced` is whether the block was erased and programmed,
`read` whether it can be read back -/
structure Attributed (replaced read : Bool) (block : UInt16) (result : Except (Stop Error) Unit) :
    Prop where
  write : result = .error (.failed (.nack .write block)) ↔ replaced = false
  checksum : replaced = true → read = false → result = .error (.failed (.nack .checksum block))

theorem verdict_eq_nack_iff (failing : Nor.Failing) (content : List UInt8) (block : UInt16)
    (data : List UInt8) :
    verdict failing content true true block data = .error (.nack .write block) ↔
      replaces failing content block.toNat = false ∨ readable failing content block.toNat = false := by
  rw [verdict]
  cases replaces failing content block.toNat with
  | false => exact ⟨fun _ => .inl rfl, fun _ => rfl⟩
  | true =>
    cases readable failing content block.toNat with
    | false => exact ⟨fun _ => .inr rfl, fun _ => rfl⟩
    | true =>
      -- what was read back is compared, and that is not what a NACK comes of
      refine ⟨fun refused => ?_, by rintro (failed | failed) <;> cases failed⟩
      have works : ¬ (true && !(true && true)) = true := by decide
      rw [if_neg works, if_pos rfl] at refused
      dsimp only at refused
      split at refused <;> cases refused

theorem mapError_failed_eq_iff {α : Type} {result : Except Error α} {e : Error} :
    result.mapError Stop.failed = .error (.failed e) ↔ result = .error e := by
  cases result with
  | ok value => exact ⟨nofun, nofun⟩
  | error e' => exact ⟨fun same => by cases same; rfl, fun same => by cases same; rfl⟩

/-- with NACKs on at both ends the read-back meets the NACK of the WRITE or its own, and both are put down
to the WRITE -/
theorem refused_iff (stands : Stands b) {data : List UInt8} (full : data.length = blockSize)
    (same : c.chunkSize = b.config.chunkSize) (rounds : c.rounds ≠ 0) (h : Linked d b l [] [])
    (on : l.nacks = true) (known : c.nacks = true) (block : UInt16) :
    ((c.writeVerified block data).run answer d).1 = .error (.failed (.nack .write block)) ↔
      replaces b.flash.failing l.content block.toNat = false ∨
        readable b.flash.failing l.content block.toNat = false := by
  have enough : ([] : List UInt8).length < c.rounds := Nat.pos_of_ne_zero rounds
  obtain ⟨d', l', queue', ran, -⟩ := run_writeVerified_told stands full same enough h block
  rw [congrArg Prod.fst ran, mapError_failed_eq_iff, on, known]
  exact verdict_eq_nack_iff ..

/-- a NACK is put down to what has failed unless that is the read-back alone -/
theorem attributed_iff (stands : Stands b) {data : List UInt8} (full : data.length = blockSize)
    (same : c.chunkSize = b.config.chunkSize) (rounds : c.rounds ≠ 0) (h : Linked d b l [] [])
    (on : l.nacks = true) (known : c.nacks = true) (block : UInt16) :
    let replaced := replaces b.flash.failing l.content block.toNat
    let read := readable b.flash.failing l.content block.toNat
    let result := ((c.writeVerified block data).run answer d).1
    (Attributed replaced read block result ↔ (replaced = true → read = true)) ∧
    (result = .error (.failed (.nack .write block)) ↔ replaced = false ∨ read = false) := by
  intro replaced read result
  have refused : result = .error (.failed (.nack .write block)) ↔ replaced = false ∨ read = false :=
    refused_iff stands full same rounds h on known block
  refine ⟨⟨fun h done => ?_, fun works => ⟨?_, ?_⟩⟩, refused⟩
  · cases unread : read with
    | true => rfl
    | false =>
      have blamed := refused.mpr (.inr unread)
      rw [h.write.mp blamed] at done
      exact done
  · refine refused.trans ⟨?_, .inl⟩
    rintro (failed | failed)
    · exact failed
    · cases done : replaced with
      | false => rfl
      | true => exact absurd (works done) (Bool.eq_false_iff.mp failed)
  · intro done failed
    exact absurd (works done) (Bool.eq_false_iff.mp failed)

/-- a block that cannot be programmed -/
theorem attributed_unprogrammed :
    let flash := { Nor.blank 1 with failing.programs := true }
    let b : Board := { Board.standard 1 with flash, config.nackOnFailure := true }
    let c : Client := { chunkSize := b.config.chunkSize, nacks := true }
    let cable := Cable.connect .duplex 500 (.replayed { board := b, bootstrap := false })
    let d : Desk := { cable, folder := working [] }
    (Stands b ∧ markedBlock.length = blockSize ∧ c.chunkSize = b.config.chunkSize ∧ c.rounds ≠ 0 ∧
      Linked d b (b.ledger true) [] [] ∧ (b.ledger true).nacks = true ∧ c.nacks = true) ∧
    ((c.writeVerified 0 markedBlock).run answer d).1 = .error (.failed (.nack .write 0)) := by
  intro flash b c cable d
  have stands : Stands b := stands_fitted 1 rfl true
  have linked : Linked d b (b.ledger true) [] [] := linked_connect rfl rfl
  have rounds : c.rounds ≠ 0 := show ({} : Client).rounds ≠ 0 by decide
  have told := attributed_iff stands length_markedBlock rfl rounds linked rfl rfl 0
  exact ⟨⟨stands, length_markedBlock, rfl, rounds, linked, rfl, rfl⟩,
    told.2.mpr (.inl (Bool.and_false _))⟩

/-- a block that was written, and cannot be read back -/
theorem unread_put_down_to_write :
    let b : Board := { unreadableBoard 1 with config.nackOnFailure := true }
    let c : Client := { chunkSize := b.config.chunkSize, nacks := true }
    let cable := Cable.connect .duplex 500 (.replayed { board := b, bootstrap := false })
    let d : Desk := { cable, folder := working [] }
    let block : UInt16 := 0
    let replaced := replaces b.flash.failing b.flash.content block.toNat
    let read := readable b.flash.failing b.flash.content block.toNat
    let result := ((c.writeVerified block markedBlock).run answer d).1
    replaced = true ∧ result = .error (.failed (.nack .write block)) ∧
      ¬ Attributed replaced read block result := by
  intro b c cable d block replaced read result
  have stands : Stands b := stands_fitted 1 rfl true
  have linked : Linked d b (b.ledger true) [] [] := linked_connect rfl rfl
  have rounds : c.rounds ≠ 0 := show ({} : Client).rounds ≠ 0 by decide
  have written : replaced = true := by
    show replaces (unreadableBoard 1).flash.failing (unreadableBoard 1).flash.content block.toNat = true
    rw [content_unreadableBoard, replaces, erasable, blockCount_replicate]
    decide
  have unread : read = false := by
    show readable (unreadableBoard 1).flash.failing (unreadableBoard 1).flash.content block.toNat = false
    rw [readable]
    exact Bool.false_and _
  have same : c.chunkSize = b.config.chunkSize := rfl
  have refused := refused_iff stands length_markedBlock same rounds linked rfl rfl block
  rw [Board.content_ledger] at refused
  have blamed : result = .error (.failed (.nack .write block)) := refused.mpr (.inr unread)
  refine ⟨written, blamed, fun attributed => ?_⟩
  cases blamed.symm.trans (attributed.checksum written unread)

end Desk

end FlashRescue
