import FlashRescue.Proofs.Bench.Desk
import FlashRescue.Proofs.Bench.Stream

/-!
# Commands on a lossless cable

Client and board in step: what each command of the client comes to, with no bytes left over at either
end.

* `run_checksumOnce`, `run_checksum`  the checksum of a block;
* `run_sendChunks`, `run_writeBlock`  a block is streamed, chunk by chunk;
* `run_writeVerified`, `run_sync`     a block is written, and written if need be;
* `run_exit`                          the end of the session.
-/

namespace FlashRescue.Desk

open Host Replay

variable {d : Desk} {b : Board} {l : Ledger} {c : Client}

/-! ## Checksums -/

theorem run_checksumOnce (stands : Stands b) (h : Linked d b l [] []) {block : UInt16}
    (can : readable b.flash.failing l.content block.toNat = true) :
    ∃ d', (Client.checksumOnce block).run answer d =
        (.ok (checksum (blockAt l.content block.toNat)), d') ∧
      Linked d' b (l.say (Ledger.checksumReply l.content block.toNat)) [] [] := by
  obtain ⟨d₁, written, linked₁⟩ := run_write h fun r attends => reply_checksum stands attends can
  rw [List.nil_append] at linked₁
  have packets : Ledger.checksumReply l.content block.toNat = Response.ack.encode ++
      (ByteOrder.little.encode 4 (checksum (blockAt l.content block.toNat)).toNat ++ []) := by
    rw [List.append_nil]
    rfl
  obtain ⟨ack, d₂, read₂, ack_eq, linked₂⟩ := run_read linked₁ packets (Response.length_encode .ack)
  obtain ⟨sum, d₃, read₃, sum_eq, linked₃⟩ := run_read linked₂ rfl (ByteOrder.length_encode ..)
  refine ⟨d₃, ?_, linked₃⟩
  have sent : (demand (Link.sendCommand (.of .checksum block)) : Talk Unit).run answer d =
      (.ok (), d₁) := written
  rw [Client.checksumOnce, Dialogue.run_bind_ok sent,
    Dialogue.run_bind_ok (Client.run_awaitAck read₂ ack_eq .checksum block)]
  exact Client.run_readChecksum read₃ _ sum_eq

/-- nothing is queued when the host has read all replies -/
theorem run_discard (h : Linked d b l [] []) (rounds : c.rounds ≠ 0) :
    c.discard.run answer d = (.ok (), d) :=
  Client.run_discard rounds (run_poll h)

theorem run_checksum (stands : Stands b) (h : Linked d b l [] []) (rounds : c.rounds ≠ 0)
    {block : UInt16} (can : readable b.flash.failing l.content block.toNat = true) :
    ∃ d', (c.checksum block).run answer d =
        (.ok (checksum (blockAt l.content block.toNat)), d') ∧
      Linked d' b (l.say (Ledger.checksumReply l.content block.toNat)) [] [] := by
  obtain ⟨d', asked, linked⟩ := run_checksumOnce stands h can
  exact ⟨d', Client.run_insist c _ (run_discard h rounds) asked, linked⟩

/-! ## Blocks -/

theorem run_sendChunk {d₁ : Desk} {block : UInt16} {chunk : List UInt8} {l' : Ledger}
    {remnant rest : List UInt8}
    (written : (demand (Link.write chunk) : Talk Unit).run answer d = (.ok (), d₁))
    (h : Linked d₁ b l' remnant ([] ++ (Response.ack.encode ++ rest))) :
    ∃ d', (Client.sendChunk block chunk).run answer d = (.ok (), d') ∧
      Linked d' b l' remnant rest := by
  rw [List.nil_append] at h
  obtain ⟨ack, d₂, read, ack_eq, linked⟩ := run_read h rfl (Response.length_encode .ack)
  refine ⟨d₂, ?_, linked⟩
  rw [Client.sendChunk, Dialogue.run_bind_ok written]
  exact Client.run_awaitAck read ack_eq .write block

section
variable {block : UInt16} {data : List UInt8}

/-- how many ACKs a chunk brings -/
theorem ack_of_chunk {n : Nat} (positive : 0 < n) (k : Nat) :
    Ledger.acks ((k + 1) * n / n - k * n / n) = Response.ack.encode := by
  rw [Nat.mul_div_cancel _ positive, Nat.mul_div_cancel _ positive, Nat.add_sub_cancel_left]
  rfl

theorem run_sendChunk_short (stands : Stands b) (full : data.length = blockSize) (k : Nat)
    (positive : 0 < b.config.chunkSize.toNat)
    (inside : (k + 1) * b.config.chunkSize.toNat < blockSize)
    (h : Linked d b l ((Command.of .write block).encode ++
      data.take (k * b.config.chunkSize.toNat)) []) :
    ∃ d', (Client.sendChunk block (piece b.config.chunkSize.toNat data k)).run answer d =
        (.ok (), d') ∧
      Linked d' b l ((Command.of .write block).encode ++
        data.take ((k + 1) * b.config.chunkSize.toNat)) [] := by
  have up : k * b.config.chunkSize.toNat ≤ (k + 1) * b.config.chunkSize.toNat :=
    Nat.mul_le_mul_right _ (Nat.le_succ k)
  obtain ⟨d₁, written, linked⟩ := run_write h fun r attends =>
    reply_piece stands full up inside (take_piece _ k data) attends
  rw [ack_of_chunk positive, ← List.append_nil (Response.encode _)] at linked
  exact run_sendChunk written linked

theorem run_sendChunk_last (stands : Stands b) (full : data.length = blockSize) (k : Nat)
    (positive : 0 < b.config.chunkSize.toNat)
    (last : (k + 1) * b.config.chunkSize.toNat = blockSize)
    (h : Linked d b l ((Command.of .write block).encode ++
      data.take (k * b.config.chunkSize.toNat)) []) :
    ∃ d', (Client.sendChunk block (piece b.config.chunkSize.toNat data k)).run answer d =
        (.ok (), d') ∧
      Linked d' b (l.take b.config.chunkSize.toNat b.flash.failing (Request.write block data)) []
        (Ledger.complaint b.flash.failing l block.toNat) := by
  have joined : data.take (k * b.config.chunkSize.toNat) ++ piece b.config.chunkSize.toNat data k =
      data := by
    rw [take_piece, last, List.take_of_length_le (Nat.le_of_eq full)]
  have inside : k * b.config.chunkSize.toNat ≤ blockSize := by
    rw [← last]
    exact Nat.mul_le_mul_right _ (Nat.le_succ k)
  obtain ⟨d₁, written, linked⟩ := run_write h fun r attends =>
    reply_last stands full inside joined attends
  rw [← last, ack_of_chunk positive] at linked
  exact run_sendChunk written linked

/-- the chunks that are left are sent, and the last of them completes the WRITE -/
theorem run_sendChunks (stands : Stands b) (full : data.length = blockSize) (j k : Nat)
    (positive : 0 < b.config.chunkSize.toNat)
    (count : (k + (j + 1)) * b.config.chunkSize.toNat = blockSize)
    (h : Linked d b l ((Command.of .write block).encode ++
      data.take (k * b.config.chunkSize.toNat)) []) :
    ∃ d', (((List.range' k (j + 1)).map (piece b.config.chunkSize.toNat data)).forM
        (Client.sendChunk block)).run answer d = (.ok (), d') ∧
      Linked d' b (l.take b.config.chunkSize.toNat b.flash.failing (Request.write block data)) []
        (Ledger.complaint b.flash.failing l block.toNat) := by
  induction j generalizing k d with
  | zero =>
    obtain ⟨d', sent, linked⟩ := run_sendChunk_last stands full k positive count h
    refine ⟨d', ?_, linked⟩
    exact Dialogue.run_bind_ok sent
  | succ j ih =>
    have inside : (k + 1) * b.config.chunkSize.toNat < blockSize := by
      rw [← count]
      exact Nat.mul_lt_mul_of_pos_right (by omega) positive
    obtain ⟨d₁, sent, linked₁⟩ := run_sendChunk_short stands full k positive inside h
    have count' : (k + 1 + (j + 1)) * b.config.chunkSize.toNat = blockSize := by
      rw [← count]
      exact congrArg (· * _) (by omega)
    obtain ⟨d', rest, linked⟩ := ih (k + 1) count' linked₁
    refine ⟨d', ?_, linked⟩
    exact (Dialogue.run_bind_ok sent).trans rest

theorem run_writeBlock (stands : Stands b) (full : data.length = blockSize) (rounds : c.rounds ≠ 0)
    (same : c.chunkSize = b.config.chunkSize) (h : Linked d b l [] []) :
    ∃ d', (c.write block data).run answer d = (.ok (), d') ∧
      Linked d' b (l.take b.config.chunkSize.toNat b.flash.failing (Request.write block data)) []
        (Ledger.complaint b.flash.failing l block.toNat) := by
  have fit := Board.chunksFit_of_validate stands.valid
  have positive := Board.positive_of_fit fit
  have total := Board.total_of_fit fit
  obtain ⟨j, count⟩ : ∃ j, blockSize / b.config.chunkSize.toNat = j + 1 :=
    Nat.exists_eq_succ_of_ne_zero (Nat.ne_of_gt (Board.some_of_fit fit))
  have count_up : (blockSize + (b.config.chunkSize.toNat - 1)) / b.config.chunkSize.toNat = j + 1 := by
    rw [← count]
    refine Nat.div_eq_of_lt_le (by omega) ?_
    rw [Nat.succ_mul]
    omega
  obtain ⟨d₁, written, linked₁⟩ := run_write h fun r attends => reply_write stands attends
  rw [List.nil_append, ← List.append_nil (Response.encode _)] at linked₁
  obtain ⟨ack, d₂, read₂, ack_eq, linked₂⟩ := run_read linked₁ rfl (Response.length_encode .ack)
  have start : Linked d₂ b l ((Command.of .write block).encode ++
      data.take (0 * b.config.chunkSize.toNat)) [] := by
    rw [Nat.zero_mul, List.take_zero, List.append_nil]
    exact linked₂
  have count₀ : (0 + (j + 1)) * b.config.chunkSize.toNat = blockSize := by
    rw [Nat.zero_add, ← count, total]
  obtain ⟨d', sent, linked⟩ := run_sendChunks stands full j 0 positive count₀ start
  refine ⟨d', ?_, linked⟩
  have command : (demand (Link.sendCommand (.of .write block)) : Talk Unit).run answer d =
      (.ok (), d₁) := written
  rw [Client.write, if_neg (not_not_intro full), Dialogue.run_bind_ok (run_discard h rounds),
    Dialogue.run_bind_ok command, Dialogue.run_bind_ok (Client.run_awaitAck read₂ ack_eq .write block),
    same, if_neg (Board.nonzero_of_fit fit), chunks_eq _ full, count_up, List.range_eq_range']
  exact sent

/-! ## A flash without failures -/

theorem readable_flawless {failing : Nor.Failing} (flawless : failing = {}) {content : List UInt8}
    {block : Nat} (inside : block < blockCount content) : readable failing content block = true := by
  simp [readable, flawless, inside]

theorem replaces_flawless {failing : Nor.Failing} (flawless : failing = {}) {content : List UInt8}
    {block : Nat} (inside : block < blockCount content) : replaces failing content block = true := by
  simp [replaces, erasable, flawless, inside]

theorem store_works {failing : Nor.Failing} (l : Ledger) {block : Nat}
    (works : replaces failing l.content block = true) (data : List UInt8) :
    l.store failing block data =
      { l with
        content := putBlock l.content block data
        erases := l.erases + 1
        programs := l.programs + 1 } := by
  have erases : erasable failing l.content block = true := by
    rw [replaces, Bool.and_eq_true] at works
    exact works.1
  rw [Ledger.store, replaced, if_pos works, if_pos erases]

/-- a block was written, and is read back as it was sent -/
theorem run_writeVerified (stands : Stands b) (flawless : b.flash.failing = {})
    (full : data.length = blockSize) (rounds : c.rounds ≠ 0)
    (same : c.chunkSize = b.config.chunkSize) (h : Linked d b l [] [])
    (inside : block.toNat < blockCount l.content) :
    ∃ d' l', (c.writeVerified block data).run answer d = (.ok (), d') ∧ Linked d' b l' [] [] ∧
      l'.content = putBlock l.content block.toNat data ∧ l'.erases = l.erases + 1 ∧
      l'.programs = l.programs + 1 := by
  have works := replaces_flawless flawless inside
  obtain ⟨d₁, written, linked₁⟩ : ∃ d', (c.write block data).run answer d = (.ok (), d') ∧ _ :=
    run_writeBlock stands full rounds same h
  have quiet : Ledger.complaint b.flash.failing l block.toNat = [] := if_pos works
  have stored : l.take b.config.chunkSize.toNat b.flash.failing (Request.write block data) =
      { l.say (Ledger.acks (1 + blockSize / b.config.chunkSize.toNat)) with
        content := putBlock l.content block.toNat data
        erases := l.erases + 1
        programs := l.programs + 1 } := by
    rw [l.take_write _ _ (Request.isWrite_write block data)]
    show ((l.say _).store b.flash.failing block.toNat data).say
      (Ledger.complaint b.flash.failing l block.toNat) = _
    rw [quiet, Ledger.say_nil, store_works (l.say _) works]
    rfl
  rw [quiet, stored] at linked₁
  have inside₁ : block.toNat < blockCount (putBlock l.content block.toNat data) := by
    rw [blockCount, length_putBlock inside full]
    exact inside
  obtain ⟨d₂, read, linked₂⟩ :=
    run_checksumOnce stands linked₁ (readable_flawless flawless inside₁)
  refine ⟨d₂, _, ?_, linked₂, rfl, rfl, rfl⟩
  have back : (c.readBack block).run answer d₁ = (.ok (checksum data), d₂) := by
    rw [Client.readBack, Dialogue.run_bind_ok (Dialogue.run_trial_ok read)]
    show (Except.ok (checksum (blockAt (putBlock l.content block.toNat data) block.toNat)), d₂) = _
    rw [blockAt_putBlock inside full]
  rw [Client.writeVerified, Dialogue.run_bind_ok written, Dialogue.run_bind_ok back, if_pos rfl]
  rfl

/-- what becomes of a block that is to have some content -/
def synced (content : List UInt8) (block : Nat) (data : List UInt8) : Sync :=
  if checksum (blockAt content block) = checksum data then .unchanged else .written

/-- what is in the flash then -/
def stored (content : List UInt8) (block : Nat) (data : List UInt8) : List UInt8 :=
  if synced content block data = .written then putBlock content block data else content

/-- a block is left alone or written, as its checksum tells -/
theorem run_sync (stands : Stands b) (flawless : b.flash.failing = {})
    (full : data.length = blockSize) (rounds : c.rounds ≠ 0)
    (same : c.chunkSize = b.config.chunkSize) (h : Linked d b l [] [])
    (inside : block.toNat < blockCount l.content) :
    ∃ d' l', (c.sync block data).run answer d = (.ok (synced l.content block.toNat data), d') ∧
      Linked d' b l' [] [] ∧ l'.content = stored l.content block.toNat data ∧
      l'.erases = l.erases + [synced l.content block.toNat data].count .written ∧
      l'.programs = l.programs + [synced l.content block.toNat data].count .written := by
  obtain ⟨d₁, asked, linked₁⟩ := run_checksum stands h rounds (readable_flawless flawless inside)
  rw [Client.sync, Dialogue.run_bind_ok asked, stored, synced]
  by_cases equal : checksum (blockAt l.content block.toNat) = checksum data
  · rw [if_pos equal, if_pos equal]
    exact ⟨d₁, _, rfl, linked₁, rfl, rfl, rfl⟩
  · obtain ⟨d₂, l₂, written, linked₂, content, erases, programs⟩ :=
      run_writeVerified stands flawless full rounds same linked₁ inside
    rw [if_neg equal, if_neg equal, Dialogue.run_bind_ok written]
    exact ⟨d₂, l₂, rfl, linked₂, content, erases, programs⟩

end

theorem run_exit (stands : Stands b) (h : Linked d b l [] []) :
    ∃ d' r', Client.exit.run answer d = (.ok (), d') ∧ d'.cable.remote = .replayed r' ∧
      r'.outcome.1 = .ok .exited ∧ ∃ nacks, r'.outcome.2.ledger nacks = l := by
  have ends : (Request.bare .exit 0).outcome? = some .exited := rfl
  have written := run_write_finish stands h (Request.whole_bare (by decide) 0) ends
  exact written

end FlashRescue.Desk
