import FlashRescue.Proofs.Host.Flashing

/-!
# Writes that are verified on a board that may fail

A failed erase or program is told by a NACK if the board has NACKs on, and else not at all.  What a
client makes of that, for every way in which the flash may fail and whether the two ends agree on NACKs
or not.

* `learned`               what a client learns from it;
* `verdict`               what a client finds out about a block that it has written;
* `run_checksum_told`, `run_writeVerified_told`  a client finds out just that;
* `verified_write`        a write is reported as done only if the content of the block checks out.
-/

namespace FlashRescue

open Host Replay

/-! ## Answers -/

theorem Replay.reply_asked {b : Board} {r : Replay} {l : Ledger} (stands : Stands b)
    (h : Attends r b l []) (block : UInt16) :
    ∃ r', r.reply (Command.of .checksum block).encode =
        ([.bytes (l.answered b.flash.failing block)], r') ∧
      Attends r' b (l.say (l.answered b.flash.failing block)) [] := by
  have goes : (Request.bare .checksum block).outcome? = none := Request.outcome?_of (by decide) _ _
  have taken := l.take_asked b.config.chunkSize.toNat b.flash.failing block
  have replied := reply_encode stands h (Request.whole_bare (by decide) block) goes
    (congrArg Ledger.sent taken)
  rwa [taken, Request.encode_bare] at replied

namespace Desk

variable {d : Desk} {b : Board} {l : Ledger} {c : Client} {queue : List UInt8} {block : UInt16}

/-! ## Late bytes -/

/-- as many bytes are thrown away as there are, or as there are rounds -/
theorem run_discardFor (h : Linked d b l [] queue) (rounds : Nat) :
    ∃ d', (Client.discardFor rounds).run answer d =
        (if queue.length < rounds then .ok () else .error .unfinished, d') ∧
      Linked d' b l [] (queue.drop rounds) := by
  induction rounds generalizing d queue with
  | zero => exact ⟨d, rfl, h⟩
  | succ rounds ih =>
    rw [Client.discardFor, Dialogue.run_bind_ok (run_poll h)]
    cases queue with
    | nil => exact ⟨d, rfl, h⟩
    | cons byte rest =>
      have one : [byte].length = 1 := rfl
      obtain ⟨bytes, d₁, read, -, linked⟩ := run_read h rfl one
      obtain ⟨d', ran, linked'⟩ := ih linked
      refine ⟨d', ?_, linked'⟩
      simp only [List.isEmpty_cons, Bool.not_false, if_true]
      rw [Dialogue.run_bind_ok read, ran]
      simp

theorem run_discard_all (h : Linked d b l [] queue) (enough : queue.length < c.rounds) :
    ∃ d', c.discard.run answer d = (.ok (), d') ∧ Linked d' b l [] [] := by
  obtain ⟨d', ran, linked⟩ := run_discardFor h c.rounds
  rw [if_pos enough] at ran
  rw [List.drop_of_length_le (Nat.le_of_lt enough)] at linked
  exact ⟨d', ran, linked⟩

/-! ## Checksums -/

/-- what a client learns from a board that it asks for a checksum: the checksum, a NACK, or nothing -/
def learned (failing : Nor.Failing) (content : List UInt8) (nacks : Bool) (block : UInt16) :
    Except Error UInt32 :=
  if readable failing content block.toNat then .ok (checksum (blockAt content block.toNat))
  else .error (if nacks then .nack .checksum block else .packet .timedOut)

theorem run_ask (stands : Stands b) (h : Linked d b l [] queue) (block : UInt16) :
    ∃ d', (demand (Link.sendCommand (.of .checksum block)) : Talk Unit).run answer d = (.ok (), d') ∧
      Linked d' b (l.say (l.answered b.flash.failing block)) []
        (queue ++ l.answered b.flash.failing block) :=
  run_write h fun _ attends => reply_asked stands attends block

/-- a NACK is the first that the client reads, whatever it was for -/
theorem run_checksumOnce_nack (stands : Stands b)
    (h : Linked d b l [] Response.nack.encode) (block : UInt16) :
    ∃ d', (Client.checksumOnce block).run answer d =
        (.error (.failed (.nack .checksum block)), d') ∧
      Linked d' b (l.say (l.answered b.flash.failing block)) []
        (l.answered b.flash.failing block) := by
  obtain ⟨d₁, asked, linked₁⟩ := run_ask stands h block
  obtain ⟨bytes, d₂, read, nack, linked₂⟩ := run_read linked₁ rfl (Response.length_encode .nack)
  refine ⟨d₂, ?_, linked₂⟩
  rw [Client.checksumOnce, Dialogue.run_bind_ok asked,
    Dialogue.run_bind_error (Client.run_awaitAck_nack read nack .checksum block)]

theorem run_checksumOnce_told (stands : Stands b) (h : Linked d b l [] []) (block : UInt16) :
    ∃ d', (Client.checksumOnce block).run answer d =
        ((learned b.flash.failing l.content l.nacks block).mapError .failed, d') ∧
      Linked d' b (l.say (l.answered b.flash.failing block)) [] [] := by
  rw [learned, Ledger.answered]
  by_cases can : readable b.flash.failing l.content block.toNat = true
  · rw [if_pos can, if_pos can]
    exact run_checksumOnce stands h can
  · obtain ⟨d₁, asked, linked₁⟩ := run_ask stands h block
    rw [Ledger.answered, if_neg can, List.nil_append] at linked₁
    rw [if_neg can, if_neg can, Client.checksumOnce, Dialogue.run_bind_ok asked]
    cases nacks : l.nacks with
    | true =>
      rw [nacks, if_pos rfl] at linked₁
      have packets : Response.nack.encode = Response.nack.encode ++ [] := (List.append_nil _).symm
      obtain ⟨bytes, d₂, read, nack, linked₂⟩ :=
        run_read linked₁ packets (Response.length_encode .nack)
      exact ⟨d₂, Dialogue.run_bind_error (Client.run_awaitAck_nack read nack .checksum block),
        linked₂⟩
    | false =>
      rw [nacks, if_neg Bool.false_ne_true] at linked₁
      obtain ⟨d₂, waited, linked₂⟩ := run_read_short linked₁ (n := Response.width) (by decide)
      exact ⟨d₂, Dialogue.run_bind_error (Client.run_awaitAck_error waited .checksum block),
        linked₂⟩

/-- a request that got no answer gets none when it is made again -/
theorem run_checksum_told (stands : Stands b) (h : Linked d b l [] []) (rounds : c.rounds ≠ 0)
    (block : UInt16) :
    ∃ d', (c.checksum block).run answer d =
        ((learned b.flash.failing l.content l.nacks block).mapError .failed, d') ∧
      Linked d' b (l.say (l.answered b.flash.failing block)) [] [] := by
  rw [Client.checksum]
  generalize c.retries.toNat = again
  induction again generalizing d with
  | zero =>
    obtain ⟨d', asked, linked⟩ := run_checksumOnce_told stands h block
    refine ⟨d', ?_, linked⟩
    rw [Client.insist, Dialogue.run_bind_ok (run_discard h rounds), asked]
  | succ again ih =>
    obtain ⟨d₁, asked, linked₁⟩ := run_checksumOnce_told stands h block
    have quiet := run_discard h rounds
    cases told : learned b.flash.failing l.content l.nacks block with
    | ok crc =>
      rw [told] at asked
      exact ⟨d₁, Client.run_insist c _ quiet asked, linked₁⟩
    | error e =>
      rw [told] at asked
      cases late : e.isTimeout with
      | false => exact ⟨d₁, Client.run_insist_refused c _ quiet asked late, linked₁⟩
      | true =>
        have silent : l.answered b.flash.failing block = [] := by
          unfold learned at told
          rw [Ledger.answered]
          split at told
          · cases told
          · rename_i cannot
            cases nacks : l.nacks with
            | true =>
              rw [nacks] at told
              cases told
              cases late
            | false => simp [cannot]
        rw [silent, Ledger.say_nil] at linked₁ ih ⊢
        obtain ⟨d', ran, linked⟩ := ih linked₁
        refine ⟨d', ?_, linked⟩
        rw [Client.run_insist_late c again quiet asked late, ran, told]

/-! ## Blocks -/

/-- what is left over from before does not hinder a WRITE -/
theorem run_writeBlock_late (stands : Stands b) {data : List UInt8} (full : data.length = blockSize)
    (same : c.chunkSize = b.config.chunkSize) (enough : queue.length < c.rounds)
    (h : Linked d b l [] queue) (block : UInt16) :
    ∃ d', (c.write block data).run answer d = (.ok (), d') ∧
      Linked d' b (l.take b.config.chunkSize.toNat b.flash.failing (Request.write block data)) []
        (Ledger.complaint b.flash.failing l block.toNat) := by
  have rounds : c.rounds ≠ 0 := Nat.ne_zero_of_lt enough
  obtain ⟨d₁, quiet, linked₁⟩ := run_discard_all h enough
  obtain ⟨d', written, linked⟩ : ∃ d', (c.write block data).run answer d₁ = (.ok (), d') ∧ _ :=
    run_writeBlock stands full rounds same linked₁
  refine ⟨d', ?_, linked⟩
  -- once everything was thrown away the WRITE goes on as it does where nothing was there
  have again := run_discard linked₁ rounds
  rw [Client.write, if_neg (not_not_intro full)] at written ⊢
  rw [Dialogue.run_bind_ok quiet]
  rwa [Dialogue.run_bind_ok again] at written

/-- how a client that was to have NACKs, or not, takes one that it meets when it reads a block back -/
def refusal (nacks : Bool) (block : UInt16) : Error :=
  .nack (if nacks then .write else .checksum) block

theorem run_readBack_nack {d' : Desk}
    (h : (Client.checksumOnce block).run answer d = (.error (.failed (.nack .checksum block)), d')) :
    (c.readBack block).run answer d = (.error (.failed (refusal c.nacks block)), d') := by
  rw [Client.readBack, Dialogue.run_bind_ok (Dialogue.run_trial_failed h), refusal]
  cases c.nacks <;> rfl

theorem run_readBack_late {d' : Desk}
    (h : (Client.checksumOnce block).run answer d = (.error (.failed (.packet .timedOut)), d')) :
    (c.readBack block).run answer d = (c.checksum block).run answer d' := by
  rw [Client.readBack, Dialogue.run_bind_ok (Dialogue.run_trial_failed h)]
  rfl

theorem run_readBack_told (stands : Stands b) (h : Linked d b l [] []) (rounds : c.rounds ≠ 0)
    (block : UInt16) :
    ∃ d' l', (c.readBack block).run answer d =
        (if readable b.flash.failing l.content block.toNat then
          .ok (checksum (blockAt l.content block.toNat))
        else .error (.failed (if l.nacks then refusal c.nacks block else .packet .timedOut)), d') ∧
      Linked d' b l' [] [] ∧ l'.content = l.content ∧ l'.nacks = l.nacks := by
  obtain ⟨d₁, asked, linked₁⟩ := run_checksumOnce_told stands h block
  rw [learned] at asked
  by_cases can : readable b.flash.failing l.content block.toNat = true
  · rw [if_pos can] at asked ⊢
    refine ⟨d₁, _, ?_, linked₁, rfl, rfl⟩
    rw [Client.readBack, Dialogue.run_bind_ok (Dialogue.run_trial_ok asked)]
    rfl
  · rw [if_neg can] at asked ⊢
    cases nacks : l.nacks with
    | true =>
      rw [nacks] at asked
      exact ⟨d₁, _, run_readBack_nack asked, linked₁, rfl, nacks⟩
    | false =>
      rw [nacks] at asked
      obtain ⟨d₂, again, linked₂⟩ := run_checksum_told stands linked₁ rounds block
      have silent : learned b.flash.failing l.content l.nacks block = .error (.packet .timedOut) := by
        rw [learned, if_neg can, nacks]
        rfl
      refine ⟨d₂, _, (run_readBack_late asked).trans (again.trans ?_), linked₂, rfl, nacks⟩
      show ((learned b.flash.failing l.content l.nacks block).mapError Stop.failed, d₂) = _
      rw [silent]
      rfl

/-- what a client finds out about a block that it has sent, with NACKs on or off at either end -/
def verdict (failing : Nor.Failing) (content : List UInt8) (boardNacks hostNacks : Bool)
    (block : UInt16) (data : List UInt8) : Except Error Unit :=
  if boardNacks && !(replaces failing content block.toNat && readable failing content block.toNat) then
    .error (refusal hostNacks block)
  else if readable failing content block.toNat then
    let actual := checksum (blockAt (replaced failing content block.toNat data) block.toNat)
    if actual = checksum data then .ok ()
    else .error (.checksumMismatch block (checksum data) actual)
  else .error (.packet .timedOut)

theorem readable_replaced (failing : Nor.Failing) (content : List UInt8) (block : UInt16)
    {data : List UInt8} (full : data.length = blockSize) :
    readable failing (replaced failing content block.toNat data) block.toNat =
      readable failing content block.toNat := by
  rw [readable, readable, blockCount, blockCount, length_replaced failing block.toNat full]

/-- a reply to a CHECKSUM: an ACK and the checksum -/
def longestReply : Nat := Response.width + 4

theorem length_answered (failing : Nor.Failing) (l : Ledger) (block : UInt16) :
    (l.answered failing block).length ≤ longestReply := by
  rw [Ledger.answered]
  split
  · rw [Ledger.checksumReply, List.length_append, ByteOrder.length_encode]
    exact Nat.le_refl _
  · split <;> decide

/-- a client that writes a block finds out what the flags say, and leaves the board waiting for the next
command, with NACKs on or off as before; one reply may be left unread -/
theorem run_writeVerified_left (stands : Stands b) {data : List UInt8}
    (full : data.length = blockSize) (same : c.chunkSize = b.config.chunkSize)
    (enough : queue.length < c.rounds) (h : Linked d b l [] queue) (block : UInt16) :
    ∃ d' l' queue', (c.writeVerified block data).run answer d =
        ((verdict b.flash.failing l.content l.nacks c.nacks block data).mapError .failed, d') ∧
      Linked d' b l' [] queue' ∧
      l'.content = replaced b.flash.failing l.content block.toNat data ∧ l'.nacks = l.nacks ∧
      queue'.length ≤ longestReply := by
  have rounds : c.rounds ≠ 0 := Nat.ne_zero_of_lt enough
  obtain ⟨d₁, written, linked₁⟩ := run_writeBlock_late stands full same enough h block
  obtain ⟨content, nacks⟩ :=
    l.take_written b.config.chunkSize.toNat b.flash.failing block data
  generalize l.take b.config.chunkSize.toNat b.flash.failing (Request.write block data) = l₁
    at linked₁ content nacks
  rw [Client.writeVerified, Dialogue.run_bind_ok written, verdict]
  by_cases refused : l.nacks = true ∧ replaces b.flash.failing l.content block.toNat = false
  · -- the NACK of the WRITE is what the read-back meets first
    rw [Ledger.complaint, refused.1, refused.2, if_neg Bool.false_ne_true, if_pos rfl] at linked₁
    obtain ⟨d₂, asked, linked₂⟩ := run_checksumOnce_nack stands linked₁ block
    refine ⟨d₂, _, _, ?_, linked₂, content, nacks, length_answered ..⟩
    rw [Dialogue.run_bind_error (run_readBack_nack asked), refused.1, refused.2]
    rfl
  · have quiet : Ledger.complaint b.flash.failing l block.toNat = [] := by
      rw [Ledger.complaint]
      cases works : replaces b.flash.failing l.content block.toNat with
      | true => rfl
      | false =>
        rw [if_neg Bool.false_ne_true, if_neg fun on => refused ⟨on, works⟩]
    rw [quiet] at linked₁
    obtain ⟨d₂, l₂, back, linked₂, content₂, nacks₂⟩ := run_readBack_told stands linked₁ rounds block
    rw [content, readable_replaced _ _ _ full, nacks] at back
    refine ⟨d₂, l₂, [], ?_, linked₂, content₂.trans content, nacks₂.trans nacks, Nat.zero_le _⟩
    cases can : readable b.flash.failing l.content block.toNat with
    | true =>
      have heard : (l.nacks && !(replaces b.flash.failing l.content block.toNat && true)) = false := by
        cases on : l.nacks <;> cases works : replaces b.flash.failing l.content block.toNat <;>
          simp_all
      rw [can, if_pos rfl] at back
      rw [Dialogue.run_bind_ok back, heard]
      simp only [Bool.false_eq_true, if_false, if_true]
      split <;> rfl
    | false =>
      rw [can, if_neg Bool.false_ne_true] at back
      rw [Dialogue.run_bind_error back]
      simp only [Bool.and_false, Bool.not_false, Bool.and_true]
      cases l.nacks <;> rfl

theorem run_writeVerified_told (stands : Stands b) {data : List UInt8}
    (full : data.length = blockSize) (same : c.chunkSize = b.config.chunkSize)
    (enough : queue.length < c.rounds) (h : Linked d b l [] queue) (block : UInt16) :
    ∃ d' l' queue', (c.writeVerified block data).run answer d =
        ((verdict b.flash.failing l.content l.nacks c.nacks block data).mapError .failed, d') ∧
      Linked d' b l' [] queue' ∧
      l'.content = replaced b.flash.failing l.content block.toNat data := by
  obtain ⟨d', l', queue', ran, linked, content, -, -⟩ :=
    run_writeVerified_left stands full same enough h block
  exact ⟨d', l', queue', ran, linked, content⟩

/-- a client that does not get through what is left over from before gives up, and writes nothing -/
theorem run_writeVerified_stuck {data : List UInt8} (full : data.length = blockSize)
    (few : c.rounds ≤ queue.length) (h : Linked d b l [] queue) (block : UInt16) :
    ∃ d' queue', (c.writeVerified block data).run answer d = (.error .unfinished, d') ∧
      Linked d' b l [] queue' := by
  obtain ⟨d', ran, linked⟩ := run_discardFor h c.rounds
  have stuck : c.discard.run answer d = (.error .unfinished, d') := by
    rwa [if_neg (Nat.not_lt_of_le few)] at ran
  refine ⟨d', _, Dialogue.run_bind_error ?_, linked⟩
  rw [Client.write, if_neg (not_not_intro full)]
  exact Dialogue.run_bind_error stuck

/-! ## Verified writes -/

theorem verdict_ok {failing : Nor.Failing} {content data : List UInt8} {boardNacks hostNacks : Bool}
    (h : verdict failing content boardNacks hostNacks block data = .ok ()) :
    block.toNat < blockCount content ∧
      checksum (blockAt (replaced failing content block.toNat data) block.toNat) = checksum data := by
  unfold verdict at h
  split at h
  · cases h
  · split at h
    · rename_i can
      rw [readable, Bool.and_eq_true, decide_eq_true_iff] at can
      dsimp only at h
      split at h
      · rename_i equal
        exact ⟨can.2, equal⟩
      · cases h
    · cases h

theorem verdict_flawless {failing : Nor.Failing} (flawless : failing = {}) {content data : List UInt8}
    (full : data.length = blockSize) (inside : block.toNat < blockCount content)
    (boardNacks hostNacks : Bool) :
    verdict failing content boardNacks hostNacks block data = .ok () ∧
      blockAt (replaced failing content block.toNat data) block.toNat = data := by
  have landed : blockAt (replaced failing content block.toNat data) block.toNat = data := by
    rw [blockAt_replaced failing inside full, flawless]
    rfl
  rw [verdict, landed, replaces_flawless flawless inside, readable_flawless flawless inside]
  simp

/-- how a verified write of a block ended, and what it has made of the flash -/
structure Verified (block : UInt16) (data before after : List UInt8)
    (ended : Except (Stop Error) Unit) : Prop where
  /-- it is reported as done only if there is such a block, and its content checks out -/
  sound : ended = .ok () →
    block.toNat < blockCount after ∧ checksum (blockAt after block.toNat) = checksum data
  spared : ∀ other, other ≠ block.toNat → blockAt after other = blockAt before other
  length : after.length = before.length
  left : blockAt after block.toNat = blockAt before block.toNat ∨
    blockAt after block.toNat = erasedBlock ∨ blockAt after block.toNat = data

/-- nothing was done, and nothing is reported -/
theorem Verified.refl (block : UInt16) (data content : List UInt8) {why : Stop Error} :
    Verified block data content content (.error why) :=
  ⟨nofun, fun _ _ => rfl, rfl, .inl rfl⟩

theorem verified_of_verdict (failing : Nor.Failing) (content : List UInt8)
    (boardNacks hostNacks : Bool) (block : UInt16) {data : List UInt8}
    (full : data.length = blockSize) :
    Verified block data content (replaced failing content block.toNat data)
      ((verdict failing content boardNacks hostNacks block data).mapError .failed) where
  sound done := by
    have ok : verdict failing content boardNacks hostNacks block data = .ok () := by
      cases told : verdict failing content boardNacks hostNacks block data with
      | ok => rfl
      | error e =>
        rw [told] at done
        cases done
    rw [blockCount, length_replaced failing block.toNat full]
    exact verdict_ok ok
  spared other differ := blockAt_replaced_of_ne failing full differ
  length := length_replaced failing block.toNat full
  left := by
    by_cases inside : block.toNat < blockCount content
    · rw [blockAt_replaced failing inside full]
      cases failing.erases with
      | true => exact .inl rfl
      | false =>
        cases failing.programs with
        | true => exact .inr (.inl rfl)
        | false => exact .inr (.inr rfl)
    · left
      simp [replaced, replaces, erasable, inside]

theorem Linked.content (stands : Stands b) (h : Linked d b l [] queue) :
    ∃ r, d.cable.remote = .replayed r ∧ r.outcome.2.flash.content = l.content := by
  obtain ⟨r, remote, attends⟩ := h.remote
  obtain ⟨nacks, same⟩ := ledger_outcome stands attends
  exact ⟨r, remote, congrArg Ledger.content same⟩

/-- whatever of the flash fails, whether the two ends agree on NACKs or not, and whatever is left over from
before: a block that is reported as written checks out, and no other block is touched.  A flash without
failures takes every block it has -/
theorem verified_write (stands : Stands b) {data : List UInt8} (full : data.length = blockSize)
    (same : c.chunkSize = b.config.chunkSize) (h : Linked d b l [] queue) (block : UInt16) :
    ∃ ended d' r r', (c.writeVerified block data).run answer d = (ended, d') ∧
      d.cable.remote = .replayed r ∧ d'.cable.remote = .replayed r' ∧
      Verified block data r.outcome.2.flash.content r'.outcome.2.flash.content ended ∧
      (b.flash.failing = {} → block.toNat < blockCount r.outcome.2.flash.content →
        queue.length < c.rounds →
        ended = .ok () ∧ blockAt r'.outcome.2.flash.content block.toNat = data) := by
  obtain ⟨r, remote, before⟩ := h.content stands
  by_cases enough : queue.length < c.rounds
  · obtain ⟨d', l', queue', ran, linked, content⟩ :=
      run_writeVerified_told stands full same enough h block
    obtain ⟨r', remote', after⟩ := linked.content stands
    refine ⟨_, d', r, r', ran, remote, remote', ?_, fun flawless inside _ => ?_⟩
    · rw [before, after, content]
      exact verified_of_verdict b.flash.failing l.content l.nacks c.nacks block full
    · rw [before] at inside
      obtain ⟨done, landed⟩ := verdict_flawless flawless full inside l.nacks c.nacks
      rw [after, content, done]
      exact ⟨rfl, landed⟩
  · obtain ⟨d', queue', ran, linked⟩ :=
      run_writeVerified_stuck full (Nat.le_of_not_lt enough) h block
    obtain ⟨r', remote', after⟩ := linked.content stands
    refine ⟨_, d', r, r', ran, remote, remote', ?_, fun _ _ enough' => absurd enough' enough⟩
    rw [before, after]
    exact .refl block data l.content

/-- a board that has NACKs on, under a client that takes them to be off; one byte is left over -/
theorem verified_write_marked :
    let b : Board := { Board.standard 1 with config.nackOnFailure := true }
    let c : Client := { chunkSize := b.config.chunkSize }
    let cable := Cable.connect .duplex 500 (.replayed { board := b, bootstrap := false })
    let d : Desk := { cable := { cable with atHand := [7] }, folder := working [] }
    (Stands b ∧ markedBlock.length = blockSize ∧ c.chunkSize = b.config.chunkSize ∧
      Linked d b (b.ledger true) [] [7]) ∧
    ∃ d' r', (c.writeVerified 0 markedBlock).run answer d = (.ok (), d') ∧
      d'.cable.remote = .replayed r' ∧ blockAt r'.outcome.2.flash.content 0 = markedBlock := by
  intro b c cable d
  have standard := stands_standard 1
  have stands : Stands b :=
    ⟨standard.valid, ⟨standard.prompt.virtual, standard.prompt.tick, standard.prompt.laid,
      standard.prompt.open_⟩, standard.inits, standard.unheard⟩
  have linked : Linked d b (b.ledger true) [] [7] :=
    ⟨rfl, rfl, rfl, rfl, _, rfl, attends_start⟩
  obtain ⟨ended, d', r, r', ran, remote, remote', -, flawless⟩ :=
    verified_write (c := c) stands length_markedBlock rfl linked 0
  have inside : (0 : UInt16).toNat < blockCount r.outcome.2.flash.content := by
    obtain ⟨r₀, remote₀, content⟩ := linked.content stands
    cases remote.symm.trans remote₀
    have blank : b.flash = (Board.standard 1).flash := rfl
    rw [content, Board.content_ledger, blank, content_standard, blockCount_replicate]
    decide
  have few : [(7 : UInt8)].length < c.rounds := by decide
  obtain ⟨rfl, landed⟩ := flawless rfl inside few
  exact ⟨⟨stands, length_markedBlock, rfl, linked⟩, d', r', ran, remote', landed⟩

end Desk

end FlashRescue
