import FlashRescue.Proofs.Checksum.Burst
import FlashRescue.Proofs.Host.Failures

/-!
# A block that was altered is rewritten

A block whose content differs from the one it is to have in a burst has another checksum, so that a client on a
lossless cable does not take it for unchanged.

* `run_sync_late`     a block is left alone or written, whatever was left over from before;
* `bursts_noticed`    a block with a burst in it is written, and has its content then.
-/

namespace FlashRescue.Desk

open Host Replay

variable {d : Desk} {b : Board} {l : Ledger} {c : Client} {queue : List UInt8} {block : UInt16}
  {data : List UInt8}

theorem run_sync_late (stands : Stands b) (flawless : b.flash.failing = {}) (full : data.length = blockSize)
    (enough : queue.length < c.rounds) (same : c.chunkSize = b.config.chunkSize) (h : Linked d b l [] queue)
    (inside : block.toNat < blockCount l.content) :
    ∃ d' l', (c.sync block data).run answer d = (.ok (synced l.content block.toNat data), d') ∧
      Linked d' b l' [] [] ∧ l'.content = stored l.content block.toNat data := by
  obtain ⟨d₁, late, linked₁⟩ := run_insist_late (Client.checksumOnce block) c.retries.toNat enough h
  obtain ⟨d', l', ran, linked, content, -⟩ :=
    run_sync stands flawless full (Nat.ne_zero_of_lt enough) same linked₁ inside
  refine ⟨d', l', ?_, linked, content⟩
  have later : (c.sync block data).run answer d = (c.sync block data).run answer d₁ := by
    show (Dialogue.bind (c.checksum block) _).run answer d = (Dialogue.bind (c.checksum block) _).run answer d₁
    rw [Dialogue.run_bind, Dialogue.run_bind, Client.checksum, late]
  rw [later, ran]

/-- blocks that differ in a burst have different checksums; so a block of a board on a lossless cable that differs
from the one it is to be in a burst is written, and holds that one then -/
theorem bursts_noticed :
    (∀ block block' : List UInt8, block.length = blockSize → block'.length = blockSize → block ≠ block' →
      Burst block block' → checksum block ≠ checksum block') ∧
    ∀ {d : Desk} {b : Board} {l : Ledger} {r : Replay} {c : Client} {queue : List UInt8} {block : UInt16}
      {data : List UInt8}, Stands b → b.flash.failing = {} → c.chunkSize = b.config.chunkSize →
      Linked d b l [] queue → queue.length < c.rounds → d.cable.remote = .replayed r →
      block.toNat < blockCount r.outcome.2.flash.content → data.length = blockSize →
      blockAt r.outcome.2.flash.content block.toNat ≠ data →
      Burst (blockAt r.outcome.2.flash.content block.toNat) data →
      ∃ d' r', (c.sync block data).run answer d = (.ok .written, d') ∧ d'.cable.remote = .replayed r' ∧
        blockAt r'.outcome.2.flash.content block.toNat = data := by
  refine ⟨fun block block' length length' => checksum_ne_of_burst (length.trans length'.symm), ?_⟩
  intro d b l r c queue block data stands flawless same linked enough remote inside full differ burst
  obtain ⟨r₀, remote₀, content⟩ := linked.content stands
  cases remote.symm.trans remote₀
  rw [content] at inside differ burst
  obtain ⟨d', l', ran, linked', content'⟩ := run_sync_late stands flawless full enough same linked inside
  obtain ⟨r', remote', after⟩ := linked'.content stands
  have length : (blockAt l.content block.toNat).length = data.length :=
    (length_blockAt inside).trans full.symm
  have written : synced l.content block.toNat data = .written :=
    if_neg (checksum_ne_of_burst length differ burst)
  rw [written] at ran
  refine ⟨d', r', ran, remote', ?_⟩
  rw [after, content', blockAt_stored inside full, if_pos ⟨rfl, written⟩]

/-- an erased block that is to be marked in its first byte, with a byte left over from before -/
theorem bursts_noticed_marked :
    let b := Board.standard 1
    let c : Client := { chunkSize := b.config.chunkSize }
    let cable := Cable.connect .duplex 500 (.replayed { board := b, bootstrap := false })
    let d : Desk := { cable := { cable with atHand := [7] }, folder := working [] }
    (Stands b ∧ Linked d b (b.ledger false) [] [7] ∧ erasedBlock ≠ markedBlock ∧
      Burst erasedBlock markedBlock) ∧
    checksum erasedBlock ≠ checksum markedBlock ∧
    ∃ d' r', (c.sync 0 markedBlock).run answer d = (.ok .written, d') ∧ d'.cable.remote = .replayed r' ∧
      blockAt r'.outcome.2.flash.content 0 = markedBlock := by
  intro b c cable d
  have stands := stands_standard 1
  have linked : Linked d b (b.ledger false) [] [7] := ⟨rfl, rfl, rfl, rfl, _, rfl, attends_start⟩
  have first : erasedBlock = Nor.erased :: List.replicate 4095 Nor.erased := List.replicate_succ
  have differ : erasedBlock ≠ markedBlock := by
    rw [first]
    intro same
    exact absurd (List.cons.inj same).1 (by decide)
  have burst : Burst erasedBlock markedBlock := by
    rw [first]
    exact burst_byte [] (List.replicate 4095 Nor.erased) Nor.erased 0
  obtain ⟨r, remote, content⟩ := linked.content stands
  have blank : r.outcome.2.flash.content = List.replicate (1 * blockSize) Nor.erased := by
    rw [content, Board.content_ledger, content_standard]
  have erased : blockAt r.outcome.2.flash.content 0 = erasedBlock := by
    rw [blank, blockAt, List.drop_replicate, List.take_replicate]
    rfl
  have inside : (0 : UInt16).toNat < blockCount r.outcome.2.flash.content := by
    rw [blank, blockCount_replicate]
    decide
  have few : [(7 : UInt8)].length < c.rounds := by decide
  have noticed := bursts_noticed.2 stands rfl (c := c) rfl linked few remote inside length_markedBlock
    (erased.symm ▸ differ) (erased.symm ▸ burst)
  exact ⟨⟨stands, linked, differ, burst⟩,
    bursts_noticed.1 _ _ length_erasedBlock length_markedBlock differ burst, noticed⟩

end FlashRescue.Desk
