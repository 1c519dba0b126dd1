import FlashRescue.Proofs.Checksum
import FlashRescue.Proofs.Host.Exchange
import FlashRescue.Proofs.Host.Image

/-!
# An image is brought to a board

A client goes through the blocks of an image on a lossless cable, and then lets the board go.

* `Client.syncAll`   the pass;
* `run_syncs`        what a pass over some blocks comes to;
* `Flashed`          what a pass answers and leaves in the flash;
* `flashing`         a pass and an EXIT, and a pass that is made again.
-/

namespace FlashRescue

open Host Replay

namespace Host

/-- every block of an image is written if need be, in order -/
def Client.syncAll (c : Client) (image : Image) : Talk (List Sync) :=
  image.numbers.mapM fun number => c.sync (UInt16.ofNat number) (image.block number)

end Host

namespace Desk

variable {d : Desk} {b : Board} {l : Ledger} {c : Client}

theorem length_stored {content data : List UInt8} {block : Nat} (inside : block < blockCount content)
    (full : data.length = blockSize) : (stored content block data).length = content.length := by
  rw [stored]
  split
  · exact length_putBlock inside full
  · rfl

theorem blockAt_stored {content data : List UInt8} {block : Nat} (inside : block < blockCount content)
    (full : data.length = blockSize) (k : Nat) :
    blockAt (stored content block data) k =
      if k = block ∧ synced content block data = .written then data else blockAt content k := by
  rw [stored]
  by_cases written : synced content block data = .written
  · by_cases same : k = block
    · rw [if_pos written, if_pos ⟨same, written⟩, same, blockAt_putBlock inside full]
    · rw [if_pos written, if_neg fun both => same both.1, blockAt_putBlock_of_ne inside full same]
  · rw [if_neg written, if_neg fun both => written both.2]

theorem run_syncs (stands : Stands b) (flawless : b.flash.failing = {}) (rounds : c.rounds ≠ 0)
    (same : c.chunkSize = b.config.chunkSize) (image : Image) {numbers : List Nat}
    (once : numbers.Nodup) (among : ∀ n ∈ numbers, n < image.blocks)
    (fits : image.blocks ≤ blockCount l.content) (h : Linked d b l [] []) :
    let answers := numbers.map fun n => synced l.content n (image.block n)
    ∃ d' l', (numbers.mapM fun n => c.sync (UInt16.ofNat n) (image.block n)).run answer d =
        (.ok answers, d') ∧
      Linked d' b l' [] [] ∧ l'.content.length = l.content.length ∧
      (∀ k, blockAt l'.content k =
        if k ∈ numbers ∧ synced l.content k (image.block k) = .written then image.block k
        else blockAt l.content k) ∧
      l'.erases = l.erases + answers.count .written ∧
      l'.programs = l.programs + answers.count .written := by
  induction numbers generalizing d l with
  | nil => exact ⟨d, l, rfl, h, rfl, by simp, rfl, rfl⟩
  | cons n numbers ih =>
    obtain ⟨fresh, once⟩ := List.nodup_cons.mp once
    have inside := among n List.mem_cons_self
    have full := image.length_block inside
    have number := image.toNat_number inside
    have inside₀ : (UInt16.ofNat n).toNat < blockCount l.content := by
      rw [number]
      exact Nat.lt_of_lt_of_le inside fits
    obtain ⟨d₁, l₁, step, linked₁, content, erases, programs⟩ :=
      run_sync stands flawless full rounds same h inside₀
    rw [number] at step content erases programs inside₀
    have length₁ : l₁.content.length = l.content.length := by
      rw [content, length_stored inside₀ full]
    have fits₁ : image.blocks ≤ blockCount l₁.content := by
      rw [blockCount, length₁]
      exact fits
    obtain ⟨d₂, l₂, rest, linked₂, length₂, blocks₂, erases₂, programs₂⟩ :=
      ih once (fun n' mem => among n' (List.mem_cons_of_mem _ mem)) fits₁ linked₁
    -- the blocks to come are not touched by this one
    have later : ∀ k ∈ numbers, blockAt l₁.content k = blockAt l.content k := by
      intro k mem
      have other : k ≠ n := fun same => fresh (same ▸ mem)
      rw [content, blockAt_stored inside₀ full, if_neg fun both => other both.1]
    have answers : (numbers.map fun k => synced l₁.content k (image.block k)) =
        numbers.map fun k => synced l.content k (image.block k) := by
      apply List.map_congr_left
      intro k mem
      rw [synced, synced, later k mem]
    rw [answers] at rest erases₂ programs₂
    refine ⟨d₂, l₂, ?_, linked₂, length₂.trans length₁, ?_, ?_, ?_⟩
    · rw [List.mapM_cons, Dialogue.run_bind_ok step, Dialogue.run_bind_ok rest]
      rfl
    · intro k
      rw [blocks₂]
      by_cases mem : k ∈ numbers
      · have same : synced l₁.content k (image.block k) = synced l.content k (image.block k) := by
          rw [synced, synced, later k mem]
        simp [mem, same, later k mem]
      · rw [if_neg fun both => mem both.1, content, blockAt_stored inside₀ full]
        by_cases first : k = n
        · simp [first]
        · simp [first, mem]
    · rw [erases₂, erases, Nat.add_assoc, ← List.count_append]
      rfl
    · rw [programs₂, programs, Nat.add_assoc, ← List.count_append]
      rfl

/-! ## Passes -/

/-- what a pass over an image has answered, and made of a content -/
structure Flashed (image : Image) (before after : List UInt8) (answers : List Sync) : Prop where
  /-- a block was written if and only if the checksums differed -/
  decided : answers = image.numbers.map fun n =>
    if checksum (blockAt before n) = checksum (image.block n) then .unchanged else .written
  /-- every block that was written holds that of the image -/
  written : ∀ n, answers[n]? = some .written → blockAt after n = image.block n
  /-- all others are as they were, those beyond the image included -/
  kept : ∀ n, answers[n]? ≠ some .written → blockAt after n = blockAt before n
  length : after.length = before.length

theorem run_syncAll (stands : Stands b) (flawless : b.flash.failing = {}) (rounds : c.rounds ≠ 0)
    (same : c.chunkSize = b.config.chunkSize) (image : Image)
    (fits : image.blocks ≤ blockCount l.content) (h : Linked d b l [] []) :
    ∃ answers d' l', (c.syncAll image).run answer d = (.ok answers, d') ∧ Linked d' b l' [] [] ∧
      Flashed image l.content l'.content answers ∧
      l'.erases = l.erases + answers.count .written ∧
      l'.programs = l.programs + answers.count .written := by
  obtain ⟨d', l', ran, linked, length, blocks, erases, programs⟩ :=
    run_syncs stands flawless rounds same image List.nodup_range (fun n mem => List.mem_range.mp mem)
      fits h
  have answered (n : Nat) :
      (image.numbers.map fun n => synced l.content n (image.block n))[n]? = some .written ↔
        n ∈ image.numbers ∧ synced l.content n (image.block n) = .written := by
    rw [Image.numbers, List.getElem?_map, List.mem_range]
    by_cases inside : n < image.blocks
    · simp [inside]
    · simp [inside]
  refine ⟨_, d', l', ran, linked, ⟨rfl, ?_, ?_, length⟩, erases, programs⟩
  · intro n written
    exact (blocks n).trans (if_pos ((answered n).mp written))
  · intro n kept
    exact (blocks n).trans (if_neg fun both => kept ((answered n).mpr both))

/-- a pass that is made again finds nothing to do -/
theorem Flashed.again {image : Image} {before after : List UInt8} {answers : List Sync}
    (h : Flashed image before after answers) {after' : List UInt8} {answers' : List Sync}
    (h' : Flashed image after after' answers') :
    answers' = List.replicate image.blocks .unchanged := by
  rw [h'.decided, List.eq_replicate_iff]
  constructor
  · rw [List.length_map, Image.numbers, List.length_range]
  · intro answer mem
    obtain ⟨n, inside, rfl⟩ := List.mem_map.mp mem
    have decided : answers[n]? = some
        (if checksum (blockAt before n) = checksum (image.block n) then .unchanged else .written) := by
      have number : image.numbers[n]? = some n := by
        rw [Image.numbers] at inside ⊢
        rw [List.getElem?_range (List.mem_range.mp inside)]
      rw [h.decided, List.getElem?_map, number]
      rfl
    by_cases equal : checksum (blockAt before n) = checksum (image.block n)
    · rw [if_pos equal] at decided
      have kept := h.kept n (by rw [decided]; decide)
      rw [kept, if_pos equal]
    · rw [if_neg equal] at decided
      rw [h.written n decided, if_pos rfl]

/-- and changes nothing -/
theorem Flashed.unchanged {image : Image} {before after : List UInt8} {n : Nat}
    (h : Flashed image before after (List.replicate n .unchanged)) : after = before := by
  apply ext_blockAt
  intro block
  apply h.kept
  rw [List.getElem?_replicate]
  split
  · nofun
  · nofun

/-! ## The whole procedure -/

/-- what a board comes to that was replayed on all it has heard -/
structure Leaves (b : Board) (after : List UInt8) (written : Nat) (r : Replay) : Prop where
  content : r.outcome.2.flash.content = after
  erases : r.outcome.2.flash.count.erases = b.flash.count.erases + written
  programs : r.outcome.2.flash.count.programs = b.flash.count.programs + written

theorem leaves_of_ledger {after : List UInt8} {written : Nat} {r : Replay} {nacks : Bool}
    (same : r.outcome.2.ledger nacks = l) (content : l.content = after)
    (erases : l.erases = b.flash.count.erases + written)
    (programs : l.programs = b.flash.count.programs + written) : Leaves b after written r := by
  subst same
  exact ⟨content, erases, programs⟩

theorem linked_connect (unsent : b.line.outgoing = []) {timeoutMs : Nat}
    (cable : d.cable = .connect .duplex timeoutMs (.replayed { board := b, bootstrap := false })) :
    Linked d b (b.ledger b.config.nackOnFailure) [] [] := by
  have start : Attends ⟨b, false, [], 0⟩ b (b.ledger b.config.nackOnFailure) [] := by
    have start := @attends_start b
    rwa [unsent] at start
  obtain ⟨cable', terminal, folder, openError⟩ := d
  cases cable
  exact ⟨rfl, rfl, rfl, rfl, _, rfl, start⟩

/-- a pass over an image succeeds, whatever was in the flash, and leaves the image there, up to
blocks of the same checksum; a board that is let go then leaves its session, and a second pass finds nothing
to do -/
theorem flashing (stands : Stands b) (flawless : b.flash.failing = {})
    (unsent : b.line.outgoing = []) (image : Image)
    (fits : image.blocks ≤ blockCount b.flash.content) (retries : UInt32) (nacks : Bool)
    (timeoutMs : Nat)
    (cable : d.cable = .connect .duplex timeoutMs (.replayed { board := b, bootstrap := false })) :
    let c : Client := { retries, chunkSize := b.config.chunkSize, nacks }
    ∃ answers after, Flashed image b.flash.content after answers ∧
      (∃ d' r, (do
          let answers ← c.syncAll image
          Client.exit
          return answers).run answer d = (.ok answers, d') ∧
        d'.cable.remote = .replayed r ∧ r.outcome.1 = .ok .exited ∧
        Leaves b after (answers.count .written) r) ∧
      (∃ d' r, (do
          let first ← c.syncAll image
          let second ← c.syncAll image
          return (first, second)).run answer d =
            (.ok (answers, List.replicate image.blocks .unchanged), d') ∧
        d'.cable.remote = .replayed r ∧ Leaves b after (answers.count .written) r) := by
  intro c
  have rounds : c.rounds ≠ 0 := show ({} : Client).rounds ≠ 0 by decide
  have linked := linked_connect unsent cable
  obtain ⟨answers, d₁, l₁, ran₁, linked₁, flashed₁, erases₁, programs₁⟩ :=
    run_syncAll stands flawless rounds rfl image fits linked
  refine ⟨answers, l₁.content, flashed₁, ?_, ?_⟩
  · obtain ⟨d₂, r, exited, remote, outcome, nacks', same⟩ := run_exit stands linked₁
    refine ⟨d₂, r, ?_, remote, outcome, leaves_of_ledger same rfl erases₁ programs₁⟩
    rw [Dialogue.run_bind_ok ran₁, Dialogue.run_bind_ok exited]
    rfl
  · have fits₁ : image.blocks ≤ blockCount l₁.content := by
      rw [blockCount, flashed₁.length]
      exact fits
    obtain ⟨answers₂, d₂, l₂, ran₂, linked₂, flashed₂, erases₂, programs₂⟩ :=
      run_syncAll stands flawless rounds rfl image fits₁ linked₁
    have nothing := flashed₁.again flashed₂
    rw [nothing] at ran₂ flashed₂ erases₂ programs₂
    rw [List.count_replicate] at erases₂ programs₂
    obtain ⟨r, remote, attends⟩ := linked₂.remote
    obtain ⟨nacks', same⟩ := ledger_outcome stands attends
    rw [partly_nil, Ledger.say_nil] at same
    refine ⟨d₂, r, ?_, remote, leaves_of_ledger same flashed₂.unchanged (erases₂.trans erases₁)
      (programs₂.trans programs₁)⟩
    rw [Dialogue.run_bind_ok ran₁, Dialogue.run_bind_ok ran₂]
    rfl

def markedImage : Image where
  bytes := markedBlock.toByteArray
  blocks := 1
  size_eq := by
    rw [List.size_toByteArray, length_markedBlock, Nat.one_mul]
  blocks_pos := by decide
  blocks_le := by decide

theorem block_markedImage : markedImage.block 0 = markedBlock := by
  have bytes : markedImage.bytes.data.toList = markedBlock := by
    rw [markedImage, List.data_toByteArray]
  rw [Image.block, ByteArray.data_extract, Array.toList_extract, List.extract_eq_take_drop, bytes,
    Nat.zero_mul, List.drop_zero, Nat.zero_add, Nat.one_mul, Nat.sub_zero, ← length_markedBlock,
    List.take_length]

theorem content_standard (blocks : Nat) :
    (Board.standard blocks).flash.content = List.replicate (blocks * blockSize) Nor.erased :=
  Nor.content_blank blocks

/-- one block, which differs from that of the image in its first byte -/
theorem flashing_marked :
    let b := Board.standard 1
    let c : Client := { retries := 3, chunkSize := b.config.chunkSize, nacks := false }
    let remote := Remote.replayed { board := b, bootstrap := false }
    let d : Desk := { cable := .connect .duplex 500 remote, folder := working [] }
    (Stands b ∧ b.flash.failing = {} ∧ b.line.outgoing = [] ∧
      markedImage.blocks ≤ blockCount b.flash.content) ∧
    ∃ d' r, (do
        let answers ← c.syncAll markedImage
        Client.exit
        return answers).run answer d = (.ok [.written], d') ∧
      d'.cable.remote = .replayed r ∧ r.outcome.1 = .ok .exited := by
  intro b c remote d
  have fits : markedImage.blocks ≤ blockCount b.flash.content := by
    rw [content_standard, blockCount_replicate]
    decide
  obtain ⟨answers, after, flashed, ⟨d', r, ran, remote', outcome, -⟩, -⟩ :=
    flashing (stands_standard 1) rfl rfl markedImage fits 3 false 500 (d := d) rfl
  have differ : checksum (blockAt b.flash.content 0) ≠ checksum (markedImage.block 0) := by
    have blank : blockAt b.flash.content 0 = erasedBlock := by
      rw [content_standard, blockAt, List.drop_replicate, List.take_replicate]
      rfl
    rw [block_markedImage, blank]
    exact checksum_markedBlock
  have decided : answers = [.written] := by
    rw [flashed.decided]
    show [if checksum (blockAt b.flash.content 0) = checksum (markedImage.block 0) then _ else _] = _
    rw [if_neg differ]
  rw [decided] at ran
  exact ⟨⟨stands_standard 1, rfl, rfl, fits⟩, d', r, ran, remote', outcome⟩

end Desk

end FlashRescue
