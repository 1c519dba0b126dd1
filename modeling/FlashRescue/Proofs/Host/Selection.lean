import FlashRescue.Proofs.Dialogue.Walk
import FlashRescue.Proofs.Host.Conduct
import FlashRescue.Proofs.Host.Finishing

/-!
# Blocks of an image are written

Which blocks of a file are written and verified, and with which bytes, whatever the machine replies.

* `Host.Unfit`        there is nothing of a file to write;
* `Host.selection`    the numbers of the blocks that are to be written; `selected_eq`;
* `Client.Trouble`    the ways in which a write of a whole block may stop; `trouble_writeVerified`: there are no
                      others;
* `Host.Placed`       the ways in which one block can be written; `recorded_placed`: there are no others;
* `Host.Selects`      what comes of a file; `writes_selection`.
-/

namespace FlashRescue.Host

open Dialogue

/-! ## Numbers -/

section
variable (blocks : Nat) (start : UInt16)

/-- there is nothing to write of a file of this size -/
def Unfit (size : Nat) (count : Option UInt16) : Prop :=
  Malformed size ∨ size / blockSize ≤ start.toNat ∨ count = some 0

/-- the number after that of the last block to be written -/
def finish : Option UInt16 → Nat
  | some count => min blocks (start.toNat + count.toNat)
  | none => blocks

/-- the numbers of the blocks that are to be written -/
def selection (count : Option UInt16) : List Nat :=
  List.range' start.toNat (finish blocks start count - start.toNat)

theorem finish_le (count : Option UInt16) : finish blocks start count ≤ blocks := by
  cases count with
  | none => exact Nat.le_refl _
  | some count => exact Nat.min_le_left ..

theorem selection_eq_nil (count : Option UInt16) :
    selection blocks start count = [] ↔ blocks ≤ start.toNat ∨ count = some 0 := by
  rw [selection, List.range'_eq_nil_iff]
  cases count with
  | none => simp [finish, Nat.sub_eq_zero_iff_le]
  | some count =>
    have zero : (some count = some 0) ↔ count.toNat = 0 := by
      rw [Option.some.injEq, ← UInt16.toNat_inj]
      rfl
    rw [zero, finish]
    omega

end

theorem selected_eq (image : Image) (start : UInt16) (count : Option UInt16) :
    selected image start count = selection image.blocks start count := by
  have rest : image.numbers.drop start.toNat = List.range' start.toNat (image.blocks - start.toNat) := by
    rw [Image.numbers, List.range_eq_range', List.drop_range', Nat.zero_add, Nat.mul_one]
  unfold selected
  rw [rest, selection]
  cases count with
  | none => rfl
  | some count =>
    show List.take count.toNat _ = List.range' start.toNat (min image.blocks (start.toNat + count.toNat) - start.toNat)
    rcases Nat.le_total (image.blocks - start.toNat) count.toNat with few | many
    · rw [List.take_range'_of_length_le few]
      congr 1
      omega
    · rw [List.take_range'_of_length_ge many]
      congr 1
      omega

/-! ## Errors -/

namespace Client

/-- the ways in which a write of a whole block may stop -/
inductive Trouble : Stop Error → Prop
  | packet (e : LinkError) : Trouble (.failed (.packet e))
  | link (e : LinkError) : Trouble (.failed (.link e))
  | nack (op : Opcode) (block : UInt16) : Trouble (.failed (.nack op block))
  | noAck (op : Opcode) : Trouble (.failed (.noAck op))
  | mismatch (block : UInt16) (expected actual : UInt32) :
      Trouble (.failed (.checksumMismatch block expected actual))
  | emptyChunk : Trouble (.broken .emptyChunk)
  | unfinished : Trouble .unfinished

variable (c : Client) (block : UInt16)

theorem trouble_checksumOnce : (checksumOnce block).Halts Trouble :=
  checksumOnce_halts .packet (.nack ..) (.noAck _)

theorem trouble_writeBlock {data : List UInt8} (full : data.length = blockSize) :
    (c.write block data).Halts Trouble := by
  rw [write, if_neg (not_not_intro full)]
  refine halts_bind (discard_halts .link .unfinished c) fun _ => halts_bind (send_halts .packet _) fun _ => ?_
  refine halts_bind (awaitAck_halts .packet (.nack ..) (.noAck _)) fun _ => ?_
  split
  · exact .emptyChunk
  · exact sendChunks_halts .packet (.nack ..) (.noAck _) _

theorem trouble_readBack : (c.readBack block).Halts Trouble := by
  apply halts_trial (trouble_checksumOnce block)
  · intro crc
    trivial
  · intro e trouble
    dsimp only
    split
    · exact .nack .write block
    · split
      · exact insist_halts .link .unfinished c _ (trouble_checksumOnce block)
      · exact trouble

theorem trouble_writeVerified {data : List UInt8} (full : data.length = blockSize) :
    (c.writeVerified block data).Halts Trouble := by
  apply halts_bind (c.trouble_writeBlock block full)
  intro _
  apply halts_bind (c.trouble_readBack block)
  intro actual
  split
  · trivial
  · exact .mismatch block _ actual

end Client

/-! ## The ways of a block -/

section
variable {σ : Type} {answer : machine.Answerer σ} {s s' : σ} {calls : List Call} {color : Bool} {c : Client}
  {image : Image} {bytes : ByteArray} {start : UInt16} {count : Option UInt16} {number : Nat}
  {ended : Except (Stop Error) Unit}

/-- the ways in which one block of some bytes can be written: it is written and verified under its own number, with
the bytes at its own place, and nothing else is sent -/
inductive Placed (answer : machine.Answerer σ) (color : Bool) (c : Client) (bytes : ByteArray) (number : Nat) :
    List Call → Except (Stop Error) Unit → Prop
  | placed {block : UInt16} {data : List UInt8} {made told : List Call} {ended : Except (Stop Error) Unit}
      {s s' : σ} (same : block.toNat = number) (full : data.length = blockSize)
      (cut : ∀ j < blockSize, data[j]? = bytes.data[blockSize * number + j]?)
      (went : Recorded answer (c.writeVerified block data) s made ended s') (silent : packets told = []) :
      Placed answer color c bytes number
        (⟨.print ("Writing block " ++ hexText 4 number ++ "... "), ()⟩ :: (made ++ told)) ended

/-- writes a block of an image, and tells the operator what came of it -/
def placeBlock (color : Bool) (c : Client) (image : Image) (number : Nat) : Talk Unit := do
  print ("Writing block " ++ hexText 4 number ++ "... ")
  report color (c.writeVerified (UInt16.ofNat number) (image.block number))

theorem recorded_placed (inside : number < image.blocks)
    (h : Recorded answer (placeBlock color c image number) s calls ended s') :
    Placed answer color c image.bytes number calls ended := by
  obtain ⟨rest, rfl, reporting⟩ := recorded_told h
  obtain ⟨made, told, s₁, rfl, went, silent⟩ := recorded_report reporting
  exact .placed (image.toNat_number inside) (image.length_block inside)
    (fun j small => image.getElem?_block small) went silent

/-- a block that cannot be written is not said to be no image -/
theorem Placed.not_invalid {reason : String}
    (h : Placed answer color c bytes number calls (.error (.failed (.invalidImage reason)))) : False := by
  cases h with
  | placed same full cut went silent =>
    have trouble := (c.trouble_writeVerified _ full).run went.run
    cases trouble

/-! ## A whole file -/

/-- how the blocks of a file are written -/
structure Selects (answer : machine.Answerer σ) (color : Bool) (c : Client) (bytes : ByteArray) (start : UInt16)
    (count : Option UInt16) (calls : List Call) (ended : Except (Stop Error) Unit) : Prop where
  /-- the file is refused just if there is nothing of it to write -/
  refused : (∃ reason, ended = .error (.failed (.invalidImage reason))) ↔ Unfit start bytes.size count
  unsent : Unfit start bytes.size count → calls = []
  /-- all others are written in turn: up to the last block, or up to the first that cannot be written -/
  placed : ¬ Unfit start bytes.size count →
    Walk (Placed answer color c bytes) (selection (bytes.size / blockSize) start count) calls ended

theorem selects_unfit (unfit : Unfit start bytes.size count) (reason : String) :
    Selects answer color c bytes start count [] (.error (.failed (.invalidImage reason))) where
  refused := iff_of_true ⟨reason, rfl⟩ unfit
  unsent _ := rfl
  placed fit := absurd unfit fit

theorem selects_image (well : ¬ Malformed image.bytes.size)
    (h : Recorded answer (writeBlocks color c image start count) s calls ended s') :
    Selects answer color c image.bytes start count calls ended := by
  have blocks := image.blocks_eq
  rw [writeBlocks, selected_eq] at h
  by_cases none_ : selection image.blocks start count = []
  · have unfit : Unfit start image.bytes.size count := by
      rw [selection_eq_nil, blocks] at none_
      exact .inr none_
    rw [none_] at h
    obtain ⟨rfl, rfl, -⟩ := h.unique (recorded_stop (.failed (Error.invalidImage _)) s)
    exact selects_unfit unfit _
  · have fit : ¬ Unfit start image.bytes.size count := by
      rintro (malformed | empty)
      · exact well malformed
      · rw [← blocks, ← selection_eq_nil] at empty
        exact none_ empty
    have some_ : (selection image.blocks start count).isEmpty = false := by
      rw [← Bool.not_eq_true, List.isEmpty_iff]
      exact none_
    have inside : ∀ number ∈ selection image.blocks start count, number < image.blocks := by
      intro number mem
      have within := List.mem_range'_1.mp mem
      have below := finish_le image.blocks start count
      omega
    rw [some_] at h
    have walk : Walk (Placed answer color c image.bytes) (selection image.blocks start count) calls ended :=
      recorded_walk (fun number mem _ _ _ _ => recorded_placed (inside number mem)) h
    refine ⟨iff_of_false ?_ fit, fun unfit => absurd unfit fit, fun _ => blocks ▸ walk⟩
    rintro ⟨reason, rfl⟩
    obtain ⟨_, number, _, _, last, _, _, _, stopped⟩ := walk.of_error
    exact stopped.not_invalid

/-- whatever the machine replies, just the blocks of a file that were selected are written and verified: in their
order, each once, with its own bytes and its own number, and each only when the one before it went well.  A file
with nothing to write is refused before anything is sent, and no other file is -/
theorem writes_selection {path : String}
    (h : Recorded answer (doJob color c (.write path start count)) s calls ended s') :
    ∃ rest, calls = ⟨.readFile path, (answer (.readFile path) s).1⟩ :: rest ∧
      (∀ e, (answer (.readFile path) s).1 = .error e → rest = [] ∧ ended = .error (.failed (.io e))) ∧
      ∀ bytes, (answer (.readFile path) s).1 = .ok bytes → Selects answer color c bytes start count rest ended := by
  rcases h.of_bind with ⟨why, rfl, stopped⟩ | ⟨first, image, s₁, rest, rfl, read, writing⟩
  · obtain ⟨rfl, same, -⟩ := stopped.unique (recorded_readImage path s)
    generalize (answer (.readFile path) s).1 = file at same ⊢
    refine ⟨[], rfl, ?_, ?_⟩
    · rintro e rfl
      cases same
      exact ⟨rfl, rfl⟩
    · rintro bytes rfl
      rcases ofBytes?_cases bytes with ⟨reason, refused, malformed⟩ | ⟨image, valid, -⟩
      · rw [imageOf_ok, refused] at same
        cases same
        exact selects_unfit (.inl malformed) reason
      · rw [imageOf_ok, valid] at same
        cases same
  · obtain ⟨rfl, same, -⟩ := read.unique (recorded_readImage path s)
    generalize (answer (.readFile path) s).1 = file at same ⊢
    refine ⟨rest, rfl, ?_, ?_⟩
    · rintro e rfl
      cases same
    · rintro bytes rfl
      rcases ofBytes?_cases bytes with ⟨reason, refused, -⟩ | ⟨image', valid, rfl, well⟩
      · rw [imageOf_ok, refused] at same
        cases same
      · rw [imageOf_ok, valid] at same
        cases same
        exact selects_image well writing

end

section
open Desk Replay
variable {d : Desk} {b : Board} {l : Ledger} {c : Client} {image : Image}

theorem run_report {σ α : Type} {answer : machine.Answerer σ} {s s' : σ} {step : Talk α} {value : α} (color : Bool)
    (h : step.run answer s = (.ok value, s')) :
    (report color step).run answer s =
      (.ok value, (answer (.print (Tint.green.paint color "ok" ++ "\n")) s').2) :=
  run_bind_ok (run_trial_ok h)

/-- blocks that there are can be written to any board on a lossless cable -/
theorem run_placeBlocks (stands : Stands b) (flawless : b.flash.failing = {}) (rounds : c.rounds ≠ 0)
    (same : c.chunkSize = b.config.chunkSize) (color : Bool) {numbers : List Nat}
    (among : ∀ n ∈ numbers, n < image.blocks) (fits : image.blocks ≤ blockCount l.content)
    (h : Linked d b l [] []) :
    ∃ d', (numbers.forM (placeBlock color c image)).run Desk.answer d = (.ok (), d') := by
  induction numbers generalizing d l with
  | nil => exact ⟨d, rfl⟩
  | cons n numbers ih =>
    obtain ⟨among₀, among⟩ := List.forall_mem_cons.mp among
    have full := image.length_block among₀
    have inside : (UInt16.ofNat n).toNat < blockCount l.content := by
      rw [image.toNat_number among₀]
      exact Nat.lt_of_lt_of_le among₀ fits
    let heading := "Writing block " ++ hexText 4 n ++ "... "
    obtain ⟨d₁, l₁, went, linked, content, -⟩ :=
      run_writeVerified stands flawless full rounds same (linked_print h heading) inside
    have fits₁ : image.blocks ≤ blockCount l₁.content := by
      rw [content, blockCount, length_putBlock inside full]
      exact fits
    obtain ⟨d', rest⟩ := ih among fits₁ (linked_print linked _)
    refine ⟨d', ?_⟩
    have headed : (print heading).run Desk.answer d = (.ok (), (Desk.answer (.print heading) d).2) := rfl
    have first : (placeBlock color c image n).run Desk.answer d = _ :=
      (run_bind_ok headed).trans (run_report color went)
    exact (run_bind_ok first).trans rest

def twinImage : Image where
  bytes := (List.replicate (2 * blockSize) 0x5a).toByteArray
  blocks := 2
  size_eq := by
    rw [List.size_toByteArray, List.length_replicate]
  blocks_pos := by decide
  blocks_le := by decide

/-- the second of two blocks -/
theorem writes_selection_second :
    let b := Board.standard 2
    let c : Client := { chunkSize := b.config.chunkSize }
    let remote := Remote.replayed { board := b, bootstrap := false }
    let d : Desk :=
      { cable := .connect .duplex 500 remote, folder := working [("image.bin", twinImage.bytes)] }
    ∃ calls d', Recorded Desk.answer (doJob false c (.write "image.bin" 1 none)) d calls (.ok ()) d' ∧
      Walk (Placed Desk.answer false c twinImage.bytes) [1] (calls.drop 1) (.ok ()) := by
  intro b c remote d
  have fits : twinImage.blocks ≤ blockCount (b.ledger b.config.nackOnFailure).content := by
    rw [Board.content_ledger, content_standard, blockCount_replicate]
    decide
  have rounds : c.rounds ≠ 0 := show ({} : Client).rounds ≠ 0 by decide
  have file : d.folder.read "image.bin" = .ok twinImage.bytes := read_working twinImage.bytes
  have one : ∀ n ∈ [1], n < twinImage.blocks := by decide
  obtain ⟨d', written⟩ := run_placeBlocks (stands_standard 2) rfl rounds rfl false one fits
    (linked_connect rfl (d := d) rfl)
  -- for any image of two blocks, lest its bytes be spelled out
  have known {image : Image} {d d' : Desk} (two : image.blocks = 2)
      (file : d.folder.read "image.bin" = .ok image.bytes)
      (written : ([1].forM (placeBlock false c image)).run Desk.answer d = (.ok (), d')) :
      ∃ calls, Recorded Desk.answer (doJob false c (.write "image.bin" 1 none)) d calls (.ok ()) d' ∧
        Walk (Placed Desk.answer false c image.bytes) [1] (calls.drop 1) (.ok ()) := by
    have only : selected image 1 none = [1] := by
      rw [selected_eq, two]
      rfl
    have ran : (doJob false c (.write "image.bin" 1 none)).run Desk.answer d = (.ok (), d') := by
      refine (run_bind_ok (run_readImage file)).trans ?_
      rw [writeBlocks, only]
      exact written
    have went := recorded ran
    obtain ⟨rest, split, -, selects⟩ := writes_selection went
    rw [answer_readFile file] at split selects
    have placed := selects image.bytes rfl
    have fit : ¬ Unfit 1 image.bytes.size none := fun unfit => by
      obtain ⟨reason, same⟩ := placed.refused.mpr unfit
      cases same
    have walk := placed.placed fit
    rw [← image.blocks_eq, two] at walk
    refine ⟨_, went, ?_⟩
    rw [split]
    exact walk
  obtain ⟨calls, went, walk⟩ := known rfl file written
  exact ⟨calls, d', went, walk⟩

end

end FlashRescue.Host
