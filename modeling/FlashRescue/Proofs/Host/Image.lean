import FlashRescue.Host.Image
import FlashRescue.Proofs.Flash.Block

/-!
# Images and their blocks

Which files are images, and what their blocks are.

* `Host.Malformed`    a file is no image;
* `Image.ofBytes?_eq_ok`, `ofBytes?_cases`  all other files are, with all their bytes;
* `Image.block_eq`    a block of an image is that of a flash with the same bytes;
* `Host.Partition`    some bytes are cut into numbered blocks; `Partition.eq`: there is but one way to do so;
* `partitioned`       images are cut in this way.
-/

namespace FlashRescue.Host

/-! ## Files -/

/-- a file of this size is no image -/
def Malformed (size : Nat) : Prop := size = 0 ∨ ¬ blockSize ∣ size ∨ blockNumbers < size / blockSize

theorem Image.ofBytes?_error {bytes : ByteArray} {e : Error} (h : Image.ofBytes? bytes = .error e) :
    ∃ reason, e = .invalidImage reason := by
  unfold Image.ofBytes? at h
  split at h
  · split at h
    · cases h
    · cases h
      exact ⟨_, rfl⟩
  · cases h
    exact ⟨_, rfl⟩

theorem Image.ofBytes?_bytes (image : Image) : Image.ofBytes? image.bytes = .ok image := by
  obtain ⟨bytes, blocks, size, positive, le⟩ := image
  have count : bytes.size / blockSize = blocks := by
    rw [size]
    exact Nat.mul_div_cancel blocks (by decide)
  subst count
  have whole : bytes.size ≠ 0 ∧ bytes.size % blockSize = 0 := by
    refine ⟨fun none_ => ?_, by rw [size]; exact Nat.mul_mod_left ..⟩
    rw [none_] at positive
    exact Nat.lt_irrefl 0 positive
  rw [ofBytes?, dif_pos whole, dif_pos le]

/-- a file is an image of all its bytes, or it is refused -/
theorem ofBytes?_cases (bytes : ByteArray) :
    (∃ reason, Image.ofBytes? bytes = .error (.invalidImage reason) ∧ Malformed bytes.size) ∨
      ∃ image, Image.ofBytes? bytes = .ok image ∧ image.bytes = bytes ∧ ¬ Malformed bytes.size := by
  unfold Image.ofBytes? Malformed
  split
  · rename_i whole
    have divides : blockSize ∣ bytes.size := Nat.dvd_of_mod_eq_zero whole.2
    split
    · rename_i fits
      refine .inr ⟨_, rfl, rfl, ?_⟩
      rintro (zero | rest | many)
      · exact whole.1 zero
      · exact rest divides
      · exact Nat.not_lt_of_le fits many
    · rename_i many
      exact .inl ⟨_, rfl, .inr (.inr (Nat.lt_of_not_le many))⟩
  · rename_i part
    refine .inl ⟨_, rfl, ?_⟩
    by_cases zero : bytes.size = 0
    · exact .inl zero
    · refine .inr (.inl fun divides => part ⟨zero, Nat.mod_eq_zero_of_dvd divides⟩)

/-- there is one image with given bytes, if any -/
theorem Image.ofBytes?_eq_ok {bytes : ByteArray} {image : Image} :
    Image.ofBytes? bytes = .ok image ↔ image.bytes = bytes := by
  constructor
  · intro valid
    rcases ofBytes?_cases bytes with ⟨reason, refused, -⟩ | ⟨image', valid', same, -⟩
    · cases refused.symm.trans valid
    · cases valid'.symm.trans valid
      exact same
  · rintro rfl
    exact ofBytes?_bytes image

/-! ## Blocks -/

namespace Image

variable (image : Image) {number : Nat}

theorem blocks_eq : image.blocks = image.bytes.size / blockSize := by
  rw [image.size_eq]
  exact (Nat.mul_div_cancel _ (by decide)).symm

theorem toNat_number (h : number < image.blocks) : (UInt16.ofNat number).toNat = number := by
  have le := image.blocks_le
  unfold blockNumbers at le
  rw [UInt16.toNat_ofNat', Nat.mod_eq_of_lt (by omega)]

theorem block_eq (number : Nat) : image.block number = blockAt image.bytes.data.toList number := by
  rw [block, ByteArray.data_extract, Array.toList_extract, List.extract_eq_take_drop, Nat.succ_mul,
    Nat.add_sub_cancel_left, blockAt]

theorem blockCount_bytes : blockCount image.bytes.data.toList = image.blocks := by
  rw [blockCount, Array.length_toList]
  exact image.blocks_eq.symm

theorem length_block (h : number < image.blocks) : (image.block number).length = blockSize := by
  rw [block_eq]
  exact length_blockAt (image.blockCount_bytes ▸ h)

/-- the bytes of a block are those of the image from the block's place on -/
theorem getElem?_block {j : Nat} (small : j < blockSize) :
    (image.block number)[j]? = image.bytes.data[blockSize * number + j]? := by
  rw [block_eq, blockAt, List.getElem?_take, if_pos small, List.getElem?_drop, Array.getElem?_toList,
    Nat.mul_comm]

/-- the blocks, one after the other, are the image -/
theorem flatMap_block : image.numbers.flatMap image.block = image.bytes.data.toList := by
  have size : image.bytes.data.toList.length = image.blocks * blockSize := by
    rw [Array.length_toList]
    exact image.size_eq
  rw [funext image.block_eq, numbers, flatMap_blockAt, ← size, List.take_length]

end Image

/-! ## Partitions -/

variable {bytes : ByteArray} {blocks : List (UInt16 × List UInt8)}

/-- some bytes, cut into numbered blocks -/
structure Partition (bytes : ByteArray) (blocks : List (UInt16 × List UInt8)) : Prop where
  count : bytes.size = blockSize * blocks.length
  /-- the numbers count up from zero, and none of them has wrapped around -/
  numbers : blocks.map (·.1.toNat) = List.range blocks.length
  full : ∀ entry ∈ blocks, entry.2.length = blockSize
  whole : blocks.flatMap (·.2) = bytes.data.toList
  offset : ∀ entry ∈ blocks, (blockOffset entry.1).toNat = blockSize * entry.1.toNat
  inside : ∀ entry ∈ blocks, blockSize * entry.1.toNat + blockSize ≤ bytes.size
  cut : ∀ entry ∈ blocks, entry.2 = (bytes.data.toList.drop (blockOffset entry.1).toNat).take blockSize
  /-- a flash that begins with the bytes has each block at the offset of its number -/
  held : ∀ entry ∈ blocks, ∀ f : Nor, f.ready = true → f.failing.reads = false →
    bytes.data.toList <+: f.content → (f.read .bios (blockOffset entry.1) blockSize).1 = .ok entry.2

theorem Partition.eq {image : Image} (h : Partition image.bytes blocks) : blocks = image.numbered := by
  have block : ∀ entry ∈ blocks, entry = (UInt16.ofNat entry.1.toNat, image.block entry.1.toNat) := by
    intro entry mem
    have cut := h.cut entry mem
    rw [toNat_blockOffset] at cut
    rw [UInt16.ofNat_toNat, image.block_eq, blockAt, ← cut]
  have count : blocks.length = image.blocks := by
    have size := h.count.symm.trans image.size_eq
    rw [Nat.mul_comm] at size
    exact Nat.mul_right_cancel (by decide) size
  calc blocks = blocks.map fun entry => (UInt16.ofNat entry.1.toNat, image.block entry.1.toNat) :=
        (List.map_id' blocks).symm.trans (List.map_congr_left block)
    _ = (blocks.map (·.1.toNat)).map fun number => (UInt16.ofNat number, image.block number) := by
        rw [List.map_map]
        rfl
    _ = image.numbered := by rw [h.numbers, count, Image.numbered, Image.numbers]

theorem Image.mem_numbered {image : Image} {entry : UInt16 × List UInt8} (h : entry ∈ image.numbered) :
    entry.1.toNat < image.blocks ∧ entry.2 = image.block entry.1.toNat := by
  obtain ⟨number, mem, rfl⟩ := List.mem_map.mp h
  have inside : number < image.blocks := List.mem_range.mp mem
  rw [image.toNat_number inside]
  exact ⟨inside, rfl⟩

theorem Image.partition (image : Image) : Partition image.bytes image.numbered := by
  have length : image.numbered.length = image.blocks := by
    rw [numbered, List.length_map, numbers, List.length_range]
  have size : image.bytes.size = blockSize * image.blocks := by
    rw [image.size_eq, Nat.mul_comm]
  constructor
  case count => rw [length, size]
  case numbers =>
    rw [length, numbered, List.map_map, ← numbers]
    refine (List.map_congr_left fun number mem => ?_).trans (List.map_id' _)
    exact image.toNat_number (List.mem_range.mp mem)
  case full =>
    intro entry mem
    obtain ⟨inside, same⟩ := mem_numbered mem
    rw [same]
    exact image.length_block inside
  case whole =>
    rw [← image.flatMap_block, numbered, List.flatMap_map]
  case offset =>
    intro entry _
    rw [toNat_blockOffset, Nat.mul_comm]
  case inside =>
    intro entry mem
    have inside := (mem_numbered mem).1
    rw [size, ← Nat.mul_succ]
    exact Nat.mul_le_mul_left _ inside
  case cut =>
    intro entry mem
    rw [(mem_numbered mem).2, image.block_eq, toNat_blockOffset, blockAt]
  case held =>
    intro entry mem f ready working front
    obtain ⟨inside, same⟩ := mem_numbered mem
    have there : entry.1.toNat < blockCount image.bytes.data.toList := by
      rw [image.blockCount_bytes]
      exact inside
    have reads : readable f.failing f.content entry.1.toNat = true := by
      have more : entry.1.toNat < blockCount f.content :=
        Nat.lt_of_lt_of_le there (Nat.div_le_div_right front.length_le)
      rw [readable, working, decide_eq_true more]
      rfl
    obtain ⟨f', -, -, -, -, -, went | failed⟩ := Nor.read_block ready entry.1
    · rw [went.2, same, image.block_eq, blockAt_of_prefix there front]
    · cases failed.1.symm.trans reads

/-- a file is an image if and only if it is made of at least one and at most 65536 whole blocks.  It is then cut
into just these blocks, numbered from zero on, and no number wraps around -/
theorem partitioned (bytes : ByteArray) :
    ((∃ image, Image.ofBytes? bytes = .ok image) ↔ ∃ m, 1 ≤ m ∧ m ≤ 65536 ∧ bytes.size = 4096 * m) ∧
    (∀ e, Image.ofBytes? bytes = .error e → ∃ reason, e = .invalidImage reason) ∧
    ∀ image, Image.ofBytes? bytes = .ok image → ∀ blocks, Partition bytes blocks ↔ blocks = image.numbered := by
  refine ⟨⟨?_, ?_⟩, fun e => Image.ofBytes?_error, ?_⟩
  · rintro ⟨image, valid⟩
    rw [Image.ofBytes?_eq_ok] at valid
    subst valid
    exact ⟨image.blocks, image.blocks_pos, image.blocks_le, image.size_eq.trans (Nat.mul_comm ..)⟩
  · rintro ⟨m, positive, le, size⟩
    let image : Image := ⟨bytes, m, size.trans (Nat.mul_comm ..), positive, le⟩
    exact ⟨image, image.ofBytes?_bytes⟩
  · intro image valid blocks
    rw [Image.ofBytes?_eq_ok] at valid
    subst valid
    constructor
    · exact Partition.eq
    · rintro rfl
      exact image.partition

/-- as many bytes as an image can have -/
def mostBytes : ByteArray := (List.replicate (blockSize * blockNumbers) 0).toByteArray

/-- the last block of the largest image has the last number -/
theorem partitioned_most :
    ∃ image, Image.ofBytes? mostBytes = .ok image ∧ Partition mostBytes image.numbered ∧
      image.numbered.getLast?.map (·.1) = some 0xffff := by
  have size : mostBytes.size = blockSize * blockNumbers := by
    rw [mostBytes, List.size_toByteArray, List.length_replicate]
  obtain ⟨accepted, -, cut⟩ := partitioned mostBytes
  obtain ⟨image, valid⟩ := accepted.mpr ⟨blockNumbers, by decide, by decide, size⟩
  have partition := (cut image valid image.numbered).mpr rfl
  refine ⟨image, valid, partition, ?_⟩
  have length : image.numbered.length = 65536 :=
    Nat.mul_left_cancel (by decide) (partition.count.symm.trans size)
  have last : image.numbered.getLast?.map (·.1.toNat) = some 65535 := by
    rw [← List.getLast?_map, partition.numbers, length, List.getLast?_range]
    rfl
  obtain ⟨entry, here, number⟩ := Option.map_eq_some_iff.mp last
  rw [here]
  exact congrArg some (UInt16.toNat_inj.mp number)

end FlashRescue.Host
