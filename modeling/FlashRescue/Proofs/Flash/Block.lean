import FlashRescue.Flash.Nor

/-!
# Blocks of the flash

The content of the region block by block, and what the accesses of a controller do to it.

* `blockAt`, `putBlock`   one block of a content, and the content with other bytes in its place;
* `blockCount`            how many blocks a content has in full; `flatMap_blockAt`: these are its front;
* `replaced`              what is left of a content when a block was to be replaced;
* `readable`, `erasable`, `replaces`  whether a block can be read, erased, replaced.

`Nor.read_block`, `Nor.erase_block` and `Nor.program_block`: a ready controller is a store of
blocks.
-/

namespace FlashRescue

/-! ## Blocks of a content -/

def blockAt (content : List UInt8) (block : Nat) : List UInt8 :=
  (content.drop (block * blockSize)).take blockSize

def putBlock (content : List UInt8) (block : Nat) (bytes : List UInt8) : List UInt8 :=
  content.take (block * blockSize) ++ bytes ++ content.drop (block * blockSize + blockSize)

def blockCount (content : List UInt8) : Nat := content.length / blockSize

def erasedBlock : List UInt8 := List.replicate blockSize Nor.erased

theorem length_erasedBlock : erasedBlock.length = blockSize := List.length_replicate

theorem lt_blockCount_iff (content : List UInt8) (block : Nat) :
    block < blockCount content ↔ block * blockSize + blockSize ≤ content.length := by
  unfold blockCount blockSize
  omega

theorem blockCount_replicate (blocks : Nat) (byte : UInt8) :
    blockCount (List.replicate (blocks * blockSize) byte) = blocks := by
  rw [blockCount, List.length_replicate]
  exact Nat.mul_div_cancel blocks (by decide)

theorem length_blockAt {content : List UInt8} {block : Nat} (inside : block < blockCount content) :
    (blockAt content block).length = blockSize := by
  rw [lt_blockCount_iff] at inside
  rw [blockAt, List.length_take, List.length_drop]
  omega

theorem ext_blockAt {content content' : List UInt8}
    (h : ∀ block, blockAt content block = blockAt content' block) : content = content' := by
  have byte (content : List UInt8) (i : Nat) :
      content[i]? = (blockAt content (i / blockSize))[i % blockSize]? := by
    have small : i % blockSize < blockSize := Nat.mod_lt _ (by decide)
    rw [blockAt, List.getElem?_take, if_pos small, List.getElem?_drop, Nat.mul_comm,
      Nat.div_add_mod]
  apply List.ext_getElem?
  intro i
  rw [byte content, byte content', h]

/-- the first blocks, one after the other, are the front of the content -/
theorem flatMap_blockAt (content : List UInt8) (blocks : Nat) :
    (List.range blocks).flatMap (blockAt content) = content.take (blocks * blockSize) := by
  induction blocks with
  | zero => rw [List.range_zero, List.flatMap_nil, Nat.zero_mul, List.take_zero]
  | succ blocks ih =>
    rw [List.range_succ, List.flatMap_append, ih, List.flatMap_singleton, Nat.succ_mul, List.take_add, blockAt]

theorem blockAt_of_prefix {content content' : List UInt8} {block : Nat} (inside : block < blockCount content)
    (h : content <+: content') : blockAt content' block = blockAt content block := by
  obtain ⟨rest, rfl⟩ := h
  rw [lt_blockCount_iff] at inside
  have start : block * blockSize ≤ content.length := by omega
  have room : blockSize ≤ (content.drop (block * blockSize)).length := by
    rw [List.length_drop]
    omega
  rw [blockAt, List.drop_append_of_le_length start, List.take_append_of_le_length room, blockAt]

theorem putBlock_first (content bytes : List UInt8) :
    putBlock content 0 bytes = bytes ++ content.drop blockSize := by
  rw [putBlock, Nat.zero_mul, List.take_zero, List.nil_append, Nat.zero_add]

theorem length_putBlock {content bytes : List UInt8} {block : Nat}
    (inside : block < blockCount content) (full : bytes.length = blockSize) :
    (putBlock content block bytes).length = content.length := by
  rw [lt_blockCount_iff] at inside
  rw [putBlock, List.length_append, List.length_append, List.length_take, List.length_drop, full]
  omega

theorem blockAt_putBlock {content bytes : List UInt8} {block : Nat}
    (inside : block < blockCount content) (full : bytes.length = blockSize) :
    blockAt (putBlock content block bytes) block = bytes := by
  rw [lt_blockCount_iff] at inside
  have start : (content.take (block * blockSize)).length = block * blockSize :=
    List.length_take_of_le (by omega)
  rw [blockAt, putBlock, List.append_assoc, List.drop_left' start, List.take_left' full]

/-- the other blocks stay as they are -/
theorem blockAt_putBlock_of_ne {content bytes : List UInt8} {block other : Nat}
    (inside : block < blockCount content) (full : bytes.length = blockSize) (h : other ≠ block) :
    blockAt (putBlock content block bytes) other = blockAt content other := by
  rw [lt_blockCount_iff] at inside
  have start : (content.take (block * blockSize)).length = block * blockSize :=
    List.length_take_of_le (by omega)
  have head : (content.take (block * blockSize) ++ bytes).length = block * blockSize + blockSize := by
    rw [List.length_append, start, full]
  apply List.ext_getElem?
  intro i
  rw [blockAt, blockAt, List.getElem?_take, List.getElem?_take]
  split
  · rw [List.getElem?_drop, List.getElem?_drop, putBlock, List.getElem?_append, head]
    rename_i hi
    rcases Nat.lt_or_gt_of_ne h with before | behind
    · have gap : other * blockSize + blockSize ≤ block * blockSize := by
        rw [← Nat.succ_mul]
        exact Nat.mul_le_mul_right _ before
      rw [if_pos (by omega), List.getElem?_append, start, if_pos (by omega), List.getElem?_take,
        if_pos (by omega)]
    · have gap : block * blockSize + blockSize ≤ other * blockSize := by
        rw [← Nat.succ_mul]
        exact Nat.mul_le_mul_right _ behind
      rw [if_neg (by omega), List.getElem?_drop]
      exact congrArg (fun k => content[k]?) (by omega)
  · rfl

theorem putBlock_putBlock {content first second : List UInt8} {block : Nat}
    (inside : block < blockCount content) (full : first.length = blockSize) :
    putBlock (putBlock content block first) block second = putBlock content block second := by
  rw [lt_blockCount_iff] at inside
  have start : (content.take (block * blockSize)).length = block * blockSize :=
    List.length_take_of_le (by omega)
  have head : (content.take (block * blockSize) ++ first).length = block * blockSize + blockSize := by
    rw [List.length_append, start, full]
  rw [putBlock, putBlock, List.drop_left' head, List.append_assoc (content.take _) first,
    List.take_left' start, putBlock]

/-! ## Replacing a block -/

def readable (failing : Nor.Failing) (content : List UInt8) (block : Nat) : Bool :=
  !failing.reads && decide (block < blockCount content)

def erasable (failing : Nor.Failing) (content : List UInt8) (block : Nat) : Bool :=
  !failing.erases && decide (block < blockCount content)

def replaces (failing : Nor.Failing) (content : List UInt8) (block : Nat) : Bool :=
  erasable failing content block && !failing.programs

def replaced (failing : Nor.Failing) (content : List UInt8) (block : Nat) (bytes : List UInt8) :
    List UInt8 :=
  if replaces failing content block then putBlock content block bytes
  else if erasable failing content block then putBlock content block erasedBlock
  else content

theorem length_replaced (failing : Nor.Failing) {content bytes : List UInt8} (block : Nat)
    (full : bytes.length = blockSize) :
    (replaced failing content block bytes).length = content.length := by
  unfold replaced replaces erasable
  by_cases inside : block < blockCount content
  · split
    · exact length_putBlock inside full
    · split
      · exact length_putBlock inside length_erasedBlock
      · rfl
  · simp [inside]

/-- a block that was to be replaced holds the new bytes, is left erased or stays as it is, as the erase
and the program work -/
theorem blockAt_replaced (failing : Nor.Failing) {content bytes : List UInt8} {block : Nat}
    (inside : block < blockCount content) (full : bytes.length = blockSize) :
    blockAt (replaced failing content block bytes) block =
      if failing.erases then blockAt content block
      else if failing.programs then erasedBlock
      else bytes := by
  unfold replaced replaces erasable
  cases failing.erases with
  | true => rfl
  | false =>
    cases failing.programs with
    | true =>
      simp [inside]
      exact blockAt_putBlock inside length_erasedBlock
    | false =>
      simp [inside]
      exact blockAt_putBlock inside full

theorem blockAt_replaced_of_ne (failing : Nor.Failing) {content bytes : List UInt8}
    {block other : Nat} (full : bytes.length = blockSize) (h : other ≠ block) :
    blockAt (replaced failing content block bytes) other = blockAt content other := by
  unfold replaced replaces erasable
  by_cases inside : block < blockCount content
  · split
    · exact blockAt_putBlock_of_ne inside full h
    · split
      · exact blockAt_putBlock_of_ne inside length_erasedBlock h
      · rfl
  · simp [inside]

/-! ## The controller -/

theorem toNat_blockOffset (block : UInt16) : (blockOffset block).toNat = block.toNat * blockSize := by
  have small := block.toNat_lt
  unfold blockOffset blockSize
  rw [UInt64.toNat_ofNat', Nat.mod_eq_of_lt]
  omega

namespace Nor

theorem ready_splice (f : Nor) (offset : Nat) (bytes : ByteArray) :
    (f.splice offset bytes).ready = f.ready := rfl

theorem failing_splice (f : Nor) (offset : Nat) (bytes : ByteArray) :
    (f.splice offset bytes).failing = f.failing := rfl

theorem count_splice (f : Nor) (offset : Nat) (bytes : ByteArray) :
    (f.splice offset bytes).count = f.count := rfl

theorem size_erasedCells (n : Nat) : (erasedCells n).size = n := by
  show (erasedCells n).data.size = n
  rw [← Array.length_toList, toList_erasedCells, List.length_replicate]

theorem permits_block {f : Nor} (ready : f.ready = true) (block : UInt16) :
    f.permits .bios (blockOffset block) blockSize =
      if block.toNat < blockCount f.content then .ok ()
      else .error (.outOfRange (blockOffset block)) := by
  have small := block.toNat_lt
  have size : f.size = f.content.length := f.length_content.symm
  rw [permits, ready, toNat_blockOffset, size]
  have span : (block.toNat * blockSize + blockSize < UInt64.size ∧
      block.toNat * blockSize + blockSize ≤ f.content.length) ↔
      block.toNat < blockCount f.content := by
    rw [lt_blockCount_iff]
    unfold blockSize UInt64.size
    omega
  simp only [span]
  rfl

/-- what an access does once it is counted -/
theorem read_eq {f f₁ : Nor} (counted : f₁ = { f with count.reads := f.count.reads + 1 })
    (region : Flash.Region) (offset : UInt64) (length : Nat) :
    f.read region offset length =
      if f.failing.reads then (.error .device, f₁)
      else match f₁.permits region offset length with
        | .ok () => (.ok (f₁.span offset.toNat length), f₁)
        | .error e => (.error e, f₁) := by
  rw [counted]
  rfl

theorem erase_eq {f f₁ : Nor} (counted : f₁ = { f with count.erases := f.count.erases + 1 })
    (region : Flash.Region) (offset : UInt64) (length : Nat) :
    f.erase region offset length =
      if f.failing.erases then (.error .device, f₁)
      else match f₁.permits region offset length with
        | .ok () => (.ok (), f₁.splice offset.toNat (erasedCells length))
        | .error e => (.error e, f₁) := by
  rw [counted]
  rfl

theorem program_eq {f f₁ : Nor} (counted : f₁ = { f with count.programs := f.count.programs + 1 })
    (region : Flash.Region) (offset : UInt64) (bytes : List UInt8) :
    f.program region offset bytes =
      if f.failing.programs then (.error .device, f₁)
      else match f₁.permits region offset bytes.length with
        | .ok () => (.ok (), f₁.splice offset.toNat
            (List.zipWith (· &&& ·) (f₁.span offset.toNat bytes.length) bytes).toByteArray)
        | .error e => (.error e, f₁) := by
  rw [counted]
  rfl

theorem read_block {f : Nor} (ready : f.ready = true) (block : UInt16) :
    ∃ f', f'.content = f.content ∧ f'.ready = true ∧ f'.failing = f.failing ∧
      f'.count.erases = f.count.erases ∧ f'.count.programs = f.count.programs ∧
      ((readable f.failing f.content block.toNat = true ∧
          f.read .bios (blockOffset block) blockSize = (.ok (blockAt f.content block.toNat), f')) ∨
        (readable f.failing f.content block.toNat = false ∧
          ∃ e, f.read .bios (blockOffset block) blockSize = (.error e, f'))) := by
  obtain ⟨f₁, def₁⟩ : ∃ f₁, f₁ = { f with count.reads := f.count.reads + 1 } := ⟨_, rfl⟩
  have ready₁ : f₁.ready = true := by rw [def₁]; exact ready
  have content₁ : f₁.content = f.content := by rw [def₁]; rfl
  refine ⟨f₁, content₁, ready₁, by rw [def₁], by rw [def₁], by rw [def₁], ?_⟩
  rw [read_eq def₁, permits_block ready₁, content₁, readable]
  cases fails : f.failing.reads with
  | true => exact .inr ⟨rfl, _, rfl⟩
  | false =>
    by_cases inside : block.toNat < blockCount f.content
    · refine .inl ⟨by simpa using inside, ?_⟩
      rw [if_pos inside, span_eq, toNat_blockOffset, content₁]
      rfl
    · refine .inr ⟨by simpa using inside, .outOfRange (blockOffset block), ?_⟩
      rw [if_neg inside]
      rfl

theorem erase_block {f : Nor} (ready : f.ready = true) (block : UInt16) :
    ∃ f', f'.ready = true ∧ f'.failing = f.failing ∧
      f'.count.erases = f.count.erases + 1 ∧ f'.count.programs = f.count.programs ∧
      ((erasable f.failing f.content block.toNat = true ∧
          f'.content = putBlock f.content block.toNat erasedBlock ∧
          f.erase .bios (blockOffset block) blockSize = (.ok (), f')) ∨
        (erasable f.failing f.content block.toNat = false ∧ f'.content = f.content ∧
          ∃ e, f.erase .bios (blockOffset block) blockSize = (.error e, f'))) := by
  obtain ⟨f₁, def₁⟩ : ∃ f₁, f₁ = { f with count.erases := f.count.erases + 1 } := ⟨_, rfl⟩
  have ready₁ : f₁.ready = true := by rw [def₁]; exact ready
  have content₁ : f₁.content = f.content := by rw [def₁]; rfl
  rw [erase_eq def₁, permits_block ready₁, content₁, erasable]
  cases fails : f.failing.erases with
  | true =>
    exact ⟨f₁, ready₁, by rw [def₁], by rw [def₁], by rw [def₁],
      .inr ⟨rfl, content₁, _, rfl⟩⟩
  | false =>
    by_cases inside : block.toNat < blockCount f.content
    · refine ⟨f₁.splice (blockOffset block).toNat (erasedCells blockSize), ?_, ?_, ?_, ?_,
        .inl ⟨by simpa using inside, ?_, ?_⟩⟩
      · rw [ready_splice, ready₁]
      · rw [failing_splice, def₁]
      · rw [count_splice, def₁]
      · rw [count_splice, def₁]
      · rw [content_splice, toList_erasedCells, size_erasedCells, content₁, toNat_blockOffset,
          putBlock, erasedBlock]
      · rw [if_neg Bool.false_ne_true, if_pos inside]
    · refine ⟨f₁, ready₁, by rw [def₁], by rw [def₁], by rw [def₁],
        .inr ⟨by simpa using inside, content₁, .outOfRange (blockOffset block), ?_⟩⟩
      rw [if_neg inside]
      rfl

/-- programming an erased block leaves exactly the bytes programmed -/
theorem zipWith_erasedBlock {bytes : List UInt8} (full : bytes.length = blockSize) :
    List.zipWith (· &&& ·) erasedBlock bytes = bytes := by
  have ones (b : UInt8) : erased &&& b = b := UInt8.neg_one_and
  apply List.ext_getElem?
  intro i
  rw [List.getElem?_zipWith, erasedBlock, List.getElem?_replicate, ← full]
  by_cases hi : i < bytes.length
  · rw [if_pos hi, List.getElem?_eq_getElem hi]
    exact congrArg some (ones _)
  · rw [if_neg hi, List.getElem?_eq_none (Nat.le_of_not_lt hi)]

/-- an erased block takes up the bytes programmed, or stays erased -/
theorem program_block {f : Nor} (ready : f.ready = true) (block : UInt16) {bytes : List UInt8}
    (inside : block.toNat < blockCount f.content) (full : bytes.length = blockSize)
    (blank : blockAt f.content block.toNat = erasedBlock) :
    ∃ f', f'.ready = true ∧ f'.failing = f.failing ∧
      f'.count.erases = f.count.erases ∧ f'.count.programs = f.count.programs + 1 ∧
      ((f.failing.programs = false ∧ f'.content = putBlock f.content block.toNat bytes ∧
          f.program .bios (blockOffset block) bytes = (.ok (), f')) ∨
        (f.failing.programs = true ∧ f'.content = f.content ∧
          ∃ e, f.program .bios (blockOffset block) bytes = (.error e, f'))) := by
  obtain ⟨f₁, def₁⟩ : ∃ f₁, f₁ = { f with count.programs := f.count.programs + 1 } := ⟨_, rfl⟩
  have ready₁ : f₁.ready = true := by rw [def₁]; exact ready
  have content₁ : f₁.content = f.content := by rw [def₁]; rfl
  rw [program_eq def₁, full, permits_block ready₁, content₁, if_pos inside]
  cases fails : f.failing.programs with
  | true =>
    exact ⟨f₁, ready₁, by rw [def₁], by rw [def₁], by rw [def₁],
      .inr ⟨rfl, content₁, _, rfl⟩⟩
  | false =>
    refine ⟨f₁.splice (blockOffset block).toNat (List.zipWith (· &&& ·)
      (f₁.span (blockOffset block).toNat blockSize) bytes).toByteArray, ?_, ?_, ?_, ?_,
      .inl ⟨rfl, ?_, rfl⟩⟩
    · rw [ready_splice, ready₁]
    · rw [failing_splice, def₁]
    · rw [count_splice, def₁]
    · rw [count_splice, def₁]
    · have old : f₁.span (blockOffset block).toNat blockSize = erasedBlock := by
        rw [span_eq, toNat_blockOffset, content₁]
        exact blank
      rw [old, zipWith_erasedBlock full, content_splice, List.data_toByteArray,
        List.size_toByteArray, content₁, toNat_blockOffset, putBlock, full]

/-! ## The service -/

/-- the same flash service, with other content and after more accesses -/
structure Alike (f f' : Nor) : Prop where
  inits : f'.count.inits = f.count.inits
  failing : f'.failing = f.failing
  ready : f'.ready = f.ready

theorem Alike.trans {f f' f'' : Nor} (h : f.Alike f') (h' : f'.Alike f'') : f.Alike f'' :=
  ⟨h'.inits.trans h.inits, h'.failing.trans h.failing, h'.ready.trans h.ready⟩

theorem alike_splice (f : Nor) (offset : Nat) (bytes : ByteArray) : f.Alike (f.splice offset bytes) where
  inits := congrArg Counters.inits (count_splice f offset bytes)
  failing := failing_splice f offset bytes
  ready := ready_splice f offset bytes

/-- every access but the setting up leaves the service as it is -/
theorem alike_answer {query : Flash.Query} (h : query ≠ .init) (f : Nor) :
    f.Alike (answer query f).2 := by
  cases query with
  | init => exact absurd rfl h
  | read region offset length =>
    have counted : f.Alike { f with count.reads := f.count.reads + 1 } := ⟨rfl, rfl, rfl⟩
    rw [answer, read]
    split
    · exact counted
    · split <;> exact counted
  | erase region offset length =>
    have counted : f.Alike { f with count.erases := f.count.erases + 1 } := ⟨rfl, rfl, rfl⟩
    rw [answer, erase]
    split
    · exact counted
    · split
      · exact counted.trans (alike_splice ..)
      · exact counted
  | program region offset bytes =>
    have counted : f.Alike { f with count.programs := f.count.programs + 1 } := ⟨rfl, rfl, rfl⟩
    rw [answer, program]
    split
    · exact counted
    · split
      · exact counted.trans (alike_splice ..)
      · exact counted

theorem inits_init (f : Nor) : f.init.2.count.inits = f.count.inits + 1 := by
  rw [init]
  split <;> rfl

theorem content_init (f : Nor) : f.init.2.content = f.content := by
  rw [init]
  split <;> rfl

/-- setting the service up again counts, and changes nothing besides -/
theorem init_again {f : Nor} (ready : f.failing.init = false → f.ready = true) :
    f.init = (if f.failing.init then .error .device else .ok (),
      { f with count.inits := f.count.inits + 1 }) := by
  obtain ⟨cells, ready', count, failing⟩ := f
  cases fails : failing.init with
  | true => simp [init, fails]
  | false =>
    have set_ : ready' = true := ready fails
    simp [init, fails, set_]

end Nor

end FlashRescue
