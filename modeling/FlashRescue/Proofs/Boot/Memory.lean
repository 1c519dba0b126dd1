import FlashRescue.Board.ImageStore
import FlashRescue.Proofs.Word

/-!
# Pages for the copy

What allocating pages, loading the image into them and giving them back does to an image store.

* `Arena.release_allocate`   pages that were just handed out can be given back, and then nothing has
                             happened;
* `length?_pagesFor`         the pages for an image have room for it, and can be had in one piece;
* `ImageStore.filled`        the image, with zeros up to the end of its pages;
* `PageRange.Contains`       an address lies in some pages;
* `load_allocated`           an image is loaded into pages of its own in full, or refused;
* `length_filled`            and then it fills them;
* `jump_contains`            a jump into the pages of the copy enters it.
-/

namespace FlashRescue

open Device

/-! ## The arena -/

namespace Arena

variable {a a' : Arena} {pages : UInt64} {range : PageRange}

theorem allocate_some (h : a.allocate pages = (some range, a')) :
    pages ≠ 0 ∧ range = ⟨a.next, pages⟩ ∧
      ∃ last, range.end? = some last ∧ last ≤ a.limit ∧ a' = { a with next := last } := by
  rw [allocate] at h
  split at h
  · cases h
  · rename_i some_
    split at h
    · rename_i last ends
      split at h
      · rename_i fits
        cases h
        exact ⟨some_, rfl, last, ends, fits, rfl⟩
      · cases h
    · cases h

theorem allocate_none (h : a.allocate pages = (none, a')) : a' = a := by
  rw [allocate] at h
  split at h
  · cases h
    rfl
  · split at h
    · split at h
      · cases h
      · cases h
        rfl
    · cases h
      rfl

theorem release_allocate (h : a.allocate pages = (some range, a')) :
    a'.release range = .ok (true, a) := by
  obtain ⟨some_, same, last, ends, -, after⟩ := allocate_some h
  have pages_ : range.pages ≠ 0 := by rwa [same]
  have base : range.base = a.next := by rw [same]
  rw [release, if_neg pages_, ends, after, base]
  simp only [if_true]

end Arena

/-! ## Pages -/

/-- an address lies in some pages -/
def PageRange.Contains (range : PageRange) (address : UInt64) : Prop :=
  ∃ last, range.end? = some last ∧ range.base ≤ address ∧ address < last

theorem toNat_pageSize : pageSize.toNat = 4096 := rfl

theorem length?_pagesFor {size : UInt64} (le : size.toNat ≤ largestImage) (base : UInt64) :
    ∃ room, PageRange.length? ⟨base, pagesFor size⟩ = some room ∧ size ≤ room ∧
      room.toNat ≤ largestPiece ∧ room.toNat = (pagesFor size).toNat * pageSize.toNat := by
  have pages : (pagesFor size).toNat = (size.toNat + 4095) / 4096 := by
    rw [pagesFor, toNat_pageSize, UInt64.toNat_ofNat', Nat.mod_eq_of_lt]
    unfold largestImage at le
    omega
  have fits : (pagesFor size).toNat * pageSize.toNat < UInt64.size := by
    rw [pages, toNat_pageSize]
    unfold largestImage at le
    unfold UInt64.size
    omega
  obtain ⟨room, length⟩ : ∃ room, PageRange.length? ⟨base, pagesFor size⟩ = some room :=
    ⟨_, if_pos fits⟩
  have room_ := toNat_mul? length
  refine ⟨room, length, ?_, ?_, room_⟩
  · rw [UInt64.le_iff_toNat_le, room_, pages, toNat_pageSize]
    omega
  · rw [room_, pages, toNat_pageSize]
    unfold largestImage at le
    unfold largestPiece
    omega

/-! ## The image -/

namespace ImageStore

variable {m m' : ImageStore} {image : ImageInfo} {range : PageRange}

/-- the image, with zeros up to the end of its pages -/
def filled (m : ImageStore) (range : PageRange) : List UInt8 :=
  m.bytes ++ List.replicate (range.pages.toNat * pageSize.toNat - m.bytes.length) 0

theorem locate_ok (h : m.locate = .ok image) :
    image.size.toNat = m.bytes.length ∧ image.entryOffset = m.entryOffset := by
  rw [locate] at h
  split at h
  · cases h
  · cases h
    refine ⟨?_, rfl⟩
    have le := m.length_le
    unfold largestImage at le
    show (UInt64.ofNat m.bytes.length).toNat = _
    rw [UInt64.toNat_ofNat', Nat.mod_eq_of_lt]
    omega

theorem allocate_ok {pages : UInt64} (h : m.allocate pages = (.ok range, m')) :
    ∃ arena, m.arena.allocate pages = (some range, arena) ∧ m' = { m with arena } := by
  rw [allocate] at h
  cases given : m.arena.allocate pages with
  | mk result arena =>
    rw [given] at h
    cases result with
    | none => cases h
    | some range' =>
      cases h
      exact ⟨arena, rfl, rfl⟩

theorem allocate_error {pages : UInt64} {status : Status} (h : m.allocate pages = (.error status, m')) :
    m' = m := by
  rw [allocate] at h
  cases given : m.arena.allocate pages with
  | mk result arena =>
    rw [given] at h
    cases result with
    | none =>
      cases h
      rw [Arena.allocate_none given]
    | some range' => cases h

/-- the pages of a copy are given back, and the arena is as it was before they were allocated -/
theorem free_allocated {pages : UInt64} (h : m.allocate pages = (.ok range, m'))
    {m'' : ImageStore} (arena : m''.arena = m'.arena) :
    m''.free range = (.ok (), { m'' with arena := m.arena }) := by
  obtain ⟨arena', given, after⟩ := allocate_ok h
  have same : m''.arena = arena' := by rw [arena, after]
  rw [free, same, Arena.release_allocate given]

/-- into the pages that were allocated for it an image is loaded in full, or it is refused -/
theorem load_allocated (located : m.locate = .ok image)
    (allocated : m.allocate (pagesFor image.size) = (.ok range, m')) :
    (∃ status, m'.load image range = (.error (.inl status), m')) ∨
    (image.entryOffset < image.size ∧ ∃ entry,
      Word.add? range.base image.entryOffset = some entry ∧ range.Contains entry ∧
      m'.load image range = (.ok entry, { m' with copy := some (range, m.filled range) })) := by
  obtain ⟨arena, given, after⟩ := allocate_ok allocated
  obtain ⟨-, same, last, ends, -, -⟩ := Arena.allocate_some given
  obtain ⟨size, -⟩ := locate_ok located
  have le : image.size.toNat ≤ largestImage := size ▸ m.length_le
  obtain ⟨room, length, enough, piece, pages⟩ := length?_pagesFor le m.arena.next
  rw [← same] at length
  have bytes : m'.bytes = m.bytes := by rw [after]
  rw [load, length]
  by_cases fails : m'.failLoad = true
  · rw [if_pos fails]
    exact .inl ⟨_, rfl⟩
  rw [if_neg fails]
  by_cases outside : image.size ≤ image.entryOffset
  · have refused : (image.size > room || image.entryOffset ≥ image.size) = true := by
      simp [outside]
    dsimp only
    rw [if_pos refused]
    exact .inl ⟨_, rfl⟩
  have inside : image.entryOffset < image.size := UInt64.not_le.mp outside
  have taken : ¬ (image.size > room || image.entryOffset ≥ image.size) = true := by
    simp [enough, inside]
  have sum : Word.add? range.base room = some last := by
    rwa [PageRange.end?, length] at ends
  -- the entry lies before the end of the pages, which has an address
  have top := toNat_add? sum
  have fits : range.base.toNat + image.entryOffset.toNat < UInt64.size := by
    have bound := last.toNat_lt
    rw [UInt64.lt_iff_toNat_lt] at inside
    rw [UInt64.le_iff_toNat_le] at enough
    unfold UInt64.size
    omega
  obtain ⟨entry, entry_⟩ : ∃ entry, Word.add? range.base image.entryOffset = some entry :=
    ⟨_, if_pos fits⟩
  have address := toNat_add? entry_
  refine .inr ⟨inside, entry, entry_, ⟨last, ends, ?_, ?_⟩, ?_⟩
  · rw [UInt64.le_iff_toNat_le, address]
    omega
  · rw [UInt64.lt_iff_toNat_lt] at inside ⊢
    rw [UInt64.le_iff_toNat_le] at enough
    omega
  · have content : m'.bytes.take image.size.toNat ++
        List.replicate (room.toNat - image.size.toNat) 0 = m.filled range := by
      rw [filled, bytes, size, List.take_length, pages, same]
    dsimp only
    rw [if_neg taken, if_neg (Nat.not_lt.mpr piece), if_neg (by rw [bytes, size]; omega), entry_, content]

/-- the copy occupies its pages in full -/
theorem length_filled (located : m.locate = .ok image)
    (allocated : m.allocate (pagesFor image.size) = (.ok range, m')) :
    (m.filled range).length = range.pages.toNat * pageSize.toNat := by
  obtain ⟨arena, given, -⟩ := allocate_ok allocated
  obtain ⟨-, rfl, -⟩ := Arena.allocate_some given
  obtain ⟨size, -⟩ := locate_ok located
  have le : image.size.toNat ≤ largestImage := size ▸ m.length_le
  obtain ⟨room, -, enough, -, pages⟩ := length?_pagesFor le m.arena.next
  rw [UInt64.le_iff_toNat_le, size, pages] at enough
  rw [filled, List.length_append, List.length_replicate]
  exact Nat.add_sub_of_le enough

theorem jump_contains {entry : UInt64} {content : List UInt8} (copy : m.copy = some (range, content))
    (inside : range.Contains entry) :
    m.jump entry = (.ok .entered, { m with jumps := m.jumps ++ [entry] }) := by
  obtain ⟨last, ends, above, below⟩ := inside
  have within : (range.base ≤ entry && entry < last) = true := by simp [above, below]
  rw [jump, copy]
  dsimp only
  rw [ends]
  dsimp only
  rw [if_pos within]

end ImageStore

end FlashRescue
