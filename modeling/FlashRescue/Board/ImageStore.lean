import FlashRescue.Device.Services
import FlashRescue.Memory.Arena
import FlashRescue.Memory.CodeCache

/-!
# The image and its copy

The device's own image, the pages it can be copied into and what became of the copy.

* `ImageStore`         the image, the arena, the last copy and a record of jumps and sweeps;
* `ImageStore.ofBytes?`  a store with an image, unless its pages do not fit in one piece;
* `ImageStore.load`    copies the image into pages and fills them up with zeros;
* `ImageStore.evict`   sweeps the code cache with the copy;
* `ImageStore.jump`    enters the copy.
-/

namespace FlashRescue

open Device

/-- bytes of the largest image whose pages can be had in one piece -/
def largestImage : Nat := 0x7ffffffffffff000

/-- an image, the memory for its copy, and what was done with it -/
structure ImageStore where
  bytes : List UInt8
  length_le : bytes.length ≤ largestImage
  entryOffset : UInt64
  arena : Arena
  /-- the pages of the last copy and what they hold -/
  copy : Option (PageRange × List UInt8) := none
  jumps : List UInt64 := []
  evictions : Nat := 0
  lastSweep : Option UInt32 := none
  failLocate : Bool := false
  failLoad : Bool := false

namespace ImageStore

def ofBytes? (bytes : List UInt8) (entryOffset : UInt64) (arena : Arena) : Option ImageStore :=
  if length_le : bytes.length ≤ largestImage then some { bytes, length_le, entryOffset, arena }
  else none

def locate (m : ImageStore) : Except Status ImageInfo :=
  if m.failLocate then .error .notFound
  else .ok ⟨UInt64.ofNat m.bytes.length, m.entryOffset⟩

def allocate (pages : UInt64) (m : ImageStore) : Except Status PageRange × ImageStore :=
  match m.arena.allocate pages with
  | (some range, arena) => (.ok range, { m with arena })
  | (none, arena) => (.error .outOfResources, { m with arena })

def free (range : PageRange) (m : ImageStore) : Service Unit × ImageStore :=
  match m.arena.release range with
  | .ok (true, arena) => (.ok (), { m with arena })
  | .ok (false, arena) => (.error (.inl .invalidParameter), { m with arena })
  | .error fault => (.error (.inr fault), m)

/-- copies the image into pages and fills them up with zeros; the entry must lie in the image and the
image in the pages, which must be had in one piece -/
def load (image : ImageInfo) (range : PageRange) (m : ImageStore) : Service UInt64 × ImageStore :=
  if m.failLoad then (.error (.inl .loadError), m)
  else match range.length? with
    | none => (.error (.inr .overflow), m)
    | some room =>
      if image.size > room || image.entryOffset ≥ image.size then
        (.error (.inl .bufferTooSmall), m)
      else if room.toNat > largestPiece then (.error (.inr .tooLarge), m)
      else if m.bytes.length < image.size.toNat then (.error (.inr .outOfRange), m)
      else
        let content := m.bytes.take image.size.toNat ++
          List.replicate (room.toNat - image.size.toNat) 0
        let m := { m with copy := some (range, content) }
        match Word.add? range.base image.entryOffset with
        | some entry => (.ok entry, m)
        | none => (.error (.inr .overflow), m)

/-- sweeps the code cache with the copy, if there is one -/
def evict (m : ImageStore) : ImageStore :=
  { m with
    evictions := m.evictions + 1
    lastSweep := match m.copy with
      | some (_, content) => some (CodeCache.sweep content)
      | none => m.lastSweep }

/-- enters the copy at an address, which must lie in it -/
def jump (entry : UInt64) (m : ImageStore) : Except Fault Landing × ImageStore :=
  let outside : Landing := .returned (.error (.load .invalidParameter))
  match m.copy with
  | none => (.ok outside, m)
  | some (range, _) =>
    match range.end? with
    | none => (.error .overflow, m)
    | some last =>
      if range.base ≤ entry && entry < last then
        (.ok .entered, { m with jumps := m.jumps ++ [entry] })
      else (.ok outside, m)

end ImageStore

end FlashRescue
