import FlashRescue.Flash.Basic
import FlashRescue.Memory.Pages

/-!
# NOR flash

The BIOS region as an array of bytes in which an erase sets bits and programming clears them.  Every
access is counted, and each kind of access can be made to fail.

* `Nor`          the cells, the counters and the failure switches;
* `Nor.content`  what the cells hold, as a list;
* `Nor.blank`, `Nor.blank?`  a region of erased blocks, and one that fits a memory;
* `Nor.answer`   replies to the queries a controller gets;
* `Nor.block?`, `Nor.setBlock?`  one block of the content.

`content_blank`, `span_eq` and `content_splice` say what the operations do to the content.
-/

namespace FlashRescue

/-- which kinds of access fail -/
structure Nor.Failing where
  init : Bool := false
  reads : Bool := false
  erases : Bool := false
  programs : Bool := false
  deriving DecidableEq, Repr

/-- how often each kind of access was asked for -/
structure Nor.Counters where
  inits : Nat := 0
  reads : Nat := 0
  erases : Nat := 0
  programs : Nat := 0
  deriving DecidableEq, Repr

structure Nor where
  cells : ByteArray
  ready : Bool := false
  count : Nor.Counters := {}
  failing : Nor.Failing := {}

namespace Nor

/-! ## Content -/

def content (f : Nor) : List UInt8 := f.cells.data.toList

def size (f : Nor) : Nat := f.cells.size

theorem length_content (f : Nor) : f.content.length = f.size :=
  Array.length_toList

def erased : UInt8 := 0xff

def erasedCells (n : Nat) : ByteArray := Nat.repeat (fun cells => cells.push erased) n .empty

theorem toList_erasedCells (n : Nat) : (erasedCells n).data.toList = List.replicate n erased := by
  induction n with
  | zero => rfl
  | succ n ih =>
    have pushed : (erasedCells (n + 1)).data = (erasedCells n).data.push erased :=
      ByteArray.data_push
    rw [pushed, Array.toList_push, ih, List.replicate_succ']

def blank (blocks : Nat) : Nor := { cells := erasedCells (blocks * blockSize) }

/-- erased blocks, if there can be a memory for so many -/
def blank? (blocks : Nat) : Option Nor :=
  if blocks * blockSize ≤ largestPiece then some (blank blocks) else none

theorem content_blank (blocks : Nat) :
    (blank blocks).content = List.replicate (blocks * blockSize) erased :=
  toList_erasedCells _

/-! ## Spans -/

/-- whether a span of the region may be accessed, and why not -/
def permits (f : Nor) (region : Flash.Region) (offset : UInt64) (length : Nat) :
    Except Flash.Error Unit :=
  if !f.ready || region != .bios then .error .notReady
  else if offset.toNat + length < UInt64.size ∧ offset.toNat + length ≤ f.size then .ok ()
  else .error (.outOfRange offset)

def span (f : Nor) (offset length : Nat) : List UInt8 :=
  (f.cells.extract offset (offset + length)).data.toList

theorem span_eq (f : Nor) (offset length : Nat) :
    f.span offset length = (f.content.drop offset).take length := by
  rw [span, ByteArray.data_extract, Array.toList_extract, List.extract_eq_take_drop,
    Nat.add_sub_cancel_left, content]

/-- puts bytes in the place of as many others -/
def splice (f : Nor) (offset : Nat) (bytes : ByteArray) : Nor :=
  { f with cells := bytes.copySlice 0 f.cells offset bytes.size }

theorem content_splice (f : Nor) (offset : Nat) (bytes : ByteArray) :
    (f.splice offset bytes).content =
      f.content.take offset ++ bytes.data.toList ++ f.content.drop (offset + bytes.size) := by
  have cells : (f.splice offset bytes).cells.data =
      f.cells.data.extract 0 offset ++ bytes.data.extract 0 (0 + bytes.data.size) ++
        f.cells.data.extract (offset + min bytes.size (bytes.size - 0)) f.cells.data.size := rfl
  rw [content, cells, Array.toList_append, Array.toList_append, Array.toList_extract,
    Array.toList_extract, Array.toList_extract, List.extract_eq_take_drop,
    List.extract_eq_take_drop, List.extract_eq_take_drop, Nat.zero_add, Nat.sub_zero, Nat.sub_zero,
    Nat.sub_zero, Nat.min_self, List.drop_zero, List.drop_zero,
    List.take_of_length_le (Nat.le_of_eq Array.length_toList), content]
  exact congrArg _ (List.take_of_length_le (Nat.le_of_eq List.length_drop))

/-! ## Accesses -/

def init (f : Nor) : Except Flash.Error Unit × Nor :=
  let f := { f with count.inits := f.count.inits + 1 }
  if f.failing.init then (.error .device, f) else (.ok (), { f with ready := true })

def read (region : Flash.Region) (offset : UInt64) (length : Nat) (f : Nor) :
    Except Flash.Error (List UInt8) × Nor :=
  let f := { f with count.reads := f.count.reads + 1 }
  if f.failing.reads then (.error .device, f)
  else match f.permits region offset length with
    | .ok () => (.ok (f.span offset.toNat length), f)
    | .error e => (.error e, f)

def erase (region : Flash.Region) (offset : UInt64) (length : Nat) (f : Nor) :
    Except Flash.Error Unit × Nor :=
  let f := { f with count.erases := f.count.erases + 1 }
  if f.failing.erases then (.error .device, f)
  else match f.permits region offset length with
    | .ok () => (.ok (), f.splice offset.toNat (erasedCells length))
    | .error e => (.error e, f)

/-- clears the bits of a span that are clear in `bytes` -/
def program (region : Flash.Region) (offset : UInt64) (bytes : List UInt8) (f : Nor) :
    Except Flash.Error Unit × Nor :=
  let f := { f with count.programs := f.count.programs + 1 }
  if f.failing.programs then (.error .device, f)
  else match f.permits region offset bytes.length with
    | .ok () =>
      let old := f.span offset.toNat bytes.length
      (.ok (), f.splice offset.toNat (List.zipWith (· &&& ·) old bytes).toByteArray)
    | .error e => (.error e, f)

def answer : (query : Flash.Query) → Nor → Flash.Reply query × Nor
  | .init => init
  | .read region offset length => read region offset length
  | .erase region offset length => erase region offset length
  | .program region offset bytes => program region offset bytes

/-! ## Blocks -/

def blocks (f : Nor) : Nat := f.size / blockSize

def block? (f : Nor) (block : Nat) : Option ByteArray :=
  if (block + 1) * blockSize ≤ f.size then
    some (f.cells.extract (block * blockSize) ((block + 1) * blockSize))
  else none

/-- lays a block's worth of bytes down without a regard to what was there -/
def setBlock? (f : Nor) (block : Nat) (bytes : ByteArray) : Option Nor :=
  if (block + 1) * blockSize ≤ f.size then some (f.splice (block * blockSize) bytes)
  else none

end Nor

end FlashRescue
