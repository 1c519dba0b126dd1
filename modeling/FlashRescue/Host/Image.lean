import FlashRescue.Host.Error
import FlashRescue.Timing

/-!
# Flash images

An image is cut into blocks, which are numbered from zero with 16 bits.

* `Image`           the bytes of at least one and at most 65536 whole blocks;
* `Image.ofBytes?`  refuses anything else;
* `Image.block`     the bytes of a block;
* `Image.numbers`   the numbers of its blocks;
* `Image.numbered`  its blocks, each with its number.
-/

namespace FlashRescue.Host

def blockNumbers : Nat := 65536

structure Image where
  bytes : ByteArray
  blocks : Nat
  size_eq : bytes.size = blocks * blockSize
  blocks_pos : 0 < blocks
  blocks_le : blocks ≤ blockNumbers

namespace Image

/-- the bytes as an image, if they are whole blocks and not too many -/
def ofBytes? (bytes : ByteArray) : Except Error Image :=
  if whole : bytes.size ≠ 0 ∧ bytes.size % blockSize = 0 then
    if fits : bytes.size / blockSize ≤ blockNumbers then
      .ok
        { bytes
          blocks := bytes.size / blockSize
          size_eq := (Nat.div_mul_cancel (Nat.dvd_of_mod_eq_zero whole.2)).symm
          blocks_pos := Nat.div_pos
            (Nat.le_of_dvd (Nat.pos_of_ne_zero whole.1) (Nat.dvd_of_mod_eq_zero whole.2)) (by decide)
          blocks_le := fits }
    else
      .error (.invalidImage
        (toString (bytes.size / blockSize) ++ " blocks don't fit a 16-bit block number"))
  else
    .error (.invalidImage
      ("size " ++ hexText 1 bytes.size ++ " isn't a non-zero multiple of " ++ hexText 1 blockSize))

def block (i : Image) (number : Nat) : List UInt8 :=
  (i.bytes.extract (number * blockSize) ((number + 1) * blockSize)).data.toList

def numbers (i : Image) : List Nat := List.range i.blocks

/-- the blocks in order, each with the number under which a board knows it -/
def numbered (i : Image) : List (UInt16 × List UInt8) :=
  i.numbers.map fun number => (UInt16.ofNat number, i.block number)

end Image

end FlashRescue.Host
