/-!
# Block checksums

CRC-32 with the reflected polynomial `0xEDB88320`, starting from all ones and inverted at the end.
A byte is added to the remainder's low end and then shifted out bit by bit.

* `Crc32.shift`   one bit of the division;
* `Crc32.feed`    one byte of it;
* `checksum`      the checksum of a byte string.
-/

namespace FlashRescue

namespace Crc32

/-- the polynomial, lowest power in the highest bit -/
def polynomial : UInt32 := 0xedb88320

/-- the remainder before the first byte, and the mask laid over the last -/
def ones : UInt32 := 0xffffffff

/-- shifts one bit out of the remainder, and takes the polynomial off if it was set -/
def shift (remainder : UInt32) : UInt32 :=
  if remainder &&& 1 = 1 then (remainder >>> 1) ^^^ polynomial else remainder >>> 1

def feed (remainder : UInt32) (byte : UInt8) : UInt32 :=
  Nat.repeat shift 8 (remainder ^^^ byte.toUInt32)

end Crc32

def checksum (bytes : List UInt8) : UInt32 :=
  bytes.foldl Crc32.feed Crc32.ones ^^^ Crc32.ones

end FlashRescue
