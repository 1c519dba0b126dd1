import FlashRescue.Hex
import FlashRescue.Timing

/-!
# Boot flash

The services a flash controller offers.  Offsets count from the start of a region of the boot flash.

* `Flash.Region`, `Flash.Error`;
* `Flash.Query`, `Flash.Reply`  what may be asked of a controller and what it answers;
* `blockOffset`                 where a numbered block starts.
-/

namespace FlashRescue

namespace Flash

inductive Region where
  | descriptor
  | bios
  | me
  | gbe
  | platformData
  deriving DecidableEq, Repr

inductive Error where
  /-- the service was not initialised, or does not know the region -/
  | notReady
  /-- the span from this offset on leaves the region -/
  | outOfRange (offset : UInt64)
  | device
  deriving DecidableEq, Repr

def Error.message : Error → String
  | notReady => "flash service not ready"
  | outOfRange offset => "offset " ++ hexText 1 offset.toNat ++ " outside the region"
  | device => "flash controller error"

inductive Query where
  | init
  | read (region : Region) (offset : UInt64) (length : Nat)
  | erase (region : Region) (offset : UInt64) (length : Nat)
  /-- clears the bits that are clear in `bytes` -/
  | program (region : Region) (offset : UInt64) (bytes : List UInt8)
  deriving DecidableEq, Repr

@[reducible] def Reply : Query → Type
  | .read _ _ _ => Except Error (List UInt8)
  | _ => Except Error Unit

end Flash

def blockOffset (block : UInt16) : UInt64 := UInt64.ofNat (block.toNat * blockSize)

end FlashRescue
