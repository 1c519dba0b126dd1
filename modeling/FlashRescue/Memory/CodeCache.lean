import FlashRescue.ByteOrder

/-!
# Sweeping the code cache

Code that was copied while the processor ran from flash can meet stale lines in the code cache.  They
are pushed out by reading a span that is larger than the cache; what is read does not matter, and is
or-ed together only so that every read counts.

* `CodeCache.sweepFrom`  one pass over the double words of a byte string;
* `CodeCache.sweep`      all passes.
-/

namespace FlashRescue.CodeCache

def passes : Nat := 2

def wordSize : Nat := 4

/-- what was seen after one more pass; a last partial double word is left out -/
def sweepFrom (seen : UInt32) : List UInt8 → UInt32
  | a :: b :: c :: d :: rest =>
    sweepFrom (seen ||| UInt32.ofNat (ByteOrder.little.decode [a, b, c, d])) rest
  | _ => seen

def sweep (bytes : List UInt8) : UInt32 :=
  Nat.repeat (fun seen => sweepFrom seen bytes) passes 0

end FlashRescue.CodeCache
