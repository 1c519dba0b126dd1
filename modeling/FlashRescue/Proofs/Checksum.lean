import FlashRescue.Checksum
import FlashRescue.Proofs.Flash.Block

/-!
# Checksums that differ

A step of the division can be undone, so strings that differ in one byte have different checksums.

* `Crc32.shift_injective`, `Crc32.feed_injective`  the steps of the division;
* `checksum_ne`  the same bytes before and after a different one;
* `checksum_markedBlock`  an erased block and one that is marked.
-/

namespace FlashRescue

namespace Crc32

/-- the highest bit of a shifted remainder tells whether the polynomial was taken off -/
theorem toNat_shift (r : UInt32) :
    (shift r).toNat = if r.toNat % 2 = 1 then (r.toNat / 2) ^^^ polynomial.toNat else r.toNat / 2 := by
  have low : (r &&& 1 = 1) ↔ r.toNat % 2 = 1 := by
    rw [← UInt32.toNat_inj, UInt32.toNat_and]
    show r.toNat &&& 1 = 1 ↔ _
    rw [Nat.and_one_is_mod]
  have half : (r >>> 1).toNat = r.toNat / 2 := by
    rw [UInt32.toNat_shiftRight]
    show r.toNat >>> 1 = r.toNat / 2
    rw [Nat.shiftRight_eq_div_pow]
  unfold shift
  by_cases odd : r.toNat % 2 = 1
  · rw [if_pos (low.mpr odd), if_pos odd, UInt32.toNat_xor, half]
  · rw [if_neg (mt low.mp odd), if_neg odd, half]

theorem shift_injective {r r' : UInt32} (h : shift r = shift r') : r = r' := by
  have small := r.toNat_lt
  have small' := r'.toNat_lt
  -- the polynomial has the highest bit, and halved remainders do not
  have top : 2 ^ 31 ≤ polynomial.toNat := by decide
  have mixed {m n : Nat} (hm : m < 2 ^ 31) (hn : n < 2 ^ 31) (same : m ^^^ polynomial.toNat = n) :
      False := by
    have below := Nat.xor_lt_two_pow hm hn
    rw [← same, ← Nat.xor_assoc, Nat.xor_self, Nat.zero_xor] at below
    omega
  have same := congrArg UInt32.toNat h
  rw [toNat_shift, toNat_shift] at same
  apply UInt32.toNat_inj.mp
  by_cases odd : r.toNat % 2 = 1
  · by_cases odd' : r'.toNat % 2 = 1
    · rw [if_pos odd, if_pos odd'] at same
      have halves : r.toNat / 2 = r'.toNat / 2 := by
        have := congrArg (· ^^^ polynomial.toNat) same
        simpa [Nat.xor_assoc] using this
      omega
    · rw [if_pos odd, if_neg odd'] at same
      exact (mixed (by omega) (by omega) same).elim
  · by_cases odd' : r'.toNat % 2 = 1
    · rw [if_neg odd, if_pos odd'] at same
      exact (mixed (by omega) (by omega) same.symm).elim
    · rw [if_neg odd, if_neg odd'] at same
      omega

theorem shifts_injective (n : Nat) {r r' : UInt32} (h : Nat.repeat shift n r = Nat.repeat shift n r') :
    r = r' := by
  induction n with
  | zero => exact h
  | succ n ih => exact ih (shift_injective h)

theorem feed_injective {r r' : UInt32} {byte : UInt8} (h : feed r byte = feed r' byte) : r = r' := by
  have same := shifts_injective 8 h
  exact (UInt32.xor_left_inj _).mp same

theorem feed_byte_injective {r : UInt32} {byte byte' : UInt8} (h : feed r byte = feed r byte') :
    byte = byte' := by
  have same := (UInt32.xor_right_inj _).mp (shifts_injective 8 h)
  have numbers := congrArg UInt32.toNat same
  rw [UInt8.toNat_toUInt32, UInt8.toNat_toUInt32] at numbers
  exact UInt8.toNat_inj.mp numbers

theorem foldl_feed_injective {bytes : List UInt8} {r r' : UInt32}
    (h : bytes.foldl feed r = bytes.foldl feed r') : r = r' := by
  induction bytes generalizing r r' with
  | nil => exact h
  | cons byte bytes ih => exact feed_injective (ih h)

end Crc32

theorem checksum_ne {byte byte' : UInt8} (h : byte ≠ byte') (before after : List UInt8) :
    checksum (before ++ byte :: after) ≠ checksum (before ++ byte' :: after) := by
  intro same
  have folds := (UInt32.xor_left_inj _).mp same
  rw [List.foldl_append, List.foldl_append, List.foldl_cons, List.foldl_cons] at folds
  exact h (Crc32.feed_byte_injective (Crc32.foldl_feed_injective folds))

def markedBlock : List UInt8 := 0 :: List.replicate 4095 Nor.erased

theorem length_markedBlock : markedBlock.length = blockSize := by
  rw [markedBlock, List.length_cons, List.length_replicate]
  rfl

theorem checksum_markedBlock : checksum erasedBlock ≠ checksum markedBlock := by
  have erased : Nor.erased ≠ 0 := by decide
  have first : erasedBlock = Nor.erased :: List.replicate 4095 Nor.erased := List.replicate_succ
  rw [first]
  exact checksum_ne erased [] (List.replicate 4095 Nor.erased)

end FlashRescue
