import FlashRescue.Proofs.Checksum

/-!
# Bursts

The division goes bit by bit, and a step of it is linear, so that what two strings differ in goes through it on its
own.  A burst that is no wider than the remainder is in there as a whole when its last bit was taken in, and all the
steps after that can be undone.

* `Crc32.shift_xor`     a step of the division is linear;
* `Crc32.push`          takes in one bit; `foldl_feed`: a string is taken in bit by bit;
* `Crc32.word`          some bits as a remainder; `foldl_push`: they are taken in as well at once;
* `Crc32.apart`         where bits differ; `foldl_push_xor`: they are taken in on their own;
* `Crc32.eq_of_foldl_push`  few bits that are taken in with the same outcome are the same; `Crc32.eq_of_window`: many,
                        if they are the same but for few places;
* `bitAt`, `Burst`      the bits of a string, and strings that differ in a burst;
* `checksum_ne_of_burst`  such strings have different checksums.
-/

namespace FlashRescue

namespace Crc32

variable {r r' : UInt32} {bs bs' : List Bool}

/-! ## Steps -/

theorem shift_xor (r r' : UInt32) : shift (r ^^^ r') = shift r ^^^ shift r' := by
  -- the polynomial that is taken off both is not there in the sum
  have cancel (m n p : Nat) : m ^^^ n = (m ^^^ p) ^^^ (n ^^^ p) := by
    rw [Nat.xor_comm n p, Nat.xor_assoc, ← Nat.xor_assoc p, Nat.xor_self, Nat.zero_xor]
  apply UInt32.toNat_inj.mp
  rw [UInt32.toNat_xor, toNat_shift, toNat_shift, toNat_shift, UInt32.toNat_xor, Nat.xor_div_two]
  by_cases odd : r.toNat % 2 = 1
  · by_cases odd' : r'.toNat % 2 = 1
    · rw [if_neg fun h => Nat.xor_mod_two_eq_one.mp h (iff_of_true odd odd'), if_pos odd, if_pos odd']
      exact cancel ..
    · rw [if_pos (Nat.xor_mod_two_eq_one.mpr fun h => odd' (h.mp odd)), if_pos odd, if_neg odd']
      ac_rfl
  · by_cases odd' : r'.toNat % 2 = 1
    · rw [if_pos (Nat.xor_mod_two_eq_one.mpr fun h => odd (h.mpr odd')), if_neg odd, if_pos odd']
      ac_rfl
    · rw [if_neg fun h => Nat.xor_mod_two_eq_one.mp h (iff_of_false odd odd'), if_neg odd, if_neg odd']

/-- takes in one bit -/
def push (r : UInt32) (bit : Bool) : UInt32 := shift (r ^^^ bit.toUInt32)

theorem push_xor (r r' : UInt32) (bit bit' : Bool) :
    push (r ^^^ r') (bit ^^ bit') = push r bit ^^^ push r' bit' := by
  have both : (bit ^^ bit').toUInt32 = bit.toUInt32 ^^^ bit'.toUInt32 := by
    cases bit <;> cases bit' <;> rfl
  unfold push
  rw [← shift_xor, both]
  congr 1
  ac_rfl

/-- where two runs of bits differ -/
def apart (bs bs' : List Bool) : List Bool := List.zipWith Bool.xor bs bs'

theorem length_apart (same : bs.length = bs'.length) : (apart bs bs').length = bs.length := by
  rw [apart, List.length_zipWith, ← same, Nat.min_self]

theorem foldl_push_xor (same : bs.length = bs'.length) (r r' : UInt32) :
    (apart bs bs').foldl push (r ^^^ r') = bs.foldl push r ^^^ bs'.foldl push r' := by
  induction bs generalizing bs' r r' with
  | nil =>
    cases bs' with
    | nil => rfl
    | cons bit' bs' => cases same
  | cons bit bs ih =>
    cases bs' with
    | nil => cases same
    | cons bit' bs' =>
      rw [apart, List.zipWith_cons_cons, List.foldl_cons, List.foldl_cons, List.foldl_cons, push_xor]
      exact ih (Nat.succ.inj same) _ _

theorem foldl_push_injective (h : bs.foldl push r = bs.foldl push r') : r = r' := by
  induction bs generalizing r r' with
  | nil => exact h
  | cons bit bs ih => exact (UInt32.xor_left_inj _).mp (shift_injective (ih h))

/-! ## Bits that are taken in at once -/

/-- some bits as a remainder, the first in the lowest place -/
def word : List Bool → UInt32
  | [] => 0
  | bit :: bs => bit.toUInt32 ^^^ (word bs <<< 1)

theorem testBit_word (small : bs.length ≤ 32) (i : Nat) : (word bs).toNat.testBit i = bs[i]?.getD false := by
  induction bs generalizing i with
  | nil => exact Nat.zero_testBit i
  | cons bit bs ih =>
    have later := ih (Nat.le_of_succ_le small)
    have moved : (word bs <<< 1).toNat = (word bs).toNat <<< 1 % 2 ^ 32 := UInt32.toNat_shiftLeft ..
    have first : bit.toUInt32.toNat = bit.toNat := by cases bit <;> rfl
    rw [word, UInt32.toNat_xor, Nat.testBit_xor, moved, Nat.testBit_mod_two_pow, Nat.testBit_shiftLeft, first]
    cases i with
    | zero => cases bit <;> rfl
    | succ i =>
      have none_ : bit.toNat.testBit (i + 1) = false := by cases bit <;> simp [Nat.testBit_succ]
      rw [none_, Nat.add_sub_cancel, later, List.getElem?_cons_succ]
      by_cases inside : i + 1 < 32
      · simp [inside]
      · rw [List.length_cons] at small
        have past : bs[i]? = none := List.getElem?_eq_none (by omega)
        simp [past]

/-- fewer bits than a remainder has leave its highest place free -/
theorem word_lt (short : bs.length < 32) : 2 * (word bs).toNat < UInt32.size := by
  have half : (word bs).toNat < 2 ^ 31 := by
    apply Nat.lt_pow_two_of_testBit
    intro i beyond
    rw [testBit_word (Nat.le_of_lt short), List.getElem?_eq_none (by omega)]
    rfl
  exact Nat.mul_lt_mul_of_pos_left half (by decide)

/-- a step undoes that a small remainder was moved up -/
theorem shift_shiftLeft (small : 2 * r.toNat < UInt32.size) : shift (r <<< 1) = r := by
  have moved : (r <<< 1).toNat = 2 * r.toNat := by
    have up : (r <<< 1).toNat = r.toNat <<< 1 % UInt32.size := UInt32.toNat_shiftLeft ..
    rw [up, Nat.shiftLeft_eq, Nat.mul_comm]
    exact Nat.mod_eq_of_lt small
  apply UInt32.toNat_inj.mp
  rw [toNat_shift, moved]
  split
  · omega
  · omega

theorem repeat_shift (n : Nat) (r : UInt32) : Nat.repeat shift n (shift r) = Nat.repeat shift (n + 1) r := by
  induction n with
  | zero => rfl
  | succ n ih => exact congrArg shift ih

/-- no more bits than a remainder has may be laid over it all at once, before the steps are made -/
theorem foldl_push (small : bs.length ≤ 32) (r : UInt32) :
    bs.foldl push r = Nat.repeat shift bs.length (r ^^^ word bs) := by
  induction bs generalizing r with
  | nil => exact (UInt32.xor_zero).symm
  | cons bit bs ih =>
    have short : bs.length < 32 := small
    calc bs.foldl push (push r bit)
        = Nat.repeat shift bs.length (push r bit ^^^ word bs) := ih (Nat.le_of_lt short) _
      _ = Nat.repeat shift bs.length (shift (r ^^^ bit.toUInt32) ^^^ shift (word bs <<< 1)) := by
          rw [shift_shiftLeft (word_lt short), push]
      _ = Nat.repeat shift bs.length (shift (r ^^^ word (bit :: bs))) := by
          rw [← shift_xor, UInt32.xor_assoc, word]
      _ = Nat.repeat shift (bit :: bs).length (r ^^^ word (bit :: bs)) := repeat_shift ..

theorem eq_of_word_apart (same : bs.length = bs'.length) (small : bs.length ≤ 32)
    (zero : word (apart bs bs') = 0) : bs = bs' := by
  have length : (apart bs bs').length ≤ 32 := (length_apart same).symm ▸ small
  apply List.ext_getElem same
  intro i h h'
  have bit := testBit_word length i
  rw [zero, apart, List.getElem?_zipWith, List.getElem?_eq_getElem h, List.getElem?_eq_getElem h'] at bit
  have equal : false = (bs[i] ^^ bs'[i]) := (Nat.zero_testBit i).symm.trans bit
  exact bne_eq_false_iff_eq.mp equal.symm

theorem repeat_shift_zero (n : Nat) : Nat.repeat shift n 0 = 0 := by
  induction n with
  | zero => rfl
  | succ n ih => exact (congrArg shift ih).trans rfl

/-- few bits that are taken in with the same outcome are the same -/
theorem eq_of_foldl_push (same : bs.length = bs'.length) (small : bs.length ≤ 32)
    (h : bs.foldl push r = bs'.foldl push r) : bs = bs' := by
  have length : (apart bs bs').length ≤ 32 := (length_apart same).symm ▸ small
  have outcome : (apart bs bs').foldl push 0 = 0 := by
    have sum := foldl_push_xor same r r
    rwa [h, UInt32.xor_self, UInt32.xor_self] at sum
  rw [foldl_push length, UInt32.zero_xor] at outcome
  have zero : word (apart bs bs') = 0 := shifts_injective _ (outcome.trans (repeat_shift_zero _).symm)
  exact eq_of_word_apart same small zero

/-- runs of bits that are the same but for so few places, and are taken in with the same outcome, are the same -/
theorem eq_of_window {p : Nat} (same : bs.length = bs'.length)
    (agree : ∀ i, ¬ (p ≤ i ∧ i < p + 32) → bs[i]? = bs'[i]?) (h : bs.foldl push r = bs'.foldl push r) : bs = bs' := by
  have front : bs.take p = bs'.take p := by
    apply List.ext_getElem?
    intro i
    rw [List.getElem?_take, List.getElem?_take]
    split
    · exact agree i (by omega)
    · rfl
  have back : (bs.drop p).drop 32 = (bs'.drop p).drop 32 := by
    apply List.ext_getElem?
    intro i
    rw [List.drop_drop, List.drop_drop, List.getElem?_drop, List.getElem?_drop]
    exact agree _ (by omega)
  -- the window itself went into equal remainders, and left equal ones
  have middle : (bs.drop p).take 32 = (bs'.drop p).take 32 := by
    rw [← List.take_append_drop p bs, ← List.take_append_drop p bs', ← List.take_append_drop 32 (bs.drop p),
      ← List.take_append_drop 32 (bs'.drop p), List.foldl_append, List.foldl_append, List.foldl_append,
      List.foldl_append, front, back] at h
    refine eq_of_foldl_push ?_ (List.length_take_le ..) (foldl_push_injective h)
    rw [List.length_take, List.length_take, List.length_drop, List.length_drop, same]
  calc bs
      = bs.take p ++ ((bs.drop p).take 32 ++ (bs.drop p).drop 32) := by
        rw [List.take_append_drop, List.take_append_drop]
    _ = bs'.take p ++ ((bs'.drop p).take 32 ++ (bs'.drop p).drop 32) := by rw [front, middle, back]
    _ = bs' := by rw [List.take_append_drop, List.take_append_drop]

/-! ## Bytes -/

/-- the bits of a byte, from the lowest on -/
def bits (byte : UInt8) : List Bool := (List.range 8).map byte.toNat.testBit

theorem length_bits (byte : UInt8) : (bits byte).length = 8 := rfl

theorem word_bits (byte : UInt8) : word (bits byte) = byte.toUInt32 := by
  apply UInt32.toNat_inj.mp
  apply Nat.eq_of_testBit_eq
  intro i
  have small := byte.toNat_lt
  rw [testBit_word (length_bits byte ▸ by decide), bits, List.getElem?_map, UInt8.toNat_toUInt32]
  by_cases inside : i < 8
  · rw [List.getElem?_range inside]
    rfl
  · rw [List.getElem?_eq_none (by rw [List.length_range]; omega)]
    have above : byte.toNat < 2 ^ i := Nat.lt_of_lt_of_le small (Nat.pow_le_pow_right (by decide) (by omega))
    exact (Nat.testBit_lt_two_pow above).symm

theorem feed_eq (r : UInt32) (byte : UInt8) : feed r byte = (bits byte).foldl push r := by
  rw [foldl_push (length_bits byte ▸ by decide), word_bits]
  rfl

theorem foldl_feed (bytes : List UInt8) (r : UInt32) :
    bytes.foldl feed r = (bytes.flatMap bits).foldl push r := by
  induction bytes generalizing r with
  | nil => rfl
  | cons byte bytes ih => rw [List.foldl_cons, ih, feed_eq, List.flatMap_cons, List.foldl_append]

theorem flatMap_bits_injective {bytes bytes' : List UInt8} (h : bytes.flatMap bits = bytes'.flatMap bits) :
    bytes = bytes' := by
  induction bytes generalizing bytes' with
  | nil =>
    cases bytes' with
    | nil => rfl
    | cons byte' bytes' => cases h
  | cons byte bytes ih =>
    cases bytes' with
    | nil => cases h
    | cons byte' bytes' =>
      rw [List.flatMap_cons, List.flatMap_cons] at h
      obtain ⟨first, rest⟩ := List.append_inj h rfl
      have words : byte.toUInt32 = byte'.toUInt32 := by rw [← word_bits, ← word_bits, first]
      have same : byte = byte' := UInt8.toNat_inj.mp (congrArg UInt32.toNat words)
      rw [same, ih rest]

end Crc32

/-! ## Bursts -/

/-- a bit of a string, counted from the lowest of its first byte -/
def bitAt (bytes : List UInt8) (i : Nat) : Bool := (bytes.getD (i / 8) 0).toNat.testBit (i % 8)

/-- all bits that differ lie within 32 places -/
def Burst (data data' : List UInt8) : Prop :=
  ∃ p, ∀ i, bitAt data i ≠ bitAt data' i → p ≤ i ∧ i < p + 32

section
open Crc32
variable {data data' : List UInt8}

theorem length_flatMap_bits (data : List UInt8) : (data.flatMap bits).length = 8 * data.length := by
  induction data with
  | nil => rfl
  | cons byte data ih =>
    rw [List.flatMap_cons, List.length_append, ih, length_bits, List.length_cons]
    omega

theorem getElem?_flatMap_bits {i : Nat} (inside : i < 8 * data.length) :
    (data.flatMap bits)[i]? = some (bitAt data i) := by
  induction data generalizing i with
  | nil => cases inside
  | cons byte data ih =>
    rw [List.flatMap_cons]
    by_cases first : i < 8
    · rw [List.getElem?_append_left first, bits, List.getElem?_map, List.getElem?_range first, bitAt,
        Nat.div_eq_of_lt first, Nat.mod_eq_of_lt first]
      rfl
    · obtain ⟨j, rfl⟩ := Nat.exists_eq_add_of_le (Nat.le_of_not_lt first)
      rw [List.length_cons] at inside
      rw [List.getElem?_append_right (Nat.le_add_right 8 j), length_bits, Nat.add_sub_cancel_left,
        ih (by omega), bitAt, bitAt, Nat.add_mod_left, Nat.add_div_left j (by decide), List.getD_cons_succ]

/-- before and behind a burst there is no difference -/
theorem agree_outside (same : data.length = data'.length) {p : Nat}
    (burst : ∀ i, bitAt data i ≠ bitAt data' i → p ≤ i ∧ i < p + 32) {i : Nat} (outside : ¬ (p ≤ i ∧ i < p + 32)) :
    (data.flatMap bits)[i]? = (data'.flatMap bits)[i]? := by
  by_cases inside : i < 8 * data.length
  · have equal : bitAt data i = bitAt data' i := Decidable.of_not_not fun differ => outside (burst i differ)
    rw [getElem?_flatMap_bits inside, getElem?_flatMap_bits (same ▸ inside), equal]
  · have beyond := Nat.le_of_not_lt inside
    rw [List.getElem?_eq_none (by rwa [length_flatMap_bits]),
      List.getElem?_eq_none (by rwa [length_flatMap_bits, ← same])]

/-- strings of one length that differ in a burst have different checksums -/
theorem checksum_ne_of_burst (same : data.length = data'.length) (differ : data ≠ data')
    (burst : Burst data data') : checksum data ≠ checksum data' := by
  obtain ⟨p, burst⟩ := burst
  intro equal
  have folds := (UInt32.xor_left_inj _).mp equal
  rw [foldl_feed, foldl_feed] at folds
  have lengths : (data.flatMap bits).length = (data'.flatMap bits).length := by
    rw [length_flatMap_bits, length_flatMap_bits, same]
  exact differ (flatMap_bits_injective (eq_of_window lengths (fun i => agree_outside same burst) folds))

/-- one byte that differs is a burst -/
theorem burst_byte (before after : List UInt8) (byte byte' : UInt8) :
    Burst (before ++ byte :: after) (before ++ byte' :: after) := by
  refine ⟨8 * before.length, fun i differ => ?_⟩
  have place : i / 8 = before.length := by
    refine Decidable.of_not_not fun elsewhere => differ ?_
    have same : (before ++ byte :: after)[i / 8]? = (before ++ byte' :: after)[i / 8]? := by
      rcases Nat.lt_or_gt_of_ne elsewhere with left | right
      · rw [List.getElem?_append_left left, List.getElem?_append_left left]
      · obtain ⟨j, far⟩ := Nat.exists_eq_add_of_lt right
        rw [far, List.getElem?_append_right (by omega), List.getElem?_append_right (by omega),
          show before.length + j + 1 - before.length = j + 1 by omega, List.getElem?_cons_succ,
          List.getElem?_cons_succ]
    rw [bitAt, bitAt, List.getD_eq_getElem?_getD, List.getD_eq_getElem?_getD, same]
  omega

end

end FlashRescue
