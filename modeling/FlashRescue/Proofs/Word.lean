import FlashRescue.Word

/-!
# What machine words stand for

* `Word.le_add`               a sum that fits;
* `Word.toNat_addSat`, `Word.toNat_mulSat`, `Word.toNat_mulSat_eq_min`  a sum or product that stops at the
                              largest word;
* `toNat_mul?`, `toNat_add?`  an exact result.
-/

namespace FlashRescue

/-- a sum that fits its word does not wrap around -/
theorem Word.le_add {a b : UInt64} (fits : a.toNat + b.toNat < UInt64.size) : a ≤ a + b := by
  rw [UInt64.le_iff_toNat_le, UInt64.toNat_add, Nat.mod_eq_of_lt fits]
  exact Nat.le_add_right ..

theorem Word.toNat_addSat {a b : UInt64} (fits : a.toNat + b.toNat < UInt64.size) :
    (addSat a b).toNat = a.toNat + b.toNat := by
  rw [addSat, if_pos fits, UInt64.toNat_add]
  exact Nat.mod_eq_of_lt fits

theorem Word.toNat_mulSat {a b : UInt64} (fits : a.toNat * b.toNat < UInt64.size) :
    (mulSat a b).toNat = a.toNat * b.toNat := by
  rw [mulSat, if_pos fits, UInt64.toNat_mul]
  exact Nat.mod_eq_of_lt fits

theorem Word.toNat_mulSat_eq_min (a b : UInt64) :
    (mulSat a b).toNat = min (a.toNat * b.toNat) (UInt64.size - 1) := by
  by_cases fits : a.toNat * b.toNat < UInt64.size
  · rw [toNat_mulSat fits]
    omega
  · rw [mulSat, if_neg fits]
    have top : Word.top.toNat = UInt64.size - 1 := rfl
    omega

theorem toNat_mul? {a b c : UInt64} (h : Word.mul? a b = some c) : c.toNat = a.toNat * b.toNat := by
  rw [Word.mul?] at h
  split at h
  · rename_i fits
    cases h
    rw [UInt64.toNat_mul, Nat.mod_eq_of_lt fits]
  · cases h

theorem toNat_add? {a b c : UInt64} (h : Word.add? a b = some c) : c.toNat = a.toNat + b.toNat := by
  rw [Word.add?] at h
  split at h
  · rename_i fits
    cases h
    rw [UInt64.toNat_add, Nat.mod_eq_of_lt fits]
  · cases h

end FlashRescue
