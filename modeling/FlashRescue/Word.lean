/-!
# Machine words

Arithmetic on 64-bit words where plain `+`, `-`, `*`, which wrap around, are not what is meant.

* `Word.addSat`, `Word.subSat`, `Word.mulSat`  stop at the end of the range they would leave;
* `Word.add?`, `Word.sub?`, `Word.mul?`        the exact result, or nothing if it does not fit.
-/

namespace FlashRescue.Word

/-- the largest word -/
def top : UInt64 := 0xffffffffffffffff

/-! ## Saturating -/

def addSat (a b : UInt64) : UInt64 :=
  if a.toNat + b.toNat < UInt64.size then a + b else top

def subSat (a b : UInt64) : UInt64 :=
  if b ≤ a then a - b else 0

def mulSat (a b : UInt64) : UInt64 :=
  if a.toNat * b.toNat < UInt64.size then a * b else top

/-! ## Checked -/

def add? (a b : UInt64) : Option UInt64 :=
  if a.toNat + b.toNat < UInt64.size then some (a + b) else none

def sub? (a b : UInt64) : Option UInt64 :=
  if b ≤ a then some (a - b) else none

def mul? (a b : UInt64) : Option UInt64 :=
  if a.toNat * b.toNat < UInt64.size then some (a * b) else none

end FlashRescue.Word
