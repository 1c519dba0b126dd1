import FlashRescue.Word

/-!
# Pages and windows

Ranges of memory given by a start and a length.  Addresses are 64-bit words, and a range whose end
does not fit a word has none.

* `PageRange`, `PageRange.length?`, `PageRange.end?`;
* `pagesFor`           the pages that hold a number of bytes;
* `largestPiece`       the most bytes that can be had in one piece;
* `Window`, `Window.end?`, `Window.bios`  a span of mapped memory.
-/

namespace FlashRescue

def pageSize : UInt64 := 4096

def pagesFor (size : UInt64) : UInt64 :=
  UInt64.ofNat ((size.toNat + (pageSize.toNat - 1)) / pageSize.toNat)

/-- the most bytes that can be had in one piece: one less than half of all addresses -/
def largestPiece : Nat := 0x7fffffffffffffff

structure PageRange where
  base : UInt64
  pages : UInt64
  deriving DecidableEq, Repr

namespace PageRange

def length? (r : PageRange) : Option UInt64 := Word.mul? r.pages pageSize

def end? (r : PageRange) : Option UInt64 := r.length?.bind (Word.add? r.base)

end PageRange

structure Window where
  base : UInt64
  length : UInt64
  deriving DecidableEq, Repr

namespace Window

def end? (w : Window) : Option UInt64 := Word.add? w.base w.length

def bios : Window := ⟨0xfff00000, 640 * 1024⟩

end Window

end FlashRescue
