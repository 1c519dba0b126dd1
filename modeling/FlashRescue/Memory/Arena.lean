import FlashRescue.Dialogue
import FlashRescue.Memory.Pages

/-!
# The page arena

Pages are handed out upwards from the start of a fixed window.  Only a range that ends where the next
one would begin can be given back.

* `Arena.new?`      an empty arena; its start is rounded up to a page;
* `Arena.allocate`  the next pages, if they fit;
* `Arena.release`   gives a range back, and tells whether it was taken;
* `Arena.used`      the bytes handed out.
-/

namespace FlashRescue

/-- a window of memory, handed out up to `next` -/
structure Arena where
  start : UInt64
  limit : UInt64
  next : UInt64
  deriving DecidableEq, Repr

namespace Arena

/-- an empty arena between the first page boundary from `start` on and `limit`; there is none if the
last page of the address space holds `start` -/
def new? (start limit : UInt64) : Option Arena :=
  (Word.add? start pageSize).map fun sum =>
    let start := (sum - 1) / pageSize * pageSize
    { start, limit, next := start }

/-- the next `pages` pages, if there are any and they fit -/
def allocate (pages : UInt64) (a : Arena) : Option PageRange × Arena :=
  let range : PageRange := ⟨a.next, pages⟩
  if pages = 0 then (none, a)
  else match range.end? with
    | some next => if next ≤ a.limit then (some range, { a with next }) else (none, a)
    | none => (none, a)

/-- gives `range` back if it ends where the next one would begin -/
def release (range : PageRange) (a : Arena) : Except Fault (Bool × Arena) :=
  if range.pages = 0 then .ok (false, a)
  else match range.end? with
    | some last => .ok (if last = a.next then (true, { a with next := range.base }) else (false, a))
    | none => .error .overflow

def used (a : Arena) : Except Fault UInt64 :=
  match Word.sub? a.next a.start with
  | some bytes => .ok bytes
  | none => .error .overflow

end Arena

end FlashRescue
