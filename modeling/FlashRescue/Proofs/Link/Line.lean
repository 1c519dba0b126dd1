import FlashRescue.Link.Line
import FlashRescue.Proofs.Clock

/-!
# A line with timed input

What a line replies, and what it and its clock become.

* `Line.read_enough`, `Line.read_short`  a read takes the first bytes, if there are enough, and else none;
* `Line.read_visible`  a byte that can be seen is not waited for;
* `Line.write_eq`      a write leaves the input and the clock alone;
* `Line.poll_eq`       a poll tells whether the first byte can be seen.
-/

namespace FlashRescue.Line

variable {l : Line} {n : Nat}

/-- a read waits for the latest of its bytes -/
theorem read_enough (enough : n ≤ l.incoming.length) :
    ∃ bytes now, l.read n = (.ok bytes, { l with incoming := l.incoming.drop n, clock.now := now }) ∧
      bytes.toList = (l.incoming.take n).map (·.2) ∧ l.clock.now ≤ now ∧
      (l.clock.process = none → (l.clock.now :: (l.incoming.take n).map (·.1)).max? = some now) := by
  obtain ⟨now, clock, onward, latest⟩ := Clock.foldl_advanceTo (l.incoming.take n) l.clock
  have length : ((l.incoming.take n).map (·.2)).length = n := by
    rw [List.length_map, List.length_take_of_le enough]
  refine ⟨⟨_, length⟩, now, ?_, rfl, onward, latest⟩
  rw [← clock]
  exact dif_pos (List.length_take_of_le enough)

theorem read_short (short : l.incoming.length < n) : l.read n = (.error .closed, l) := by
  refine dif_neg fun enough => ?_
  rw [List.length_take] at enough
  omega

theorem read_visible (virtual : l.clock.process = none) {entry : UInt64 × UInt8}
    (front : l.incoming.head? = some entry) (visible : entry.1 ≤ l.clock.now) :
    ∃ byte l', l.read 1 = (.ok byte, l') ∧ l'.clock = l.clock := by
  obtain ⟨rest, split⟩ := List.head?_eq_some_iff.mp front
  have one : l.incoming.take 1 = [entry] := by
    rw [split]
    rfl
  refine ⟨_, _, dif_pos (congrArg List.length one), ?_⟩
  rw [one]
  exact Clock.advanceTo_past virtual visible

theorem poll_eq (virtual : l.clock.process = none) :
    l.poll = (l.incoming.head?.any (·.1 ≤ l.clock.now), l) := by
  rw [poll, Clock.peek_virtual virtual]

theorem write_eq (bytes : List UInt8) (l : Line) :
    ∃ reply sent left, l.write bytes = (reply, { l with sent, writesLeft := left }) := by
  obtain ⟨clock, incoming, sent, left⟩ := l
  match left with
  | some 0 => exact ⟨_, sent, some 0, rfl⟩
  | some (left + 1) => exact ⟨_, _, _, rfl⟩
  | none => exact ⟨_, _, _, rfl⟩

end FlashRescue.Line
