import FlashRescue.Proofs.Memory.Stack

/-!
# Ranges that mislead an arena

An arena remembers none of its ranges, only where the latest one ends.  So it takes back any range that ends
there, also one that was given back long ago and lies in the middle of another one by now, and it breaks off at
a range that ends at no address.  Any other range it judges as a stack would.

* `clear_of_in_step`   an arena that was misled has not answered as its stack does;
* `misled_iff`         that is all that can go wrong, and what holds up to there.
-/

namespace FlashRescue

namespace Arena.Holds

variable {a : Arena} {s : Stack}

theorem answer_misled (h : a.Holds s) {range : PageRange} (misled : Misleads s.start s.live range) :
    (Arena.answer (.release range) a).1 ≠ (Stack.answer (.release range) s).1 := by
  obtain ⟨first, some_, misleads⟩ := misled
  rw [Arena.answer, Stack.answer, Stack.release, if_neg first, h.release_eq, if_neg some_]
  by_cases beyond : UInt64.size ≤ range.base.toNat + range.bytes
  · rw [if_pos beyond]
    simp
  · have top : range.base.toNat + range.bytes = s.top := misleads.resolve_right beyond
    rw [if_neg beyond, if_pos top]
    simp

end Arena.Holds

namespace Arena

open Interface.Answerer (history_concat)

variable {a : Arena} {queries : List Query}

/-- an arena that was misled has not answered as its stack does -/
theorem clear_of_in_step {start limit : Nat} (made : a.Holds (.empty start limit))
    (same : (answer.history queries a).1 = (Stack.answer.history queries (.empty start limit)).1) :
    Releases (fun live range => ¬ Misleads start live range) (answer.history queries a).1 := by
  induction queries using List.reverseRecOn with
  | nil => exact releases_nil _
  | append_singleton queries query ih =>
    rw [history_concat, history_concat] at same
    obtain ⟨before, last⟩ := List.append_inj' same rfl
    have clear := ih before
    have holds := (in_step made clear).2
    have stack := Stack.history_live start limit queries
    rw [← before] at stack
    rw [history_concat]
    refine releases_concat.mpr ⟨clear, fun range asked misled => ?_⟩
    cases asked
    rw [stack] at last
    refine holds.answer_misled misled ?_
    simpa using last

/-- an arena answers as its stack does until it is given a range that misleads it.  Up to there its ranges are in
order, and it is right about every range there is, but for those that mislead it -/
theorem misled_iff {start limit : UInt64} (made : new? start limit = some a) (queries : List Query) :
    ((answer.history queries a).1 = (Stack.answer.history queries (.empty (roundUp start) limit.toNat)).1 ↔
      Releases (fun live range => ¬ Misleads (roundUp start) live range) (answer.history queries a).1) ∧
    (Releases (fun live range => ¬ Misleads (roundUp start) live range) (answer.history queries a).1 →
      Orderly start limit (live (answer.history queries a).1) (answer.history queries a).2 ∧
      ∀ range, (answer.history queries a).2.release range =
          .ok (if (live (answer.history queries a).1).head? = some range
            then (true, { (answer.history queries a).2 with next := range.base })
            else (false, (answer.history queries a).2)) ↔
        ¬ Misleads (roundUp start) (live (answer.history queries a).1) range) := by
  have new_ := holds_of_new? made
  refine ⟨⟨clear_of_in_step new_, fun clear => (in_step new_ clear).1⟩, fun clear => ?_⟩
  have holds := (in_step new_ clear).2
  exact ⟨orderly_of_holds holds, fun range => holds.release_eq_iff range⟩

/-- a range that was given back before is refused, as long as no other one ends where it did -/
theorem misled_iff_given_back_twice :
    new? 0 0x10000 = some ⟨0, 0x10000, 0⟩ ∧
    (answer.history [.allocate 1, .allocate 1, .release ⟨4096, 1⟩] ⟨0, 0x10000, 0⟩).2.release ⟨4096, 1⟩ =
      .ok (false, ⟨0, 0x10000, 4096⟩) := by
  have made : new? 0 0x10000 = some ⟨0, 0x10000, 0⟩ := by decide
  have same : (answer.history [.allocate 1, .allocate 1, .release ⟨4096, 1⟩] ⟨0, 0x10000, 0⟩).1 =
      (Stack.answer.history [.allocate 1, .allocate 1, .release ⟨4096, 1⟩] (.empty (roundUp 0) 0x10000)).1 := rfl
  obtain ⟨iff_, right⟩ := misled_iff made [.allocate 1, .allocate 1, .release ⟨4096, 1⟩]
  exact ⟨made, ((right (iff_.mp same)).2 ⟨4096, 1⟩).mpr (by decide)⟩

/-- two ranges are given back and their pages allocated again in one piece: the second one is taken back once more,
out of the middle of the range in use -/
theorem stale_range_taken_back :
    new? 0 0x10000 = some ⟨0, 0x10000, 0⟩ ∧
    live (answer.history [.allocate 1, .allocate 1, .release ⟨4096, 1⟩, .release ⟨0, 1⟩, .allocate 2]
      ⟨0, 0x10000, 0⟩).1 = [⟨0, 2⟩] ∧
    (answer.history [.allocate 1, .allocate 1, .release ⟨4096, 1⟩, .release ⟨0, 1⟩, .allocate 2]
      ⟨0, 0x10000, 0⟩).2.release ⟨4096, 1⟩ = .ok (true, ⟨0, 0x10000, 4096⟩) := by
  decide

end Arena

end FlashRescue
