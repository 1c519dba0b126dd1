import FlashRescue.Clock

/-!
# Clocks that wait

What becomes of a clock that is read, that lets time pass, and that waits for bytes.

* `peek_virtual`, `read_virtual`, `delay_virtual`  the time of a virtual clock;
* `Clock.max?_moments`              the latest of a time and of the moments of some bytes;
* `Clock.foldl_advanceTo_virtual`   a virtual clock is moved to it;
* `Clock.foldl_advanceTo`           no clock is changed but for its time, which does not go back.
-/

namespace FlashRescue

instance leftLeaningMax : Std.LawfulOrderLeftLeaningMax UInt64 where
  max_eq_left a b ge := by
    show (if a ≤ b then b else a) = a
    split
    · rename_i le
      exact UInt64.le_antisymm ge le
    · rfl
  max_eq_right a b lt := if_pos (UInt64.le_of_lt (UInt64.not_le.mp lt))

namespace Clock

/-! ## Virtual clocks -/

variable {c : Clock}

theorem peek_virtual (virtual : c.process = none) : c.peek = (c.now, c) := by
  rw [peek, virtual]

theorem read_virtual (virtual : c.process = none) : c.read = (c.now, { c with now := c.now + c.tick }) := by
  obtain ⟨now, tick, delayed, process⟩ := c
  cases virtual
  rfl

theorem delay_virtual (virtual : c.process = none) (us : UInt64) :
    c.delay us = { c with now := c.now + Word.mulSat us 1000, delayedUs := c.delayedUs + us } := by
  obtain ⟨now, tick, delayed, process⟩ := c
  cases virtual
  rfl

/-! ## Waiting -/

variable (entries : List (UInt64 × UInt8))

theorem max?_moments (now : UInt64) :
    (now :: entries.map (·.1)).max? = some (entries.foldl (fun now entry => max now entry.1) now) := by
  rw [List.max?_cons', List.foldl_map]

/-- a clock is not moved by a moment that is over -/
theorem advanceTo_past {t : UInt64} (virtual : c.process = none) (past : t ≤ c.now) : c.advanceTo t = c := by
  obtain ⟨now, tick, delayed, process⟩ := c
  cases virtual
  exact congrArg (Clock.mk · tick delayed none) (Std.LawfulOrderLeftLeaningMax.max_eq_left now t past)

/-- a virtual clock that waits for bytes is moved to the latest of them -/
theorem foldl_advanceTo_virtual (virtual : c.process = none) :
    entries.foldl (fun c entry => c.advanceTo entry.1) c =
      { c with now := entries.foldl (fun now entry => max now entry.1) c.now } := by
  induction entries generalizing c with
  | nil => rfl
  | cons entry entries ih =>
    obtain ⟨now, tick, delayed, process⟩ := c
    cases virtual
    exact ih rfl

theorem foldl_advanceTo_wall {time : Nat × ProcessTime} (wall : c.process = some time) :
    entries.foldl (fun c entry => c.advanceTo entry.1) c = c := by
  induction entries with
  | nil => rfl
  | cons entry entries ih =>
    have same : c.advanceTo entry.1 = c := by rw [advanceTo, wall]
    rw [List.foldl_cons, same, ih]

/-- a clock that waits for bytes is changed but for its time, which does not go back -/
theorem foldl_advanceTo (c : Clock) :
    ∃ now, entries.foldl (fun c entry => c.advanceTo entry.1) c = { c with now } ∧ c.now ≤ now ∧
      (c.process = none → (c.now :: entries.map (·.1)).max? = some now) := by
  rcases Option.eq_none_or_eq_some c.process with virtual | ⟨time, wall⟩
  · have latest := max?_moments entries c.now
    exact ⟨_, foldl_advanceTo_virtual entries virtual,
      (List.max?_eq_some_iff.mp latest).2 c.now List.mem_cons_self, fun _ => latest⟩
  · refine ⟨c.now, foldl_advanceTo_wall entries wall, UInt64.le_refl _, fun virtual => ?_⟩
    cases wall.symm.trans virtual

end Clock

end FlashRescue
