import FlashRescue.Proofs.Session.Interpretation
import FlashRescue.Proofs.Session.Rounds
import FlashRescue.Proofs.Word
import Mathlib.Algebra.Order.Floor.Div

/-!
# Time and input along a run

What a run does to the clock of a simulated board and to the bytes that were laid down for it.

* `Board.Onward`       a board later on; its clock is virtual and has not gone back;
* `onward_of_recorded` a run leads onward, if the clock does not wrap around;
* `Device.taken`       the bytes that were read; `incoming_of_recorded`: they came from the front of the input;
* `Session.silence`    how long a host may be silent, and `Session.patience`, after how many ticks that time is
                       over; `late_iff`: the loop finds out at exactly this tick.
-/

namespace FlashRescue

open Device Device.Session Dialogue

/-! ## The timeout -/

namespace Device.Session

/-- how long the host may be silent, in nanoseconds -/
def silence (config : Config) : Nat := config.livenessTimeoutMs.toNat * Timing.nsPerMs.toNat

/-- after how many ticks that time is over -/
def patience (config : Config) (tick : UInt64) : Nat := silence config ⌈/⌉ tick.toNat

variable {config : Config} {tick last time : UInt64} {k : Nat}

theorem patience_le_iff (moves : 1 ≤ tick) (k : Nat) :
    patience config tick ≤ k ↔ silence config ≤ k * tick.toNat := by
  have positive : 0 < tick.toNat := UInt64.le_iff_toNat_le.mp moves
  rw [patience, ceilDiv_le_iff_le_mul positive, Nat.mul_comm]

theorem silence_le (moves : 1 ≤ tick) : silence config ≤ patience config tick * tick.toNat :=
  (patience_le_iff moves _).mp (Nat.le_refl _)

theorem patience_positive (moves : 1 ≤ tick) (some_ : 0 < silence config) : 0 < patience config tick := by
  have none_ : patience config tick ≤ 0 ↔ silence config ≤ 0 * tick.toNat := patience_le_iff moves 0
  omega

/-- the time is not over before -/
theorem patience_mul_lt (moves : 1 ≤ tick) (some_ : 0 < silence config) :
    patience config tick * tick.toNat < silence config + tick.toNat := by
  have positive := patience_positive moves some_
  have elapsed : patience config tick ≤ patience config tick - 1 ↔
      silence config ≤ (patience config tick - 1) * tick.toNat := patience_le_iff moves _
  have earlier : (patience config tick - 1) * tick.toNat < silence config := by omega
  have split : patience config tick * tick.toNat =
      (patience config tick - 1) * tick.toNat + tick.toNat := by
    rw [← Nat.succ_mul, Nat.succ_eq_add_one, Nat.sub_add_cancel positive]
  omega

/-- at the `k`-th tick the loop finds that the host has been silent for too long if that is so.  Before the
clock wraps around the time that is over fits a word, whether or not the timeout does -/
theorem late_iff (moves : 1 ≤ tick) (fits : time.toNat + tick.toNat < UInt64.size)
    (at_ : time.toNat = last.toNat + k * tick.toNat) :
    silenceNs config ≤ Word.subSat time last ↔ patience config tick ≤ k := by
  have positive : 1 ≤ tick.toNat := UInt64.le_iff_toNat_le.mp moves
  have le : last ≤ time := by
    rw [UInt64.le_iff_toNat_le]
    omega
  have passed : (Word.subSat time last).toNat = k * tick.toNat := by
    rw [Word.subSat, if_pos le, UInt64.toNat_sub_of_le _ _ le]
    omega
  rw [patience_le_iff moves, UInt64.le_iff_toNat_le, passed, silenceNs, Word.mulSat]
  split
  · rename_i small
    rw [UInt64.toNat_mul, Nat.mod_eq_of_lt small]
    rfl
  · rename_i large
    have top : Word.top.toNat = UInt64.size - 1 := rfl
    have large : ¬ silence config < UInt64.size := large
    rw [top]
    omega

theorem silence_positive (valid : config.validate = .ok ()) : 0 < silence config := by
  have some_ : config.livenessTimeoutMs ≠ 0 := by
    intro zero
    rw [Config.validate] at valid
    simp only [zero, if_true] at valid
    split at valid
    · cases valid
    · split at valid <;> cases valid
  have positive : 0 < config.livenessTimeoutMs.toNat := by
    rw [Nat.pos_iff_ne_zero]
    intro zero
    exact some_ (UInt64.toNat_inj.mp zero)
  exact Nat.mul_pos positive (by decide)

end Device.Session

/-! ## Input -/

namespace Device

def took : Call → Nat
  | ⟨.link (.read n), .ok _⟩ => n
  | _ => 0

/-- how many bytes were read -/
def taken (calls : List Call) : Nat := (calls.map took).sum

theorem taken_cons (call : Call) (calls : List Call) : taken (call :: calls) = took call + taken calls := by
  simp [taken]

theorem taken_append (calls calls' : List Call) : taken (calls ++ calls') = taken calls + taken calls' := by
  simp [taken]

end Device

namespace Board

variable {α : Type} {d : Action α} {b b' : Board} {calls : List Call} {ended : Except (Stop Error) α}

theorem answer_read (n : Nat) (b : Board) :
    answer (.link (.read n)) b = ((b.line.read n).1, { b with line := (b.line.read n).2 }) := rfl

/-- bytes are taken from the front of the input, by reads alone -/
theorem answer_incoming (query : Query) (b : Board) :
    (answer query b).2.line.incoming =
      b.line.incoming.drop (took ⟨query, (answer query b).1⟩) := by
  cases query with
  | link query =>
    cases query with
    | read n =>
      rw [answer_read, Line.read]
      split <;> rfl
    | write bytes =>
      obtain ⟨reply, sent, left, ran⟩ := b.line.write_eq bytes
      show (b.line.write bytes).2.incoming = _
      rw [ran]
      rfl
    | poll => rfl
  | install marker =>
    show (b.install marker).2.line.incoming = _
    rw [install]
    split <;> rfl
  | _ => rfl

/-- a read that goes through finds its bytes -/
theorem took_le (query : Query) (b : Board) :
    took ⟨query, (answer query b).1⟩ ≤ b.line.incoming.length := by
  cases query with
  | link query =>
    cases query with
    | read n =>
      rw [answer_read, Line.read]
      split
      · rename_i enough
        rw [List.length_take] at enough
        show n ≤ _
        omega
      · exact Nat.zero_le _
    | _ => exact Nat.zero_le _
  | _ => exact Nat.zero_le _

theorem incoming_of_recorded (h : Recorded answer d b calls ended b') :
    b'.line.incoming = b.line.incoming.drop (taken calls) := by
  have all : d.Throughout answer (fun _ _ => True) b := throughout_of_forall (fun _ _ => trivial) d b
  refine h.along (motive := fun b calls b' => b'.line.incoming = b.line.incoming.drop (taken calls)) all
    (fun _ => rfl) ?_
  intro query b calls b' _ ih
  rw [ih, answer_incoming, List.drop_drop, taken_cons]

theorem taken_le (h : Recorded answer d b calls ended b') : taken calls ≤ b.line.incoming.length := by
  have all : d.Throughout answer (fun _ _ => True) b := throughout_of_forall (fun _ _ => trivial) d b
  refine h.along (motive := fun b calls _ => taken calls ≤ b.line.incoming.length) all
    (fun _ => Nat.zero_le _) ?_
  intro query b calls b' _ ih
  have front := took_le query b
  rw [answer_incoming, List.length_drop] at ih
  rw [taken_cons]
  omega

/-! ## Time -/

/-- `b'` comes after `b`, on a virtual clock that has not gone back -/
structure Onward (b b' : Board) : Prop where
  virtual : b'.line.clock.process = none
  tick : b'.line.clock.tick = b.line.clock.tick
  now : b.line.clock.now.toNat ≤ b'.line.clock.now.toNat

theorem Onward.trans {b b' b'' : Board} (h : b.Onward b') (h' : b'.Onward b'') : b.Onward b'' :=
  ⟨h'.virtual, h'.tick.trans h.tick, Nat.le_trans h.now h'.now⟩

theorem onward_answer {query : Query} (virtual : b.line.clock.process = none) (keeps : KeepsTime query b) :
    b.Onward (answer query b).2 := by
  cases query with
  | link query =>
    cases query with
    | read n =>
      rw [answer_read]
      by_cases enough : n ≤ b.line.incoming.length
      · obtain ⟨bytes, now, ran, -, onward, -⟩ := Line.read_enough enough
        rw [ran]
        exact ⟨virtual, rfl, UInt64.le_iff_toNat_le.mp onward⟩
      · rw [Line.read_short (Nat.lt_of_not_le enough)]
        exact ⟨virtual, rfl, Nat.le_refl _⟩
    | write bytes =>
      obtain ⟨reply, sent, left, ran⟩ := b.line.write_eq bytes
      show b.Onward { b with line := (b.line.write bytes).2 }
      rw [ran]
      exact ⟨virtual, rfl, Nat.le_refl _⟩
    | poll =>
      show b.Onward { b with line := b.line.poll.2 }
      rw [Line.poll_eq virtual]
      exact ⟨virtual, rfl, Nat.le_refl _⟩
  | now =>
    show b.Onward { b with line.clock := b.line.clock.read.2 }
    rw [Clock.read_virtual virtual]
    exact ⟨virtual, rfl, UInt64.le_iff_toNat_le.mp (Word.le_add keeps)⟩
  | delay us =>
    show b.Onward { b with line.clock := b.line.clock.delay us }
    rw [Clock.delay_virtual virtual]
    exact ⟨virtual, rfl, UInt64.le_iff_toNat_le.mp (Word.le_add keeps)⟩
  | install marker =>
    show Onward _ (install marker _).2
    rw [install]
    split <;> exact ⟨virtual, rfl, Nat.le_refl _⟩
  | _ => exact ⟨virtual, rfl, Nat.le_refl _⟩

theorem onward_of_recorded (h : Recorded answer d b calls ended b')
    (all : d.Throughout answer KeepsTime b) (virtual : b.line.clock.process = none) : b.Onward b' := by
  refine h.along (motive := fun b _ b' => b.line.clock.process = none → b.Onward b') all
    (fun _ virtual => ⟨virtual, rfl, Nat.le_refl _⟩) ?_ virtual
  intro query b calls b' keeps ih virtual
  have first := onward_answer virtual keeps
  exact first.trans (ih first.virtual)

theorem toNat_ticked (keeps : KeepsTime .now b) :
    b.ticked.line.clock.now.toNat = b.line.clock.now.toNat + b.line.clock.tick.toNat := by
  show (b.line.clock.now + b.line.clock.tick).toNat = _
  rw [UInt64.toNat_add]
  exact Nat.mod_eq_of_lt keeps

/-! ## The line and the clock -/

/-- the front of the input can be seen -/
def seen (b : Board) : Bool := b.line.incoming.head?.any (·.1 ≤ b.line.clock.now)

theorem answer_poll (virtual : b.line.clock.process = none) :
    answer (.link .poll) b = (b.seen, b) := by
  obtain ⟨⟨⟨now, tick, delayed, process⟩, incoming, sent, left⟩, flash⟩ := b
  cases virtual
  rfl

theorem answer_now (virtual : b.line.clock.process = none) :
    answer .now b = (b.line.clock.now, b.ticked) := by
  obtain ⟨⟨⟨now, tick, delayed, process⟩, incoming, sent, left⟩, flash⟩ := b
  cases virtual
  rfl

theorem eq_of_polled {seen : Bool} (virtual : b.line.clock.process = none)
    (polled : answer (.link .poll) b = (seen, b')) : b.seen = seen ∧ b = b' :=
  Prod.mk.inj ((answer_poll virtual).symm.trans polled)

theorem eq_of_looked {time : UInt64} (virtual : b.line.clock.process = none)
    (looked : answer .now b = (time, b')) : b.line.clock.now = time ∧ b.ticked = b' :=
  Prod.mk.inj ((answer_now virtual).symm.trans looked)

end Board

end FlashRescue
