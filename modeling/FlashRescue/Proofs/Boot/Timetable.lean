import FlashRescue.Proofs.Boot.Announcement
import FlashRescue.Proofs.Word
import Mathlib.Algebra.Order.Floor.Div

/-!
# When HELLO is sent

A search whose host answers at some moment, under an onlooker's eyes: HELLO is sent in intervals, and the
first one at or after that moment is the last.

* `Boot.retryNs`      from one HELLO to the next;
* `Board.Answered`    nothing is to be read but an ACK, from some moment on;
* `run_interval`, `run_answered`  an interval without an answer, and the last;
* `Boot.repeats`      how often HELLO is sent again; `repeats_lt_iff`: before the ACK is there;
* `noted_announce`    what an onlooker sees of the search.
-/

namespace FlashRescue

open Device

/-- the onlooker saw something sent -/
def Board.Note.isSent : Board.Note → Bool
  | .sent _ _ => true
  | _ => false

namespace Device.Boot

/-! ## Intervals -/

/-- from one HELLO to the next, in nanoseconds -/
def retryNs (config : Config) : Nat := config.helloRetryMs.toNat * Timing.nsPerMs.toNat

/-- how often HELLO is sent again, after the first at `start`, until one is sent at `t` or later -/
def repeats (config : Config) (start t : Nat) : Nat := (t - start) ⌈/⌉ retryNs config

/-- how many intervals of the budget go by before the last HELLO -/
def lastRound (config : Config) : Nat :=
  config.helloTimeoutMs.toNat ⌈/⌉ config.helloRetryMs.toNat - 1

section
variable {config : Config} {start t : Nat}

theorem retryNs_positive (some_ : 0 < config.helloRetryMs.toNat) : 0 < retryNs config :=
  Nat.mul_pos some_ (by decide)

theorem repeats_le_iff (some_ : 0 < config.helloRetryMs.toNat) (i : Nat) :
    repeats config start t ≤ i ↔ t ≤ start + i * retryNs config := by
  rw [repeats, ceilDiv_le_iff_le_mul (retryNs_positive some_), Nat.mul_comm, Nat.sub_le_iff_le_add']

theorem le_repeats (some_ : 0 < config.helloRetryMs.toNat) :
    t ≤ start + repeats config start t * retryNs config :=
  (repeats_le_iff some_ _).mp (Nat.le_refl _)

theorem repeats_succ (config : Config) (start t : Nat) :
    repeats config start t + 1 = if t ≤ start then 1 else (t - start) ⌈/⌉ retryNs config + 1 := by
  split
  · rename_i early
    rw [repeats, Nat.sub_eq_zero_of_le early, zero_ceilDiv]
  · rfl

theorem before_repeats (some_ : 0 < config.helloRetryMs.toNat) {i : Nat} (h : i < repeats config start t) :
    start + i * retryNs config < t := by
  have short : ¬ t ≤ start + i * retryNs config := mt (repeats_le_iff some_ i).mpr (Nat.not_le_of_lt h)
  exact Nat.lt_of_not_le short

/-- the last HELLO does not come late -/
theorem repeats_lt (some_ : 0 < config.helloRetryMs.toNat) (started : start ≤ t) :
    start + repeats config start t * retryNs config < t + retryNs config := by
  have positive := retryNs_positive some_
  cases count : repeats config start t with
  | zero => omega
  | succ n =>
    have earlier : start + n * retryNs config < t := before_repeats some_ (by omega)
    rw [Nat.succ_mul]
    omega

theorem within_budget (some_ : 0 < config.helloRetryMs.toNat) (budget : config.helloTimeoutMs ≠ 0) {i : Nat}
    (h : i ≤ lastRound config) :
    i * config.helloRetryMs.toNat < config.helloTimeoutMs.toNat := by
  have begins : ¬ config.helloTimeoutMs.toNat ⌈/⌉ config.helloRetryMs.toNat ≤ 0 := by
    rw [ceilDiv_le_iff_le_mul some_, Nat.mul_zero, Nat.le_zero]
    exact fun zero => budget (UInt64.toNat_inj.mp zero)
  have inside : ¬ config.helloTimeoutMs.toNat ⌈/⌉ config.helloRetryMs.toNat ≤ i := by
    unfold lastRound at h
    omega
  rw [ceilDiv_le_iff_le_mul some_, Nat.mul_comm] at inside
  exact Nat.lt_of_not_le inside

end

/-! ## HELLOs -/

/-- the HELLOs that are sent from a moment on, `again` of them after the first -/
def timetable (config : Config) (start again : Nat) : List Board.Note :=
  (List.range (again + 1)).map fun i =>
    .sent (UInt64.ofNat (start + i * retryNs config)) helloBytes

theorem timetable_zero (config : Config) (start : Nat) :
    timetable config start 0 = [.sent (UInt64.ofNat start) helloBytes] := by
  show [Board.Note.sent (UInt64.ofNat (start + 0 * retryNs config)) helloBytes] = _
  rw [Nat.zero_mul, Nat.add_zero]

theorem timetable_succ (config : Config) (start again : Nat) :
    timetable config start (again + 1) =
      .sent (UInt64.ofNat start) helloBytes :: timetable config (start + retryNs config) again := by
  rw [timetable, List.range_succ_eq_map, List.map_cons, List.map_map, Nat.zero_mul]
  refine congrArg _ (List.map_congr_left fun i _ => ?_)
  show Board.Note.sent (UInt64.ofNat (start + (i + 1) * retryNs config)) helloBytes = _
  rw [Nat.succ_mul, Nat.add_assoc, Nat.add_comm (retryNs config)]

theorem countP_timetable (config : Config) (start again : Nat) :
    (timetable config start again).countP Board.Note.isSent = again + 1 := by
  rw [timetable, List.countP_map]
  exact (List.countP_eq_length.mpr fun _ _ => rfl).trans List.length_range

end Device.Boot

namespace Board

open Boot

variable {b : Board} {config : Config} {t : UInt64} {notes : Array Note}

/-- nothing is to be read but an ACK, from the moment `t` on -/
structure Answered (b : Board) (t : UInt64) : Prop where
  virtual : b.line.clock.process = none
  open_ : b.line.writesLeft = none
  incoming : b.line.incoming = Response.ack.encode.map (t, ·)

abbrev watched : board.Answerer (Board × Array Note) := Interface.Answerer.noting answer note

theorem playNoted_of_run {α : Type} {action : Action α} {b' : Board}
    {ended : Except (Stop Error) α} (ran : action.run watched (b, #[]) = (ended, (b', notes))) :
    b.playNoted action = ((ended, b'), notes) := by
  rw [playNoted, ran]

/-- the board after an interval -/
def interval (config : Config) (b : Board) : Board :=
  { b with
    line := { b.line with
      clock := b.line.clock.delay (Word.mulSat config.helloRetryMs Timing.usPerMs)
      sent := helloBytes.reverseAux b.line.sent } }

theorem Answered.interval (h : Answered b t) (config : Config) : Answered (b.interval config) t where
  virtual := by
    obtain ⟨⟨⟨now, tick, delayed, process⟩, incoming, sent, left⟩, flash⟩ := b
    cases h.virtual
    rfl
  open_ := h.open_
  incoming := h.incoming

theorem run_hello (notes : Array Note) (h : Answered b t) :
    ∃ b₁, (Device.demand (Link.sendCommand (.of .hello 0)) : Action Unit).run watched (b, notes) =
        (.ok (), (b₁, notes.push (.sent b.line.clock.now helloBytes))) ∧
      b₁ = { b with line := { b.line with sent := helloBytes.reverseAux b.line.sent } } := by
  obtain ⟨⟨⟨now, tick, delayed, process⟩, incoming, sent, left⟩, flash⟩ := b
  cases h.virtual
  cases h.open_
  exact ⟨_, rfl, rfl⟩

theorem run_look (notes : Array Note) (h : Answered b t) :
    (Link.poll : Action Bool).run watched (b, notes) =
      (.ok (decide (t ≤ b.line.clock.now)), (b, notes)) := by
  obtain ⟨⟨⟨now, tick, delayed, process⟩, incoming, sent, left⟩, flash⟩ := b
  cases h.virtual
  cases h.incoming
  rfl

theorem run_interval (notes : Array Note) (h : Answered b t) (early : b.line.clock.now < t) {elapsed : UInt64}
    (within : elapsed < config.helloTimeoutMs) (rounds : Nat) :
    (announceFrom config (rounds + 1) elapsed).run watched (b, notes) =
      (announceFrom config rounds (Word.addSat elapsed config.helloRetryMs)).run watched
        (b.interval config, notes.push (.sent b.line.clock.now helloBytes)) := by
  obtain ⟨b₁, said, same⟩ := run_hello notes h
  have h₁ : Answered b₁ t := same ▸ ⟨h.virtual, h.open_, h.incoming⟩
  have now₁ : b₁.line.clock.now = b.line.clock.now := by rw [same]
  have looked := run_look (notes.push (.sent b.line.clock.now helloBytes)) h₁
  rw [now₁, decide_eq_false (UInt64.not_le.mpr early)] at looked
  have unheard : answered.run watched (b₁, notes.push (.sent b.line.clock.now helloBytes)) =
      (.ok false, (b₁, notes.push (.sent b.line.clock.now helloBytes))) :=
    Dialogue.run_bind_ok looked
  rw [announceFrom, if_pos within, Dialogue.run_bind_ok said, Dialogue.run_bind_ok unheard, same]
  rfl

/-- the ACK is read as soon as it can be seen -/
theorem run_ack (notes : Array Note) (h : Answered b t) (late : t ≤ b.line.clock.now) :
    ∃ b', (Device.demand Link.readResponse : Action Response).run watched (b, notes) =
        (.ok .ack, (b', notes.push (.received b.line.clock.now Response.ack.encode))) ∧
      b'.line.incoming = [] := by
  have past := Clock.advanceTo_past h.virtual late
  have moved : ((b.line.clock.advanceTo t).advanceTo t).advanceTo t = b.line.clock := by
    rw [past, past, past]
  have seen : b.line.clock.peek.1 = b.line.clock.now := by rw [Clock.peek, h.virtual]
  obtain ⟨⟨clock, incoming, sent, left⟩, flash, image, registry, resets, settings, level⟩ := b
  cases h.incoming
  obtain ⟨after, same⟩ : ∃ after, after = ((clock.advanceTo t).advanceTo t).advanceTo t := ⟨_, rfl⟩
  have transfer : (Device.demand Link.readResponse : Action Response).run watched
      (⟨⟨clock, Response.ack.encode.map (t, ·), sent, left⟩, flash, image, registry, resets, settings,
        level⟩, notes) =
      (.ok .ack, (⟨⟨after, [], sent, left⟩, flash, image, registry, resets, settings, level⟩,
        notes.push (.received after.peek.1 Response.ack.encode))) := by
    rw [same]
    rfl
  rw [same, moved, seen] at transfer
  exact ⟨_, transfer, rfl⟩

theorem run_answered (notes : Array Note) (h : Answered b t) (late : t ≤ b.line.clock.now) {elapsed : UInt64}
    (within : elapsed < config.helloTimeoutMs) (rounds : Nat) :
    ∃ b', (announceFrom config (rounds + 1) elapsed).run watched (b, notes) =
        (.ok true, (b', (notes.push (.sent b.line.clock.now helloBytes)).push
          (.received b.line.clock.now Response.ack.encode))) ∧
      b'.line.incoming = [] := by
  obtain ⟨b₁, said, same⟩ := run_hello notes h
  have h₁ : Answered b₁ t := same ▸ ⟨h.virtual, h.open_, h.incoming⟩
  have now₁ : b₁.line.clock.now = b.line.clock.now := by rw [same]
  have looked := run_look (notes.push (.sent b.line.clock.now helloBytes)) h₁
  obtain ⟨b', heard, left⟩ := run_ack (notes.push (.sent b.line.clock.now helloBytes)) h₁
    (now₁ ▸ late)
  rw [now₁] at heard looked
  rw [decide_eq_true late] at looked
  have found : answered.run watched (b₁, notes.push (.sent b.line.clock.now helloBytes)) = (.ok true,
      (b', (notes.push (.sent b.line.clock.now helloBytes)).push
        (.received b.line.clock.now Response.ack.encode))) :=
    (Dialogue.run_bind_ok looked).trans (Dialogue.run_bind_ok heard)
  refine ⟨b', ?_, left⟩
  rw [announceFrom, if_pos within, Dialogue.run_bind_ok said, Dialogue.run_bind_ok found]
  rfl

theorem toNat_interval (h : Answered b t) (slow : config.helloRetryMs.toNat ≤ 350)
    (fits : b.line.clock.now.toNat + retryNs config < UInt64.size) :
    (b.interval config).line.clock.now.toNat = b.line.clock.now.toNat + retryNs config := by
  have ms : Timing.usPerMs.toNat = 1000 := rfl
  have us : (1000 : UInt64).toNat = 1000 := rfl
  have ns : retryNs config = config.helloRetryMs.toNat * 1000000 := rfl
  have micros : (Word.mulSat config.helloRetryMs Timing.usPerMs).toNat =
      config.helloRetryMs.toNat * 1000 := by
    rw [Word.toNat_mulSat, ms]
    rw [ms]
    unfold UInt64.size
    omega
  have nanos : (Word.mulSat (Word.mulSat config.helloRetryMs Timing.usPerMs) 1000).toNat =
      retryNs config := by
    rw [Word.toNat_mulSat, micros, us, ns, Nat.mul_assoc]
    rw [micros, us]
    unfold UInt64.size
    omega
  have moved : (b.interval config).line.clock.now = b.line.clock.now +
      Word.mulSat (Word.mulSat config.helloRetryMs Timing.usPerMs) 1000 := by
    rw [interval, Clock.delay]
    simp only [h.virtual]
  rw [moved, UInt64.toNat_add, nanos]
  exact Nat.mod_eq_of_lt fits

/-- HELLO is sent until one is sent when the ACK is there, which is read at once -/
theorem noted_announceFrom (slow : config.helloRetryMs.toNat ≤ 350) (again : Nat) (elapsed : UInt64)
    (notes : Array Note) {rounds : Nat} (h : Answered b t)
    (fits : b.line.clock.now.toNat + again * retryNs config < UInt64.size)
    (before : ∀ i < again, b.line.clock.now.toNat + i * retryNs config < t.toNat)
    (reached : t.toNat ≤ b.line.clock.now.toNat + again * retryNs config)
    (within : elapsed.toNat + again * config.helloRetryMs.toNat < config.helloTimeoutMs.toNat)
    (enough : again < rounds) :
    ∃ b' notes', (announceFrom config rounds elapsed).run watched (b, notes) =
        (.ok true, (b', notes')) ∧
      notes'.toList = notes.toList ++ timetable config b.line.clock.now.toNat again ++
        [.received (UInt64.ofNat (b.line.clock.now.toNat + again * retryNs config))
          Response.ack.encode] ∧
      b'.line.incoming = [] := by
  obtain ⟨rounds, rfl⟩ := Nat.exists_eq_add_one_of_ne_zero (Nat.ne_zero_of_lt enough)
  have inside : elapsed < config.helloTimeoutMs := by
    rw [UInt64.lt_iff_toNat_lt]
    omega
  -- on the HELLOs to come: an interval moves the clock and what is used up of the budget alike
  induction again generalizing b elapsed rounds notes with
  | zero =>
    rw [Nat.zero_mul, Nat.add_zero] at reached
    obtain ⟨b', ran, left⟩ :=
      run_answered notes h (UInt64.le_iff_toNat_le.mpr reached) inside rounds
    refine ⟨b', _, ran, ?_, left⟩
    rw [Array.toList_push, Array.toList_push, timetable_zero, Nat.zero_mul, Nat.add_zero,
      UInt64.ofNat_toNat]
  | succ again ih =>
    have step := run_interval notes h (UInt64.lt_iff_toNat_lt.mpr
      (by simpa using before 0 (Nat.succ_pos again))) inside rounds
    rw [Nat.succ_mul] at fits reached within
    have moved : (b.interval config).line.clock.now.toNat =
        b.line.clock.now.toNat + retryNs config := toNat_interval h slow (by omega)
    have bound := config.helloTimeoutMs.toNat_lt
    have elapsed' : (Word.addSat elapsed config.helloRetryMs).toNat =
        elapsed.toNat + config.helloRetryMs.toNat := by
      apply Word.toNat_addSat
      unfold UInt64.size
      omega
    obtain ⟨rounds, rfl⟩ := Nat.exists_eq_add_one_of_ne_zero (n := rounds) (by omega)
    have inside' : Word.addSat elapsed config.helloRetryMs < config.helloTimeoutMs := by
      rw [UInt64.lt_iff_toNat_lt, elapsed']
      omega
    obtain ⟨b', notes', ran, noted, left⟩ :=
      ih _ (notes.push (.sent b.line.clock.now helloBytes)) (h.interval config)
        (by omega) (fun i less => by
          have later := before (i + 1) (Nat.succ_lt_succ less)
          rw [Nat.succ_mul] at later
          omega)
        (by omega) (by omega) rounds (by omega) inside'
    refine ⟨b', notes', step.trans ran, ?_, left⟩
    have last : b.line.clock.now.toNat + retryNs config + again * retryNs config =
        b.line.clock.now.toNat + (again + 1) * retryNs config := by
      rw [Nat.succ_mul]
      omega
    rw [noted, moved, last, Array.toList_push, timetable_succ, UInt64.ofNat_toNat]
    simp only [List.append_assoc, List.cons_append, List.nil_append]

/-- a search that is answered within its budget, under an onlooker's eyes -/
theorem noted_announce (h : Answered b t) (some_ : 0 < b.config.helloRetryMs.toNat)
    (slow : b.config.helloRetryMs.toNat ≤ 350) (budget : b.config.helloTimeoutMs ≠ 0)
    (soon : t.toNat ≤ b.line.clock.now.toNat + lastRound b.config * retryNs b.config)
    (fits : b.line.clock.now.toNat +
      repeats b.config b.line.clock.now.toNat t.toNat * retryNs b.config < UInt64.size) :
    let start := b.line.clock.now.toNat
    let again := repeats b.config start t.toNat
    ∃ b' notes, b.playNoted (Boot.announce b.config b.rounds) = ((.ok true, b'), notes) ∧
      notes.toList = timetable b.config start again ++
        [.received (UInt64.ofNat (start + again * retryNs b.config)) Response.ack.encode] ∧
      b'.line.incoming = [] := by
  intro start again
  have last : again ≤ lastRound b.config := (repeats_le_iff some_ _).mpr soon
  have within := within_budget some_ budget last
  have enough : again < b.rounds := by
    have few : again * 1 ≤ again * b.config.helloRetryMs.toNat :=
      Nat.mul_le_mul_left again some_
    rw [Board.rounds]
    omega
  have elapsed : (0 : UInt64).toNat = 0 := rfl
  obtain ⟨b', notes, ran, noted, left⟩ :=
    noted_announceFrom slow again 0 #[] h fits
      (fun i less => before_repeats some_ less) (le_repeats some_) (by omega) enough
  rw [List.toList_toArray, List.nil_append] at noted
  exact ⟨b', notes, playNoted_of_run ran, noted, left⟩

end Board

end FlashRescue
