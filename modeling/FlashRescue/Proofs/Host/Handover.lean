import FlashRescue.Proofs.Bench.Listener
import FlashRescue.Proofs.Boot.Termination
import FlashRescue.Proofs.Boot.Timetable

/-!
# From the search to the session

A host that has heard HELLO answers and waits before it goes on.  The device may say HELLO once more in the
meantime: it says it before it looks for an answer.

* `Client.attach`, in parts: `only_scanFor`, `le_scanFor`  the host has heard something when it answers;
* `run_discard_rested`, `run_attach`  it throws away all that is there after its pause;
* `Board.carried`     what the host gets to see of a search on a link that takes no time;
* `handover`          the device sends no HELLO after the pause, so that none is left over.
-/

namespace FlashRescue

open Host Dialogue

namespace Host.Client

/-! ## The scan -/

variable {deadline : Nat} {wait : UInt64}

theorem only_before {α : Type} {next : Talk α} {kind : machine.Query → Prop} (looks : kind .now)
    (h : next.Only kind) : (before deadline wait next).Only kind := by
  refine ⟨looks, fun time => ?_⟩
  show (if time ≥ deadline then throw (.noHello wait) else next : Talk α).Only kind
  split
  · trivial
  · exact h

theorem only_scanFor (deadline : Nat) (wait : UInt64) (rounds : Nat) (window : List UInt8) :
    (scanFor deadline wait rounds window).Only fun query => isWrite query = false := by
  induction rounds generalizing window with
  | zero => trivial
  | succ rounds ih =>
    refine only_bind (only_read 1) ?_
    intro reply
    cases reply with
    | ok byte =>
      dsimp only
      split
      · trivial
      · exact only_before rfl (ih _)
    | error e =>
      dsimp only
      split
      · exact only_before rfl (ih _)
      · trivial

end Host.Client

namespace Listener

open Client

variable {s s' : Listener} {deadline first t : Nat} {wait : UInt64} {c : Client}

theorem before_ok {α : Type} {next : Talk α} {value : α}
    (h : (before deadline wait next).run answer s = (.ok value, s')) :
    next.run answer s.tick = (.ok value, s') := by
  have looked : (before deadline wait next).run answer s =
      (if s.tick.now ≥ deadline then throw (.noHello wait) else next : Talk α).run answer s.tick := rfl
  rw [looked] at h
  split at h
  · cases h
  · exact h

/-- a host that has found HELLO has read something, and that was there -/
theorem le_scanFor {rounds : Nat} {window : List UInt8} (opens : ∀ entry ∈ s.arrivals, first ≤ entry.1)
    (h : (scanFor deadline wait rounds window).run answer s = (.ok (), s')) : first ≤ s'.now := by
  induction rounds generalizing s window with
  | zero => cases h
  | succ rounds ih =>
    obtain ⟨reply, s₁, read, rest⟩ := run_bind_eq_ok h
    have later := later_run (only_read 1) s
    rw [read] at later
    have opens₁ : ∀ entry ∈ s₁.tick.arrivals, first ≤ entry.1 :=
      fun entry mem => opens entry (later.arrivals.subset mem)
    cases reply with
    | ok byte =>
      dsimp only at rest
      split at rest
      · cases rest
        obtain ⟨entry, mem, there⟩ := run_read_ok read
        exact Nat.le_trans (opens entry mem) there
      · exact ih opens₁ (before_ok rest)
    | error e =>
      dsimp only at rest
      split at rest
      · exact ih opens₁ (before_ok rest)
      · cases rest

theorem run_acknowledge (silent : s.sent = []) :
    ∃ s', (demand (Link.sendResponse .ack) : Talk Unit).run answer s = (.ok (), s') ∧
      s'.sent = [(s'.now, Response.ack.encode)] ∧ s'.arrivals = s.arrivals ∧ s.now ≤ s'.now := by
  refine ⟨_, rfl, ?_, rfl, Nat.le_add_right _ _⟩
  show s.sent ++ _ = _
  rw [silent]
  rfl

/-- what there is when the pause is over is thrown away -/
theorem run_discard_rested (few : s.arrivals.length < c.rounds)
    (soon : ∀ entry ∈ s.arrivals, entry.1 ≤ s.now + attachPauseMs.toNat * Timing.nsPerMs.toNat) :
    ∃ s', (Dialogue.ask (.sleep attachPauseMs) fun _ => c.discard : Talk Unit).run answer s =
        (.ok (), s') ∧ s'.arrivals = [] := by
  obtain ⟨rested, slept⟩ : ∃ rested, rested = (answer (.sleep attachPauseMs) s).2 := ⟨_, rfl⟩
  have waited : s.now + attachPauseMs.toNat * Timing.nsPerMs.toNat ≤ rested.now := by
    rw [slept]
    exact Nat.add_le_add_right (Nat.le_add_right _ _) _
  have waiting : isWrite (.sleep attachPauseMs) = false := rfl
  have later : Later s rested := slept ▸ later_answer waiting s
  obtain ⟨s', discarded, left⟩ := run_discardFor (Nat.lt_of_le_of_lt later.arrivals.length_le few)
    fun entry mem => Nat.le_trans (soon entry (later.arrivals.subset mem)) waited
  refine ⟨s', ?_, left⟩
  rw [← discarded, slept]
  rfl

/-- a host whose ACK went out at `t` has thrown away what was there when its pause was over, and goes on -/
theorem run_attach (silent : s.sent = []) (few : s.arrivals.length < c.rounds)
    (opens : ∀ entry ∈ s.arrivals, first ≤ entry.1)
    (soon : first ≤ t → ∀ entry ∈ s.arrivals,
      entry.1 ≤ t + attachPauseMs.toNat * Timing.nsPerMs.toNat)
    (acked : (t, Response.ack.encode) ∈ ((c.attach wait).run answer s).2.sent) :
    first ≤ t ∧ ∃ s', (c.attach wait).run answer s = (.ok (), s') ∧ s'.arrivals = [] := by
  have looked : (Host.now : Talk Nat).run answer s = (.ok s.tick.now, s.tick) := rfl
  rw [Client.attach, run_bind_ok looked] at acked ⊢
  generalize s.tick.now + wait.toNat * Timing.nsPerMs.toNat = deadline at acked ⊢
  have scanned := later_run (only_scanFor deadline wait c.rounds (List.replicate 3 0)) s.tick
  cases scan : (scanFor deadline wait c.rounds (List.replicate 3 0)).run answer s.tick with
  | mk ended s₁ =>
    rw [scan] at scanned
    have silent₁ : s₁.sent = [] := scanned.sent.trans silent
    cases ended with
    | error why =>
      rw [run_bind_error scan, silent₁] at acked
      cases acked
    | ok =>
      have heard : first ≤ s₁.now := le_scanFor (s := s.tick) opens scan
      obtain ⟨s₂, acking, sent₂, arrivals₂, now₂⟩ := run_acknowledge silent₁
      rw [run_bind_ok scan, run_bind_ok acking] at acked ⊢
      -- nothing is sent after the ACK, so it is the one that went out at `t`
      have quiet : (Dialogue.ask (.sleep attachPauseMs) fun _ => c.discard : Talk Unit).Only
          fun query => isWrite query = false := ⟨rfl, fun _ => c.only_discard⟩
      rw [(later_run quiet s₂).sent, sent₂, List.mem_singleton] at acked
      obtain rfl : t = s₂.now := congrArg Prod.fst acked
      have opened : first ≤ s₂.now := Nat.le_trans heard now₂
      have later : s₂.arrivals <:+ s.arrivals := arrivals₂ ▸ scanned.arrivals
      exact ⟨opened, run_discard_rested (Nat.lt_of_le_of_lt later.length_le few)
        fun entry mem => soon opened entry (later.subset mem)⟩

end Listener

namespace Board

open Device.Boot

/-! ## The search -/

/-- what the host gets to see of a run, on a link that takes no time: the bytes that were sent, with the
moments when they were -/
def carried (notes : List Note) : List (Nat × UInt8) :=
  notes.flatMap fun
    | .sent time bytes => bytes.map (time.toNat, ·)
    | _ => []

section
variable {config : Device.Config} {start again : Nat}

theorem length_carried_timetable (config : Device.Config) (start again : Nat) :
    (carried (timetable config start again)).length = (again + 1) * Command.size := by
  induction again generalizing start with
  | zero => rfl
  | succ again ih =>
    rw [timetable_succ, carried, List.flatMap_cons, List.length_append, Nat.succ_mul, Nat.add_comm]
    exact congrArg (· + Command.size) (ih _)

/-- every HELLO is sent at one of the moments -/
theorem mem_carried_timetable (fits : start + again * retryNs config < UInt64.size)
    {entry : Nat × UInt8} (mem : entry ∈ carried (timetable config start again)) :
    start ≤ entry.1 ∧ entry.1 ≤ start + again * retryNs config := by
  obtain ⟨note, noted, mem⟩ := List.mem_flatMap.mp mem
  obtain ⟨i, inside, rfl⟩ := List.mem_map.mp noted
  obtain ⟨byte, -, rfl⟩ := List.mem_map.mp mem
  have up : i * retryNs config ≤ again * retryNs config :=
    Nat.mul_le_mul_right _ (Nat.le_of_lt_succ (List.mem_range.mp inside))
  have small : (UInt64.ofNat (start + i * retryNs config)).toNat = start + i * retryNs config := by
    rw [UInt64.toNat_ofNat']
    exact Nat.mod_eq_of_lt (Nat.lt_of_le_of_lt (Nat.add_le_add_left up start) fits)
  dsimp only
  rw [small]
  omega

/-- before the clock wraps around there is no time for more of them than a host would throw away -/
theorem length_carried_timetable_lt (some_ : 0 < config.helloRetryMs.toNat)
    (fits : start + again * retryNs config < UInt64.size) :
    (carried (timetable config start again)).length < ({} : Client).rounds := by
  have ns : Timing.nsPerMs.toNat = 1000000 := rfl
  have size : again * 1000000 ≤ again * retryNs config := by
    refine Nat.mul_le_mul_left again ?_
    rw [retryNs, ns]
    omega
  have within : start + again * retryNs config < 2 ^ 64 := fits
  rw [length_carried_timetable]
  show (again + 1) * 3 < 0x4000000000000000
  omega

end

theorem carried_append (first second : List Note) :
    carried (first ++ second) = carried first ++ carried second :=
  List.flatMap_append

/-! ## Both ends -/

/-- a device whose ACK is there from `t` on sends HELLO in intervals up to the first one at `t` or later,
which comes before another interval is over, reads the ACK and sends nothing more.  A host that has sent
this ACK on hearing HELLO, with no time lost on the link, is through with all HELLOs after its pause -/
theorem handover {b : Board} {t : UInt64} (h : Answered b t) (valid : b.config.validate = .ok ())
    (slow : b.config.helloRetryMs ≤ Client.attachPauseMs) (budget : b.config.helloTimeoutMs ≠ 0)
    (soon : t.toNat ≤ b.line.clock.now.toNat + lastRound b.config * retryNs b.config)
    (fits : b.line.clock.now.toNat +
      repeats b.config b.line.clock.now.toNat t.toNat * retryNs b.config < UInt64.size) :
    let start := b.line.clock.now.toNat
    let again := repeats b.config start t.toNat
    let moment (i : Nat) := start + i * retryNs b.config
    ∃ b' notes, b.playNoted (Device.Boot.announce b.config b.rounds) = ((.ok true, b'), notes) ∧
      notes.toList = timetable b.config start again ++
        [.received (UInt64.ofNat (moment again)) Response.ack.encode] ∧
      notes.toList.countP Note.isSent =
        (if t.toNat ≤ start then 1 else (t.toNat - start) ⌈/⌉ retryNs b.config + 1) ∧
      (∀ i < again, moment i < t.toNat) ∧ t.toNat ≤ moment again ∧
      (start ≤ t.toNat → moment again < t.toNat + retryNs b.config) ∧
      ∀ (host : Listener) (c : Client) (wait : UInt64), c.rounds = ({} : Client).rounds →
        host.arrivals <:+ carried notes.toList → host.sent = [] →
        (t.toNat, Response.ack.encode) ∈ ((c.attach wait).run Listener.answer host).2.sent →
        (∀ entry ∈ carried notes.toList,
          entry.1 < t.toNat + Client.attachPauseMs.toNat * Timing.nsPerMs.toNat) ∧
        ∃ host', (c.attach wait).run Listener.answer host = (.ok (), host') ∧ host'.arrivals = [] := by
  intro start again moment
  have some_ := helloRetry_positive valid
  have pause : Client.attachPauseMs.toNat = 350 := rfl
  have slow' : b.config.helloRetryMs.toNat ≤ 350 := UInt64.le_iff_toNat_le.mp slow
  obtain ⟨b', notes, ran, noted, -⟩ := noted_announce h some_ slow' budget soon fits
  have count : notes.toList.countP Note.isSent =
      if t.toNat ≤ start then 1 else (t.toNat - start) ⌈/⌉ retryNs b.config + 1 := by
    have all : notes.toList.countP Note.isSent = again + 1 := by
      rw [noted, List.countP_append, countP_timetable]
      rfl
    rw [all]
    exact repeats_succ ..
  refine ⟨b', notes, ran, noted, count, fun i less => before_repeats some_ less, le_repeats some_,
    repeats_lt some_, ?_⟩
  intro host c wait rounds arrivals silent acked
  have hellos : carried notes.toList = carried (timetable b.config start again) := by
    rw [noted, carried_append]
    exact List.append_nil _
  have interval : retryNs b.config ≤ 350 * Timing.nsPerMs.toNat := Nat.mul_le_mul_right _ slow'
  have passed : start ≤ t.toNat → ∀ entry ∈ carried notes.toList,
      entry.1 < t.toNat + Client.attachPauseMs.toNat * Timing.nsPerMs.toNat := by
    intro started entry mem
    rw [hellos] at mem
    have last : entry.1 ≤ start + again * retryNs b.config := (mem_carried_timetable fits mem).2
    have near : start + again * retryNs b.config < t.toNat + retryNs b.config :=
      repeats_lt some_ started
    rw [pause]
    omega
  have few : host.arrivals.length < c.rounds := by
    rw [rounds]
    refine Nat.lt_of_le_of_lt arrivals.length_le ?_
    rw [hellos]
    exact length_carried_timetable_lt some_ fits
  obtain ⟨started, done⟩ := Listener.run_attach silent few
    (fun entry mem => (mem_carried_timetable fits (hellos ▸ arrivals.subset mem)).1)
    (fun started entry mem => Nat.le_of_lt (passed started entry (arrivals.subset mem))) acked
  exact ⟨passed started, done⟩

/-- an ACK that is a millisecond late for the first HELLO -/
theorem handover_second_hello :
    let t : UInt64 := 1000000
    let board := Board.standard 1
    let b := { board with line := board.line.push t Response.ack.encode }
    let host : Listener :=
      { arrivals := carried (timetable b.config 0 1)
        patience := 1000000000
        lag := fun query => if query = 6 then 1000000 else 0 }
    (Answered b t ∧ b.config.validate = .ok () ∧ b.config.helloRetryMs ≤ Client.attachPauseMs ∧
      b.config.helloTimeoutMs ≠ 0 ∧
      t.toNat ≤ b.line.clock.now.toNat + lastRound b.config * retryNs b.config ∧
      b.line.clock.now.toNat + repeats b.config b.line.clock.now.toNat t.toNat * retryNs b.config <
        UInt64.size) ∧
    ∃ host', (({} : Client).attach 1000).run Listener.answer host = (.ok (), host') ∧
      host'.arrivals = [] := by
  intro t board b host
  have h : Answered b t := ⟨rfl, rfl, rfl⟩
  have valid : b.config.validate = .ok () := show ({} : Device.Config).validate = .ok () from rfl
  have slow : b.config.helloRetryMs ≤ Client.attachPauseMs := by decide
  have budget : b.config.helloTimeoutMs ≠ 0 := by decide
  have soon : t.toNat ≤ b.line.clock.now.toNat + lastRound b.config * retryNs b.config := by decide
  have again : repeats b.config b.line.clock.now.toNat t.toNat = 1 := by decide
  have fits : b.line.clock.now.toNat +
      repeats b.config b.line.clock.now.toNat t.toNat * retryNs b.config < UInt64.size := by
    rw [again]
    decide
  obtain ⟨b', notes, -, noted, -, -, -, -, ends⟩ := handover h valid slow budget soon fits
  rw [again] at noted
  have acked : (t.toNat, Response.ack.encode) ∈
      ((({} : Client).attach 1000).run Listener.answer host).2.sent := by
    decide +kernel
  have arrivals : host.arrivals <:+ carried notes.toList := by
    rw [noted, carried_append]
    exact List.suffix_rfl
  exact ⟨⟨h, valid, slow, budget, soon, fits⟩, (ends host {} 1000 rfl arrivals rfl acked).2⟩

end Board

end FlashRescue
