import FlashRescue.Proofs.Boot.Announcement
import FlashRescue.Proofs.Session.Rounds
import Mathlib.Algebra.Order.Floor.Div

/-!
# The budget of a search

How often a device sends HELLO, whatever its board replies.

* `Boot.hellos`      the HELLOs of a run;
* `Boot.Announced`   as many HELLOs were sent as intervals have begun within the budget, and only the line or the
                     end of its rounds can stop a search;
* `hellos_le`        so there are at most as many as intervals in the budget.
-/

namespace FlashRescue

open Device Device.Session Dialogue

namespace Device.Boot

/-! ## HELLOs -/

def isHello : Call → Bool
  | ⟨.link (.write bytes), _⟩ => bytes == helloBytes
  | _ => false

/-- how often it was tried to send HELLO -/
def hellos (calls : List Call) : Nat := calls.countP isHello

theorem hellos_append (calls calls' : List Call) :
    hellos (calls ++ calls') = hellos calls + hellos calls' :=
  List.countP_append

theorem hellos_cons (call : Call) (calls : List Call) :
    hellos (call :: calls) = hellos calls + if isHello call then 1 else 0 :=
  List.countP_cons

/-- a session answers, and does not say HELLO -/
theorem hellos_session {calls : List Call}
    (h : ∀ call ∈ calls, Looping call.query ∨ call.query = .flash .init) : hellos calls = 0 := by
  refine List.countP_eq_zero.mpr ?_
  intro call mem
  obtain ⟨query, reply⟩ := call
  rcases h _ mem with (working | poll | now) | init
  · cases working with
    | respond r known =>
      have other : r.encode ≠ helloBytes := by
        rcases known with rfl | rfl <;> decide
      show ¬ (r.encode == helloBytes) = true
      rwa [beq_iff_eq]
    | checksum crc =>
      show ¬ (ByteOrder.little.encode 4 crc.toNat == helloBytes) = true
      rw [beq_iff_eq]
      intro same
      cases congrArg List.length same
    | _ => exact Bool.false_ne_true
  · cases poll
    exact Bool.false_ne_true
  · cases now
    exact Bool.false_ne_true
  · cases init
    exact Bool.false_ne_true

/-! ## The search -/

variable {σ : Type} {answer : board.Answerer σ} {config : Config} {rounds : Nat} {elapsed : UInt64}
  {s s' : σ} {calls : List Call}

/-- how a search went of whose budget some milliseconds had elapsed -/
structure Announced (config : Config) (rounds : Nat) (elapsed : UInt64) (calls : List Call)
    (ended : Except (Stop Error) Bool) : Prop where
  /-- the interval that the last HELLO has begun lay within the budget -/
  within : ∀ n, hellos calls = n + 1 →
    elapsed.toNat + n * config.helloRetryMs.toNat < config.helloTimeoutMs.toNat
  stopped : ∀ why, ended = .error why →
    Severed why ∨ why = .unfinished ∧ rounds ≤ hellos calls ∧ rounds ≤ polls calls

theorem halts_answered : answered.Halts Severed := by
  refine halts_bind (halts_query _) ?_
  intro seen
  cases seen with
  | false => trivial
  | true => exact halts_bind (halts_demand (halts_map _ (halts_query _))) fun _ => trivial

theorem hellos_answered {ended : Except (Stop Error) Bool}
    (h : Recorded answer answered s calls ended s') : hellos calls = 0 := by
  refine List.countP_eq_zero.mpr ?_
  intro call mem
  have listening := only_answered.recorded h call mem
  obtain ⟨query, reply⟩ := call
  cases query with
  | link query =>
    cases query with
    | write bytes => exact listening.elim
    | _ => exact Bool.false_ne_true
  | _ => exact listening.elim

/-- an answer is looked for with a poll -/
theorem polls_answered {ended : Except (Stop Error) Bool}
    (h : Recorded answer answered s calls ended s') : 1 ≤ polls calls := by
  obtain ⟨rest, rfl, -⟩ := Recorded.of_ask h
  rw [polls_cons]
  exact Nat.le_add_left ..

theorem lt_addSat {a b : UInt64} {n : Nat} {limit : UInt64}
    (within : (Word.addSat a b).toNat + n < limit.toNat) : a.toNat + b.toNat + n < limit.toNat := by
  rw [Word.addSat] at within
  split at within
  · rename_i fits
    rwa [UInt64.toNat_add, Nat.mod_eq_of_lt fits] at within
  · have top : Word.top.toNat = UInt64.size - 1 := rfl
    have bound := limit.toNat_lt
    unfold UInt64.size at top
    omega

/-- a HELLO, the look for an answer, and the pause after it -/
theorem hellos_round (us : UInt64) (said : Except LinkError Unit) (paused : Unit)
    (first later : List Call) :
    hellos (⟨.link (.write helloBytes), said⟩ :: (first ++ ⟨.delay us, paused⟩ :: later)) =
      hellos first + hellos later + 1 := by
  rw [hellos_cons, hellos_append, hellos_cons]
  rfl

/-- after a single HELLO -/
theorem announced_once {reply : Except LinkError Unit} {ended : Except (Stop Error) Bool}
    (within : elapsed.toNat < config.helloTimeoutMs.toNat) (rest : List Call) (silent : hellos rest = 0)
    (severed : ∀ why, ended = .error why → Severed why) :
    Announced config rounds elapsed (⟨.link (.write helloBytes), reply⟩ :: rest) ended := by
  refine ⟨?_, fun why same => .inl (severed why same)⟩
  intro n once
  have said : hellos (⟨.link (.write helloBytes), reply⟩ :: rest) = hellos rest + 1 := hellos_cons _ _
  have first : n = 0 := by omega
  rwa [first, Nat.zero_mul]

/-- after a HELLO without an answer, and a pause -/
theorem Announced.later {us : UInt64} {reply : Except LinkError Unit} {paused : Unit}
    {first later : List Call} {ended : Except (Stop Error) Bool}
    (within : elapsed.toNat < config.helloTimeoutMs.toNat) (silent : hellos first = 0)
    (polled : 1 ≤ polls first)
    (h : Announced config rounds (Word.addSat elapsed config.helloRetryMs) later ended) :
    Announced config (rounds + 1) elapsed
      (⟨.link (.write helloBytes), reply⟩ :: (first ++ ⟨.delay us, paused⟩ :: later)) ended := by
  have round := hellos_round us reply paused first later
  rw [silent, Nat.zero_add] at round
  refine ⟨fun n count => ?_, fun why same => ?_⟩
  · have total := round.symm.trans count
    cases n with
    | zero => rwa [Nat.zero_mul]
    | succ n =>
      have before := lt_addSat (h.within n (Nat.succ.inj total))
      rw [Nat.succ_mul]
      omega
  · rcases h.stopped why same with severed | ⟨unfinished, spent, spent'⟩
    · exact .inl severed
    · refine .inr ⟨unfinished, ?_, ?_⟩
      · rw [round]
        exact Nat.succ_le_succ spent
      · rw [polls_cons, polls_append, polls_cons]
        omega

theorem announced {ended : Except (Stop Error) Bool}
    (h : Recorded answer (announceFrom config rounds elapsed) s calls ended s') :
    Announced config rounds elapsed calls ended := by
  induction rounds generalizing elapsed s calls with
  | zero =>
    obtain ⟨rfl, rfl, -⟩ := h.unique (recorded_stop _ s)
    refine ⟨fun n none_ => ?_, fun why same => ?_⟩
    · cases none_
    · cases same
      exact .inr ⟨rfl, Nat.zero_le _, Nat.zero_le _⟩
  | succ rounds ih =>
    rw [announceFrom] at h
    split at h
    · rename_i within
      rw [UInt64.lt_iff_toNat_lt] at within
      obtain ⟨rest, rfl, answering⟩ := Recorded.of_ask h
      generalize answer (.link (.write (Command.of .hello 0).encode)) s = replied at answering ⊢
      obtain ⟨reply, s₁⟩ := replied
      cases reply with
      | error e =>
        obtain ⟨rfl, rfl, -⟩ := answering.unique (recorded_stop _ s₁)
        exact announced_once within [] rfl fun why same => ⟨e, by cases same; rfl⟩
      | ok =>
        have listening : Recorded answer (answered >>= fun found => if found then pure true else
            pause config.helloRetryMs >>= fun _ =>
              announceFrom config rounds (Word.addSat elapsed config.helloRetryMs)) s₁ rest ended s' :=
          answering
        rcases listening.of_bind with ⟨why, rfl, heard⟩ | ⟨first, found, s₂, later, rfl, heard, onward⟩
        · refine announced_once within rest (hellos_answered heard) ?_
          rintro why' same
          cases same
          exact halts_answered.run heard.run
        · have silent := hellos_answered heard
          have polled := polls_answered heard
          cases found with
          | true =>
            obtain ⟨rfl, rfl, -⟩ := onward.unique (recorded_done true s₂)
            rw [List.append_nil]
            refine announced_once within first silent fun why same => ?_
            cases same
          | false =>
            obtain ⟨later, rfl, again⟩ := Recorded.of_ask onward
            exact (ih again).later within silent polled
    · obtain ⟨rfl, rfl, -⟩ := h.unique (recorded_done false s)
      refine ⟨fun n none_ => ?_, fun why same => ?_⟩
      · cases none_
      · cases same

theorem hellos_le {ended : Except (Stop Error) Bool}
    (h : Recorded answer (search config rounds) s calls ended s') (some_ : config.helloRetryMs ≠ 0) :
    hellos calls ≤ config.helloTimeoutMs.toNat ⌈/⌉ config.helloRetryMs.toNat := by
  obtain ⟨rest, rfl, announcing⟩ := Recorded.of_ask h
  have within := (announced announcing).within
  have positive : 0 < config.helloRetryMs.toNat := by
    rw [Nat.pos_iff_ne_zero]
    intro zero
    exact some_ (UInt64.toNat_inj.mp zero)
  rw [hellos_cons]
  show hellos rest + 0 ≤ _
  cases count : hellos rest with
  | zero => exact Nat.zero_le _
  | succ n =>
    apply Nat.lt_of_not_le
    rw [ceilDiv_le_iff_le_mul positive, Nat.mul_comm]
    have last := within n count
    rw [show (0 : UInt64).toNat = 0 from rfl] at last
    omega

theorem stopped_search {why : Stop Error}
    (h : Recorded answer (search config rounds) s calls (.error why) s') :
    Severed why ∨ why = .unfinished ∧ rounds ≤ hellos calls ∧ rounds ≤ polls calls := by
  obtain ⟨rest, rfl, announcing⟩ := Recorded.of_ask h
  rcases (announced announcing).stopped why rfl with severed | ⟨unfinished, spent, spent'⟩
  · exact .inl severed
  · refine .inr ⟨unfinished, ?_, ?_⟩
    · rw [hellos_cons]
      exact spent
    · rw [polls_cons]
      exact spent'

end Device.Boot

end FlashRescue
