import FlashRescue.Bench.Desk
import FlashRescue.Proofs.Host.Acknowledgement
import Mathlib.Control.Monad.Basic

/-!
# How often a request is made

A command that may be sent again is sent again only when its answer did not come in time, and not more often than
it may be, whatever the machine replies.

* `Host.Vain`                attempts that timed out, each of them after all that was queued was thrown away;
* `Host.Persisted`           the ways in which such a command can go; `Insisted.persisted`: there are no others;
* `Host.Inquired`            the ways in which a checksum can be asked for once; `recorded_inquired`: there are no
                             others;
* `Client.insistFrom`        the attempts are counted in a word; `insistFrom_eq`: the count fits it;
* `retries_bounded`          what comes of CHECKSUM and of NACK_MODE.
-/

namespace FlashRescue.Host

open Dialogue

/-! ## Attempts -/

section
variable {α : Type} (c : Client) (way : List Call → Except (Stop Error) α → Prop)

/-- so many attempts timed out; what was queued before each of them was thrown away -/
inductive Vain : Nat → List Call → Prop
  | none_ : Vain 0 []
  | late {k : Nat} {thrown tried rest : List Call} {e : Error} (drained : Drained thrown)
      (asked : way tried (.error (.failed e))) (late : e.isTimeout = true) (more : Vain k rest) :
      Vain (k + 1) (thrown ++ (tried ++ rest))

/-- the ways in which a request can go that may be made again so many times, with the number of attempts -/
inductive Persisted (again : Nat) : Nat → List Call → Except (Stop Error) α → Prop
  /-- there would be another attempt, but what is queued cannot be thrown away -/
  | jammed {k : Nat} {calls rest : List Call} {why : Stop Error} (vain : Vain way k calls) (few : k ≤ again)
      (clogged : Clogged c rest why) : Persisted again k (calls ++ rest) (.error why)
  /-- the last attempt settles it; it times out only if there may be no other -/
  | settled {k : Nat} {calls thrown tried : List Call} {ended : Except (Stop Error) α} (vain : Vain way k calls)
      (few : k ≤ again) (drained : Drained thrown) (asked : way tried ended)
      (final : ∀ e, ended = .error (.failed e) → e.isTimeout = true → k = again) :
      Persisted again (k + 1) (calls ++ (thrown ++ tried)) ended

end

section
variable {σ α : Type} {answer : machine.Answerer σ} {s s' : σ} {calls calls' : List Call} {c : Client}
  {way : List Call → Except (Stop Error) α → Prop} {ended : Except (Stop Error) α} {again k : Nat}
  {bytes : List UInt8}

theorem Persisted.le (h : Persisted c way again k calls ended) : k ≤ again + 1 := by
  cases h with
  | jammed vain few clogged => exact Nat.le_succ_of_le few
  | settled vain few drained asked final => exact Nat.succ_le_succ few

/-- one more attempt before the others -/
theorem Persisted.after (h : Persisted c way again k calls ended) {thrown tried : List Call} {e : Error}
    (drained : Drained thrown) (asked : way tried (.error (.failed e))) (late : e.isTimeout = true) :
    Persisted c way (again + 1) (k + 1) (thrown ++ (tried ++ calls)) ended := by
  cases h with
  | @jammed k calls rest why vain few clogged =>
    have whole := Persisted.jammed (.late drained asked late vain) (Nat.succ_le_succ few) clogged
    rwa [List.append_assoc, List.append_assoc] at whole
  | settled vain few drained' settled final =>
    have whole := Persisted.settled (c := c) (.late drained asked late vain) (Nat.succ_le_succ few) drained' settled
      fun e' same timeout' => congrArg (· + 1) (final e' same timeout')
    rwa [List.append_assoc, List.append_assoc] at whole

/-- a request that is made again can go in the ways in which it can go once -/
theorem Client.Insisted.persisted {request : Talk α}
    (ways : ∀ {s s' calls ended}, Recorded answer request s calls ended s' → way calls ended)
    (h : Client.Insisted answer c request again calls ended) : ∃ k, Persisted c way again k calls ended := by
  induction h with
  | stuck drain => exact ⟨0, .jammed .none_ (Nat.zero_le _) (Client.recorded_clogged drain)⟩
  | last drain asked final =>
    exact ⟨1, .settled .none_ (Nat.zero_le _) (Client.recorded_discard drain) (ways asked)
      fun e same timeout => (final e same timeout).symm⟩
  | late drain asked late more ih =>
    obtain ⟨k, persisted⟩ := ih
    exact ⟨k + 1, persisted.after (Client.recorded_discard drain) (ways asked) late⟩

theorem Vain.packets (once : ∀ {calls ended}, way calls ended → packets calls = [bytes])
    (h : Vain way k calls) : packets calls = List.replicate k bytes := by
  induction h with
  | none_ => rfl
  | late drained asked late more ih =>
    rw [packets_append, packets_append, drained.silent, once asked, ih]
    rfl

/-- each attempt writes the packet once, and nothing else is written -/
theorem Persisted.packets (once : ∀ {calls ended}, way calls ended → packets calls = [bytes])
    (h : Persisted c way again k calls ended) : packets calls = List.replicate k bytes := by
  cases h with
  | jammed vain few clogged => rw [packets_append, vain.packets once, clogged.silent, List.append_nil]
  | settled vain few drained asked final =>
    rw [packets_append, packets_append, vain.packets once, drained.silent, once asked, List.replicate_succ']
    rfl

end

/-! ## A checksum -/

/-- the ways in which a checksum can be asked for once -/
inductive Inquired (block : UInt16) : List Call → Except (Stop Error) UInt32 → Prop
  /-- the command is not acknowledged -/
  | refused {calls : List Call} {why : Stop Error}
      (handed : Handed .checksum block (Command.of .checksum block).encode calls (.error why)) :
      Inquired block calls (.error why)
  /-- the four bytes behind the ACK do not come -/
  | cut {calls : List Call} (taken : Taken (Command.of .checksum block).encode calls) (e : LinkError) :
      Inquired block (calls ++ [⟨.link (.read 4), .error e⟩]) (.error (.failed (.packet e)))
  | replied {calls : List Call} {crc : UInt32} (replied : Replied block crc calls) : Inquired block calls (.ok crc)

section
variable {σ α : Type} {answer : machine.Answerer σ} {s s' : σ} {calls : List Call} {block : UInt16}

theorem recorded_inquired {ended : Except (Stop Error) UInt32}
    (h : Recorded answer (Client.checksumOnce block) s calls ended s') : Inquired block calls ended := by
  have asking : Recorded answer ((demand (Link.write (Command.of .checksum block).encode) >>= fun _ =>
      Client.awaitAck .checksum block) >>= fun _ => demand Link.readChecksum : Talk UInt32) s calls ended s' := by
    rw [LawfulMonad.bind_assoc]
    exact h
  rcases asking.of_bind with ⟨why, rfl, stopped⟩ | ⟨first, _, s₁, rest, rfl, went, reading⟩
  · exact .refused (Client.recorded_handed stopped)
  have taken := (Client.recorded_handed went).of_ok
  cases ended with
  | ok crc => exact .replied (Client.recorded_replied h)
  | error why =>
    obtain ⟨e, rfl, rfl⟩ := Client.recorded_unread reading
    exact .cut taken e

theorem Inquired.packets {ended : Except (Stop Error) UInt32} (h : Inquired block calls ended) :
    packets calls = [(Command.of .checksum block).encode] := by
  have once {taken : List Call} (h : Taken (Command.of .checksum block).encode taken) (last : Call)
      (quiet : isWrite last.query = false) :
      Host.packets (taken ++ [last]) = [(Command.of .checksum block).encode] := by
    have handed : Handed .checksum block _ taken (.ok ()) := .taken h
    rw [packets_append, handed.packets, packets_quiet (List.forall_mem_singleton.mpr quiet)]
    rfl
  cases h with
  | refused handed => exact handed.packets
  | cut taken e => exact once taken _ rfl
  | replied replied =>
    obtain ⟨taken, digits, went, rfl, -⟩ := replied
    exact once went _ rfl

end

/-! ## Counting -/

/-- makes a request again as often as it may be made, with the attempts counted in a word -/
def Client.insistFrom {α : Type} (c : Client) (request : Talk α) : (rounds : Nat) → (attempt : UInt32) → Talk α
  | 0, _ => .stop .unfinished
  | rounds + 1, attempt => do
    c.discard
    match ← request.trial with
    | .ok value => return value
    | .error e =>
      if e.isTimeout && attempt < c.retries then
        if attempt = 0xffffffff then .stop (.broken .overflow)
        else c.insistFrom request rounds (attempt + 1)
      else throw e

theorem trial_resumed {α : Type} (request : Talk α) :
    (request.trial >>= fun ended => match ended with
      | .ok value => pure value
      | .error e => throw e) = request := by
  induction request with
  | done value => rfl
  | stop why => cases why <;> rfl
  | ask query next ih => exact congrArg (Dialogue.ask query) (funext ih)

/-- the count fits its word, and it is that of the attempts that are left -/
theorem Client.insistFrom_eq {α : Type} (c : Client) (request : Talk α) {again rounds : Nat} {attempt : UInt32}
    (left : attempt.toNat + again = c.retries.toNat) (enough : again < rounds) :
    c.insistFrom request rounds attempt = c.insist request again := by
  induction again generalizing attempt rounds with
  | zero =>
    obtain ⟨rounds, rfl⟩ := Nat.exists_eq_add_one_of_ne_zero (Nat.ne_of_gt enough)
    have last : ¬ attempt < c.retries := fun less => Nat.ne_of_lt (UInt32.lt_iff_toNat_lt.mp less) left
    rw [insistFrom, insist]
    refine congrArg (c.discard >>= ·) (funext fun _ => ?_)
    refine Eq.trans (congrArg (request.trial >>= ·) (funext fun ended => ?_)) (trial_resumed request)
    cases ended with
    | ok value => rfl
    | error e =>
      dsimp only
      rw [decide_eq_false last, Bool.and_false]
      rfl
  | succ again ih =>
    obtain ⟨rounds, rfl⟩ := Nat.exists_eq_add_one_of_ne_zero (Nat.ne_zero_of_lt enough)
    have bound := c.retries.toNat_lt
    have less : attempt < c.retries := UInt32.lt_iff_toNat_lt.mpr (by omega)
    have next : (attempt + 1).toNat = attempt.toNat + 1 := by
      rw [UInt32.toNat_add, UInt32.toNat_one, Nat.mod_eq_of_lt (by omega)]
    have fits : attempt ≠ 0xffffffff := by
      rintro rfl
      have top : (0xffffffff : UInt32).toNat = 0xffffffff := rfl
      omega
    rw [insistFrom, insist]
    refine congrArg (c.discard >>= ·) (funext fun _ => congrArg (request.trial >>= ·) (funext fun ended => ?_))
    cases ended with
    | ok value => rfl
    | error e =>
      dsimp only
      rw [decide_eq_true less, Bool.and_true, if_neg fits,
        ih (next ▸ (by omega)) (Nat.lt_of_succ_lt_succ enough)]

/-! ## The commands that may be sent again -/

/-- asks for NACKs, once -/
def Client.requestNacksOnce : Talk Unit := do
  demand (Link.sendCommand (.of .nackMode 0))
  awaitAck .nackMode 0

section
variable {σ : Type} {answer : machine.Answerer σ} {s s' : σ} {calls : List Call} {c : Client} {again k : Nat}

/-- if one attempt cannot break the run off then all of them cannot -/
theorem Persisted.unbroken {α : Type} {way : List Call → Except (Stop Error) α → Prop}
    {ended : Except (Stop Error) α} {fault : Fault}
    (whole : ∀ {calls ended}, way calls ended → ended ≠ .error (.broken fault))
    (h : Persisted c way again k calls ended) : ended ≠ .error (.broken fault) := by
  cases h with
  | jammed vain few clogged =>
    cases clogged <;> exact nofun
  | settled vain few drained asked final => exact whole asked

theorem Handed.unbroken {op : Opcode} {block : UInt16} {bytes : List UInt8} {ended : Except (Stop Error) Unit}
    {fault : Fault} (h : Handed op block bytes calls ended) : ended ≠ .error (.broken fault) := by
  cases h <;> exact nofun

theorem Inquired.unbroken {block : UInt16} {ended : Except (Stop Error) UInt32} {fault : Fault}
    (h : Inquired block calls ended) : ended ≠ .error (.broken fault) := by
  cases h with
  | refused handed =>
    intro broke
    cases broke
    exact handed.unbroken rfl
  | cut taken e => exact nofun
  | replied replied => exact nofun

/-- whatever the machine replies, CHECKSUM and NACK_MODE are sent once more at most than they may be sent again,
always after what was queued was thrown away; only an attempt that times out is followed by another, and the last
one settles it; the count of the attempts fits its word; and the client takes the board to send NACKs just if it
agreed to -/
theorem retries_bounded (answer : machine.Answerer σ) (s : σ) (c : Client) (block : UInt16) :
    (∀ calls ended s', Recorded answer (c.checksum block) s calls ended s' →
      (∃ k ≤ c.retries.toNat + 1, Persisted c (Inquired block) c.retries.toNat k calls ended ∧
        packets calls = List.replicate k (Command.of .checksum block).encode) ∧
      ∀ fault, ended ≠ .error (.broken fault)) ∧
    (∀ calls ended s', Recorded answer c.requestNacks s calls ended s' →
      (∃ k ≤ c.retries.toNat + 1, ∃ agreed,
        Persisted c (Handed .nackMode 0 (Command.of .nackMode 0).encode) c.retries.toNat k calls agreed ∧
        packets calls = List.replicate k (Command.of .nackMode 0).encode ∧
        ended = agreed.map fun _ => { c with nacks := true }) ∧
      (∀ fault, ended ≠ .error (.broken fault)) ∧
      ended.toOption.getD c = { c with nacks := c.nacks || ended.toOption.isSome }) ∧
    c.checksum block = c.insistFrom (Client.checksumOnce block) (c.retries.toNat + 1) 0 ∧
    c.requestNacks = (c.insistFrom Client.requestNacksOnce (c.retries.toNat + 1) 0 >>= fun _ =>
      pure { c with nacks := true }) := by
  have count {α : Type} (request : Talk α) :
      c.insistFrom request (c.retries.toNat + 1) 0 = c.insist request c.retries.toNat :=
    c.insistFrom_eq request (Nat.zero_add _) (Nat.lt_succ_self _)
  refine ⟨fun calls ended s' h => ?_, fun calls ended s' h => ?_, (count _).symm, ?_⟩
  · obtain ⟨k, persisted⟩ := (Client.insisted h).persisted recorded_inquired
    exact ⟨⟨k, persisted.le, persisted, persisted.packets Inquired.packets⟩,
      fun fault => persisted.unbroken Inquired.unbroken⟩
  · have agreeing {calls : List Call} {agreed : Except (Stop Error) Unit} {s₁ : σ}
        (h : Recorded answer (c.insist Client.requestNacksOnce c.retries.toNat) s calls agreed s₁) :
        ∃ k, Persisted c (Handed .nackMode 0 (Command.of .nackMode 0).encode) c.retries.toNat k calls agreed :=
      (Client.insisted h).persisted Client.recorded_handed
    rcases h.of_bind with ⟨why, rfl, stopped⟩ | ⟨first, _, s₁, rest, rfl, went, going⟩
    · obtain ⟨k, persisted⟩ := agreeing stopped
      refine ⟨⟨k, persisted.le, _, persisted, persisted.packets Handed.packets, rfl⟩, fun fault broke => ?_, ?_⟩
      · cases broke
        exact persisted.unbroken Handed.unbroken rfl
      · show c = { c with nacks := c.nacks || false }
        rw [Bool.or_false]
    · obtain ⟨k, persisted⟩ := agreeing went
      obtain ⟨rfl, rfl, -⟩ := going.unique (recorded_done { c with nacks := true } s₁)
      rw [List.append_nil]
      refine ⟨⟨k, persisted.le, _, persisted, persisted.packets Handed.packets, rfl⟩, nofun, ?_⟩
      show { c with nacks := true } = { c with nacks := c.nacks || true }
      rw [Bool.or_true]
  · rw [count]
    rfl

end

/-- a checksum whose bytes do not all come at first, and NACKs that are asked for in vain until they may not be
asked for again -/
theorem retries_bounded_twice :
    let c : Client := { retries := 1 }
    let late := [Delivery.bytes [1, 0, 0, 0xaa, 0xbb], .gap]
    let remote := Remote.scripted [] [late, [.bytes [1, 0, 0, 4, 3, 2, 1]]]
    let d : Desk := { cable := .connect .duplex 500 remote, folder := Desk.working [] }
    let silent : Desk := { cable := .connect .duplex 500 (.scripted [] []), folder := Desk.working [] }
    (∃ calls d', Recorded Desk.answer (c.checksum 7) d calls (.ok 0x01020304) d' ∧
      Persisted c (Inquired 7) 1 2 calls (.ok 0x01020304)) ∧
    ∃ calls d', Recorded Desk.answer c.requestNacks silent calls (.error (.failed (.packet .timedOut))) d' ∧
      Persisted c (Handed .nackMode 0 (Command.of .nackMode 0).encode) 1 2 calls
        (.error (.failed (.packet .timedOut))) := by
  intro c late remote d silent
  have attempts {bytes : List UInt8} {k : Nat} {written : List (List UInt8)} (two : written.length = 2)
      (same : written = List.replicate k bytes) : k = 2 := by
    rw [← two, same, List.length_replicate]
  have ran : ((c.checksum 7).run Desk.answer d).1 = .ok 0x01020304 := by decide +kernel
  have answered := recorded (Prod.eta ((c.checksum 7).run Desk.answer d)).symm
  rw [ran] at answered
  have starved : (c.requestNacks.run Desk.answer silent).1 = .error (.failed (.packet .timedOut)) := by
    decide +kernel
  have unheard := recorded (Prod.eta (c.requestNacks.run Desk.answer silent)).symm
  rw [starved] at unheard
  obtain ⟨⟨k, -, persisted, written⟩, -⟩ := (retries_bounded Desk.answer d c 7).1 _ _ _ answered
  obtain ⟨⟨k', -, agreed, persisted', written', same⟩, -⟩ :=
    (retries_bounded Desk.answer silent c 0).2.1 _ _ _ unheard
  have failed : agreed = .error (.failed (.packet .timedOut)) := by
    cases agreed with
    | ok _ => cases same
    | error why =>
      cases same
      rfl
  rw [attempts (by decide +kernel) written] at persisted
  rw [attempts (by decide +kernel) written', failed] at persisted'
  exact ⟨⟨_, _, answered, persisted⟩, _, _, unheard, persisted'⟩

end FlashRescue.Host
