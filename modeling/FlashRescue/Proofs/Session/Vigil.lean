import FlashRescue.Proofs.Session.Passage

/-!
# Waiting for the host

The command loop on a virtual clock, tick by tick since the reading from which on the host is silent.

* `Board.Poised`     a board at the `k`-th tick after that reading, before the host's time is over;
* `Board.Vigil`      the ways in which the loop can go from there; `vigil`: there are no others;
* `Vigil.finished`   it does not use up as many rounds as the clock has readings;
* `Vigil.polls_le`   how many rounds it takes.
-/

namespace FlashRescue

open Device Device.Session Dialogue

namespace Board

variable {config : Config} {b b' b₁ : Board} {last : UInt64} {k rounds : Nat} {nacks : Bool}
  {calls : List Call} {ended : Except (Stop Error) Outcome}

/-- the clock shows the `k`-th tick after `last`, and the host's time is not over before this tick -/
structure Poised (config : Config) (last : UInt64) (k : Nat) (b : Board) : Prop where
  virtual : b.line.clock.process = none
  moves : 1 ≤ b.line.clock.tick
  at_ : b.line.clock.now.toNat = last.toNat + k * b.line.clock.tick.toNat
  after : 1 ≤ k
  within : k ≤ patience config b.line.clock.tick

theorem Poised.positive (h : b.Poised config last k) : 1 ≤ b.line.clock.tick.toNat :=
  UInt64.le_iff_toNat_le.mp h.moves

/-- the next tick -/
theorem Poised.ticked (h : b.Poised config last k) (fits : KeepsTime .now b)
    (soon : k < patience config b.line.clock.tick) : b.ticked.Poised config last (k + 1) where
  virtual := h.virtual
  moves := h.moves
  at_ := by
    rw [toNat_ticked fits, h.at_, Nat.succ_mul, Nat.add_assoc]
    rfl
  after := Nat.le_add_left ..
  within := soon

/-- a reading from which on the host is silent is followed by the first tick -/
theorem poised_ticked (virtual : b.line.clock.process = none) (moves : 1 ≤ b.line.clock.tick)
    (fits : KeepsTime .now b) (some_ : 1 ≤ patience config b.line.clock.tick) :
    b.ticked.Poised config b.line.clock.now 1 where
  virtual := virtual
  moves := moves
  at_ := by
    rw [toNat_ticked fits, Nat.one_mul]
    rfl
  after := Nat.le_refl 1
  within := some_

theorem Poised.soon (h : b.Poised config last k) (fits : KeepsTime .now b)
    (early : Word.subSat b.line.clock.now last < silenceNs config) :
    k < patience config b.line.clock.tick :=
  Nat.lt_of_not_le fun elapsed =>
    UInt64.not_le.mpr early ((late_iff h.moves fits h.at_).mpr elapsed)

theorem Poised.anew (h : b.Poised config last k) (onward : b.Onward b₁) (fits : KeepsTime .now b₁) :
    b₁.ticked.Poised config b₁.line.clock.now 1 := by
  have moves : 1 ≤ b₁.line.clock.tick := onward.tick ▸ h.moves
  have some_ : 1 ≤ patience config b₁.line.clock.tick := by
    rw [onward.tick]
    exact Nat.le_trans h.after h.within
  exact poised_ticked onward.virtual moves fits some_

/-- the ways in which the loop can go from the `k`-th tick after `last` on.  A command is seen, and the line
fails or the session is over; or it is carried out, and the time starts anew with the next reading.  Or nothing
is seen, and the time is over at this tick or goes on to the next one.  If the time is no longer than a tick,
it is over with the reading that follows the new start -/
inductive Vigil (config : Config) : (rounds k : Nat) → (last : UInt64) → Board → List Call →
    Except (Stop Error) Outcome → Board → Prop
  | spent {k : Nat} {last : UInt64} {b : Board} :
      Vigil config 0 k last b [] (.error .unfinished) b
  | cut {rounds k : Nat} {nacks : Bool} {last : UInt64} {b b' : Board} {calls : List Call}
      {why : Stop Error} (poised : b.Poised config last k) (seen : b.seen = true)
      (heeded : Recorded answer (heed config nacks) b calls (.error why) b') (severed : Severed why) :
      Vigil config (rounds + 1) k last b (⟨.link .poll, true⟩ :: calls) (.error why) b'
  | left {rounds k : Nat} {nacks : Bool} {last : UInt64} {b b₁ : Board} {calls : List Call}
      {outcome : Outcome} (poised : b.Poised config last k) (seen : b.seen = true)
      (heeded : Recorded answer (heed config nacks) b calls (.ok (.finish outcome)) b₁) :
      Vigil config (rounds + 1) k last b
        (⟨.link .poll, true⟩ :: (calls ++ [⟨.now, b₁.line.clock.now⟩])) (.ok outcome) b₁.ticked
  | expired {rounds : Nat} {last : UInt64} {b : Board}
      (poised : b.Poised config last (patience config b.line.clock.tick)) (unseen : b.seen = false)
      (fits : KeepsTime .now b) :
      Vigil config (rounds + 1) (patience config b.line.clock.tick) last b
        [⟨.link .poll, false⟩, ⟨.now, b.line.clock.now⟩] (.error (.failed .livenessTimeout)) b.ticked
  | idle {rounds k : Nat} {last : UInt64} {b b' : Board} {calls : List Call}
      {ended : Except (Stop Error) Outcome} (poised : b.Poised config last k)
      (unseen : b.seen = false) (fits : KeepsTime .now b)
      (soon : k < patience config b.line.clock.tick)
      (rest : Vigil config rounds (k + 1) last b.ticked calls ended b') :
      Vigil config (rounds + 1) k last b
        (⟨.link .poll, false⟩ :: ⟨.now, b.line.clock.now⟩ :: calls) ended b'
  | hasty {rounds k : Nat} {nacks nacks' : Bool} {last : UInt64} {b b₁ : Board} {calls : List Call}
      (poised : b.Poised config last k) (seen : b.seen = true)
      (heeded : Recorded answer (heed config nacks) b calls (.ok (.proceed nacks')) b₁)
      (onward : b.Onward b₁) (hasty : patience config b₁.line.clock.tick ≤ 1) :
      Vigil config (rounds + 1) k last b
        (⟨.link .poll, true⟩ ::
          (calls ++ [⟨.now, b₁.line.clock.now⟩, ⟨.now, b₁.ticked.line.clock.now⟩]))
        (.error (.failed .livenessTimeout)) b₁.ticked.ticked
  | heeded {rounds k : Nat} {nacks nacks' : Bool} {last : UInt64} {b b₁ b' : Board}
      {calls calls' : List Call} {ended : Except (Stop Error) Outcome}
      (poised : b.Poised config last k) (seen : b.seen = true)
      (heeded : Recorded answer (heed config nacks) b calls (.ok (.proceed nacks')) b₁)
      (onward : b.Onward b₁) (fits : KeepsTime .now b₁) (fits' : KeepsTime .now b₁.ticked)
      (soon : 1 < patience config b₁.line.clock.tick)
      (rest : Vigil config rounds 2 b₁.line.clock.now b₁.ticked.ticked calls' ended b') :
      Vigil config (rounds + 1) k last b
        (⟨.link .poll, true⟩ ::
          (calls ++ ⟨.now, b₁.line.clock.now⟩ :: ⟨.now, b₁.ticked.line.clock.now⟩ :: calls'))
        ended b'

theorem vigil (some_ : config.chunkSize ≠ 0)
    (h : Course answer KeepsTime config rounds nacks last b calls ended b')
    (poised : b.Poised config last k) : Vigil config rounds k last b calls ended b' := by
  induction h generalizing k with
  | spent => exact .spent
  | cut round =>
    have severed := round.severed some_
    cases round with
    | cut polled kept heeded all =>
      obtain ⟨seen, rfl⟩ := eq_of_polled poised.virtual polled
      exact .cut poised seen heeded severed
  | left round =>
    cases round with
    | heeded polled kept heeded all looked timed =>
      obtain ⟨seen, rfl⟩ := eq_of_polled poised.virtual polled
      have onward := onward_of_recorded heeded all poised.virtual
      obtain ⟨rfl, rfl⟩ := eq_of_looked onward.virtual looked
      exact .left poised seen heeded
  | late round looked timed silent =>
    cases round with
    | idle polled kept =>
      obtain ⟨unseen, rfl⟩ := eq_of_polled poised.virtual polled
      obtain ⟨rfl, rfl⟩ := eq_of_looked poised.virtual looked
      have elapsed := (late_iff poised.moves timed poised.at_).mp silent
      obtain rfl := Nat.le_antisymm elapsed poised.within
      exact .expired poised unseen timed
    | heeded polled kept heeded all looked' timed' =>
      obtain ⟨seen, rfl⟩ := eq_of_polled poised.virtual polled
      have onward := onward_of_recorded heeded all poised.virtual
      obtain ⟨rfl, rfl⟩ := eq_of_looked onward.virtual looked'
      have anew := poised.anew onward timed'
      obtain ⟨rfl, rfl⟩ := eq_of_looked anew.virtual looked
      have hasty := (late_iff anew.moves timed anew.at_).mp silent
      rw [List.cons_append, List.append_assoc]
      exact .hasty poised seen heeded onward hasty
  | goes round looked timed soon rest ih =>
    cases round with
    | idle polled kept =>
      obtain ⟨unseen, rfl⟩ := eq_of_polled poised.virtual polled
      obtain ⟨rfl, rfl⟩ := eq_of_looked poised.virtual looked
      have soon := poised.soon timed soon
      exact .idle poised unseen timed soon (ih (poised.ticked timed soon))
    | heeded polled kept heeded all looked' timed' =>
      obtain ⟨seen, rfl⟩ := eq_of_polled poised.virtual polled
      have onward := onward_of_recorded heeded all poised.virtual
      obtain ⟨rfl, rfl⟩ := eq_of_looked onward.virtual looked'
      have anew := poised.anew onward timed'
      obtain ⟨rfl, rfl⟩ := eq_of_looked anew.virtual looked
      have soon := anew.soon timed soon
      rw [List.cons_append, List.append_assoc]
      exact .heeded poised seen heeded onward timed' timed soon (ih (anew.ticked timed soon))

/-- in a session whose flash service is set up the host's time starts with the next reading -/
theorem vigil_of_session (valid : config.validate = .ok ()) (virtual : b.line.clock.process = none)
    (moves : 1 ≤ b.line.clock.tick)
    (timely : (Session.run config rounds).Throughout answer KeepsTime b)
    (h : Recorded answer (Session.run config rounds) b calls ended b') :
    (∃ e, calls = [⟨.flash .init, .error e⟩] ∧ ended = .error (.failed .flash)) ∨
      ∃ b₁ rest, calls = ⟨.flash .init, .ok ()⟩ :: ⟨.now, b₁.line.clock.now⟩ :: rest ∧
        b.Onward b₁ ∧ b₁.line.incoming = b.line.incoming ∧
        b₁.ticked.Poised config b₁.line.clock.now 1 ∧
        Vigil config rounds 1 b₁.line.clock.now b₁.ticked rest ended b' := by
  cases begun h timely with
  | @refused _ e setUp => exact .inl ⟨e, rfl, rfl⟩
  | @opened b₁ _ _ _ calls _ setUp kept looked timed course =>
    have onward := onward_answer virtual kept
    have incoming := answer_incoming (.flash .init) b
    rw [setUp] at onward incoming
    obtain ⟨rfl, rfl⟩ := eq_of_looked onward.virtual looked
    have moves : 1 ≤ b₁.line.clock.tick := onward.tick ▸ moves
    have some_ := patience_positive moves (silence_positive valid)
    have poised := poised_ticked onward.virtual moves timed some_
    have fit := nonzero_of_fit (chunksFit_of_validate valid)
    exact .inr ⟨b₁, calls, rfl, onward, incoming, poised, vigil fit course poised⟩

/-! ## How long it lasts -/

/-- the clock moves in each round, so that the rounds do not run out before it would wrap around -/
theorem Vigil.finished (h : Vigil config rounds k last b calls ended b')
    (enough : UInt64.size ≤ b.line.clock.now.toNat + rounds) : ended ≠ .error .unfinished := by
  induction h with
  | @spent _ _ b =>
    have bound := b.line.clock.now.toNat_lt
    unfold UInt64.size at enough
    omega
  | cut poised seen heeded severed =>
    obtain ⟨e, rfl⟩ := severed
    nofun
  | left => nofun
  | expired => nofun
  | hasty => nofun
  | idle poised unseen fits soon rest ih =>
    have moves := poised.positive
    apply ih
    rw [toNat_ticked fits]
    omega
  | @heeded _ _ _ _ _ _ b₁ _ _ _ _ poised seen heeded onward fits fits' soon rest ih =>
    have moves := poised.positive
    have later := onward.now
    have tick : b₁.ticked.line.clock.tick = _ := onward.tick
    apply ih
    rw [toNat_ticked fits', toNat_ticked fits, tick, onward.tick]
    omega

/-- a command takes up three bytes of the input -/
theorem length_heeded {step : Session.Step} (h : Recorded answer (heed config nacks) b calls (.ok step) b') :
    b'.line.incoming.length + 3 ≤ b.line.incoming.length := by
  obtain ⟨reply, rest, rfl, worked⟩ := heed_asks h
  obtain ⟨bytes, rfl⟩ := worked step rfl
  have front := taken_le h
  have command : took ⟨.link (.read Command.size), .ok bytes⟩ = 3 := rfl
  rw [incoming_of_recorded h, List.length_drop]
  rw [taken_cons, taken_cons, command] at front ⊢
  omega

/-- after each command the loop makes as many rounds as there are ticks in the timeout, and each command
takes up three bytes -/
theorem Vigil.polls_le (h : Vigil config rounds k last b calls ended b')
    (within : k ≤ patience config b.line.clock.tick) :
    polls calls + k ≤ patience config b.line.clock.tick + 1 +
      b.line.incoming.length / 3 * patience config b.line.clock.tick := by
  induction h with
  | spent =>
    show 0 + _ ≤ _
    omega
  | cut poised seen heeded severed =>
    rw [polls_cons, polls_working ((only_heed ..).recorded heeded)]
    show 0 + 1 + _ ≤ _
    omega
  | left poised seen heeded =>
    rw [polls_cons, polls_append, polls_working ((only_heed ..).recorded heeded)]
    show 0 + 0 + 1 + _ ≤ _
    omega
  | expired =>
    show 0 + 0 + 1 + _ ≤ _
    omega
  | hasty poised seen heeded onward hasty =>
    rw [polls_cons, polls_append, polls_working ((only_heed ..).recorded heeded)]
    show 0 + 0 + 1 + _ ≤ _
    omega
  | @idle _ k _ b _ calls _ poised unseen fits soon rest ih =>
    have rest : polls calls + (k + 1) ≤ patience config b.line.clock.tick + 1 +
        b.line.incoming.length / 3 * patience config b.line.clock.tick := ih soon
    rw [polls_cons, polls_cons]
    show _ + 0 + 1 + _ ≤ _
    omega
  | @heeded _ k _ _ _ b b₁ _ _ calls' _ poised seen heeded onward fits fits' soon rest ih =>
    have rest : polls calls' + 2 ≤ patience config b₁.line.clock.tick + 1 +
        b₁.line.incoming.length / 3 * patience config b₁.line.clock.tick := ih soon
    have consumed := length_heeded heeded
    have fewer : b₁.line.incoming.length / 3 + 1 ≤ b.line.incoming.length / 3 := by omega
    have product := Nat.mul_le_mul_right (patience config b.line.clock.tick) fewer
    rw [onward.tick] at rest
    rw [Nat.succ_mul] at product
    rw [polls_cons, polls_append, polls_working ((only_heed ..).recorded heeded), polls_cons, polls_cons]
    show 0 + (_ + 0 + 0) + 1 + _ ≤ _
    omega

end Board

end FlashRescue
