import FlashRescue.Proofs.Session.Frame

/-!
# The rounds of a session

The command loop, round by round, whatever its board replies.

* `Session.Severed`     the line has failed; nothing else stops a command (`halts_heed`);
* `Session.Round`       the ways in which a round can go, up to the look at the clock that may end the session;
* `Session.Course`      the ways in which the loop can go;
* `course`              there are no others;
* `Session.Begun`       the same for a session as a whole;
* `polls`               the polls of a run, one for each round of a loop;
* `Begun.reported`      a session reports its result, or it has used up its rounds.
-/

namespace FlashRescue

open Device Device.Session Dialogue

namespace Device

/-! ## Polls -/

def isPoll : Call → Bool
  | ⟨.link .poll, _⟩ => true
  | _ => false

/-- how often the line was polled -/
def polls (calls : List Call) : Nat := calls.countP isPoll

theorem polls_append (calls calls' : List Call) : polls (calls ++ calls') = polls calls + polls calls' :=
  List.countP_append

theorem polls_cons (call : Call) (calls : List Call) :
    polls (call :: calls) = polls calls + if isPoll call then 1 else 0 :=
  List.countP_cons

namespace Session

theorem polls_working {calls : List Call} (working : ∀ call ∈ calls, Working call.query) :
    polls calls = 0 := by
  refine List.countP_eq_zero.mpr ?_
  intro call mem
  obtain ⟨query, reply⟩ := call
  cases working _ mem <;> exact Bool.false_ne_true

/-! ## Where a command stops -/

/-- the line has failed -/
def Severed (why : Stop Error) : Prop := ∃ e, why = .failed (.link e)

theorem halts_demand {α : Type} {transfer : Action (Except LinkError α)} (h : transfer.Halts Severed) :
    (demand transfer).Halts Severed := by
  refine halts_bind h ?_
  intro reply
  cases reply with
  | ok value => trivial
  | error e => exact ⟨e, rfl⟩

theorem halts_query {kind : Stop Error → Prop} (query : Query) :
    (.ask query .done : Action (Reply query)).Halts kind := fun _ => trivial

theorem halts_respond (r : Response) : (demand (Link.sendResponse r)).Halts Severed :=
  halts_demand (halts_query _)

theorem halts_refuse (nacks : Bool) : (refuse nacks).Halts Severed := by
  cases nacks with
  | false => trivial
  | true => exact halts_respond .nack

theorem halts_answerChecksum (nacks : Bool) (block : UInt16) :
    (answerChecksum nacks block).Halts Severed := by
  refine halts_bind (halts_query _) ?_
  intro reply
  cases reply with
  | error e => exact halts_refuse nacks
  | ok content => exact halts_bind (halts_respond .ack) fun _ => halts_demand (halts_query _)

theorem halts_receiveBlock {config : Config} (some_ : config.chunkSize ≠ 0) :
    (receiveBlock config).Halts Severed := by
  rw [receiveBlock, if_neg some_]
  refine halts_map _ (halts_mapM (fun n => ?_) _)
  exact halts_bind (halts_query _) fun _ => halts_bind (halts_demand (halts_query _)) fun _ =>
    halts_bind (halts_respond .ack) fun _ => trivial

theorem halts_reprogram (block : UInt16) (content : List UInt8) :
    (reprogram block content).Halts Severed := by
  refine halts_bind (halts_query _) ?_
  intro erased
  cases erased with
  | error e => trivial
  | ok =>
    refine halts_bind (halts_query _) ?_
    intro programmed
    cases programmed <;> trivial

theorem halts_replace {config : Config} (some_ : config.chunkSize ≠ 0) (nacks : Bool)
    (block : UInt16) : (replace config nacks block).Halts Severed := by
  refine halts_bind (halts_respond .ack) fun _ => halts_bind (halts_receiveBlock some_) ?_
  intro content
  refine halts_bind (halts_reprogram block content) ?_
  intro worked
  cases worked with
  | false => exact halts_refuse nacks
  | true => trivial

theorem halts_dispatch {config : Config} (some_ : config.chunkSize ≠ 0) (nacks : Bool)
    (command : Command) : (dispatch config nacks command).Halts Severed := by
  rw [dispatch]
  split
  · exact halts_bind (halts_answerChecksum nacks command.block) fun _ => trivial
  · exact halts_bind (halts_replace some_ nacks command.block) fun _ => trivial
  · exact fun _ => trivial
  · trivial
  · exact halts_bind (halts_respond .ack) fun _ => trivial
  all_goals trivial

theorem halts_heed {config : Config} (some_ : config.chunkSize ≠ 0) (nacks : Bool) :
    (heed config nacks).Halts Severed :=
  halts_bind (halts_query _) fun _ =>
    halts_bind (halts_demand (halts_map _ (halts_query _))) fun command => halts_dispatch some_ nacks command

/-! ## Rounds -/

/-- the first that is asked for a command: time for it to arrive, and its bytes -/
theorem heed_asks {σ : Type} {answer : board.Answerer σ} {config : Config} {nacks : Bool} {s s' : σ}
    {calls : List Call} {ended : Except (Stop Error) Step}
    (h : Recorded answer (heed config nacks) s calls ended s') :
    ∃ reply rest, calls = ⟨.delay (Word.mulSat config.pollSettleMs Timing.usPerMs), ()⟩ ::
        ⟨.link (.read Command.size), reply⟩ :: rest ∧
      (∀ step, ended = .ok step → ∃ bytes, reply = .ok bytes) := by
  obtain ⟨calls, rfl, reading⟩ := Recorded.of_ask h
  obtain ⟨calls, rfl, dispatching⟩ := Recorded.of_ask reading
  refine ⟨_, calls, rfl, fun step worked => ?_⟩
  generalize (answer (.link (.read Command.size)) _).1 = reply at dispatching ⊢
  cases reply with
  | ok bytes => exact ⟨bytes, rfl⟩
  | error e =>
    obtain ⟨-, severed, -⟩ := dispatching.unique (recorded_stop _ _)
    cases severed.symm.trans worked

variable {σ : Type} {answer : board.Answerer σ} {suits : Query → σ → Prop} {config : Config}
  {rounds : Nat} {nacks : Bool} {last : UInt64} {s s' : σ} {calls : List Call}
  {ended : Except (Stop Error) Outcome}

/-- the ways in which a round can go, up to the look at the clock that may end the session: nothing was seen
on the line; a command was seen, and the line has failed; it was carried out -/
inductive Round (answer : board.Answerer σ) (suits : Query → σ → Prop) (config : Config) (nacks : Bool)
    (last : UInt64) : σ → List Call → Except (Stop Error) (Step × UInt64) → σ → Prop
  | idle {s s' : σ} (polled : answer (.link .poll) s = (false, s')) (kept : suits (.link .poll) s) :
      Round answer suits config nacks last s [⟨.link .poll, false⟩] (.ok (.proceed nacks, last)) s'
  | cut {s s₁ s' : σ} {calls : List Call} {why : Stop Error}
      (polled : answer (.link .poll) s = (true, s₁)) (kept : suits (.link .poll) s)
      (heeded : Recorded answer (heed config nacks) s₁ calls (.error why) s')
      (all : (heed config nacks).Throughout answer suits s₁) :
      Round answer suits config nacks last s (⟨.link .poll, true⟩ :: calls) (.error why) s'
  | heeded {s s₁ s₂ s' : σ} {calls : List Call} {step : Step} {time : UInt64}
      (polled : answer (.link .poll) s = (true, s₁)) (kept : suits (.link .poll) s)
      (heeded : Recorded answer (heed config nacks) s₁ calls (.ok step) s₂)
      (all : (heed config nacks).Throughout answer suits s₁)
      (looked : answer .now s₂ = (time, s')) (timed : suits .now s₂) :
      Round answer suits config nacks last s (⟨.link .poll, true⟩ :: (calls ++ [⟨.now, time⟩]))
        (.ok (step, time)) s'

/-- the ways in which the loop can go: the rounds are used up; its next round is cut short, or the last, or
the host has been silent for too long after it; or it goes on -/
inductive Course (answer : board.Answerer σ) (suits : Query → σ → Prop) (config : Config) :
    (rounds : Nat) → (nacks : Bool) → (last : UInt64) → σ → List Call →
      Except (Stop Error) Outcome → σ → Prop
  | spent {nacks : Bool} {last : UInt64} {s : σ} :
      Course answer suits config 0 nacks last s [] (.error .unfinished) s
  | cut {rounds : Nat} {nacks : Bool} {last : UInt64} {s s' : σ} {calls : List Call} {why : Stop Error}
      (round : Round answer suits config nacks last s calls (.error why) s') :
      Course answer suits config (rounds + 1) nacks last s calls (.error why) s'
  | left {rounds : Nat} {nacks : Bool} {last time : UInt64} {s s' : σ} {calls : List Call}
      {outcome : Outcome}
      (round : Round answer suits config nacks last s calls (.ok (.finish outcome, time)) s') :
      Course answer suits config (rounds + 1) nacks last s calls (.ok outcome) s'
  | late {rounds : Nat} {nacks nacks' : Bool} {last since time : UInt64} {s s₁ s' : σ}
      {calls : List Call}
      (round : Round answer suits config nacks last s calls (.ok (.proceed nacks', since)) s₁)
      (looked : answer .now s₁ = (time, s')) (timed : suits .now s₁)
      (silent : silenceNs config ≤ Word.subSat time since) :
      Course answer suits config (rounds + 1) nacks last s (calls ++ [⟨.now, time⟩])
        (.error (.failed .livenessTimeout)) s'
  | goes {rounds : Nat} {nacks nacks' : Bool} {last since time : UInt64} {s s₁ s₂ s' : σ}
      {calls calls' : List Call} {ended : Except (Stop Error) Outcome}
      (round : Round answer suits config nacks last s calls (.ok (.proceed nacks', since)) s₁)
      (looked : answer .now s₁ = (time, s₂)) (timed : suits .now s₁)
      (soon : Word.subSat time since < silenceNs config)
      (rest : Course answer suits config rounds nacks' since s₂ calls' ended s') :
      Course answer suits config (rounds + 1) nacks last s (calls ++ ⟨.now, time⟩ :: calls') ended s'

/-- after a round the host may have been silent for too long, or else the loop goes on -/
theorem course_watch {nacks' : Bool} {since : UInt64} {s₁ : σ} {calls' : List Call}
    (round : Round answer suits config nacks last s calls (.ok (.proceed nacks', since)) s₁)
    (h : Recorded answer (watch config since (serve config rounds nacks' since)) s₁ calls' ended s')
    (all : (watch config since (serve config rounds nacks' since)).Throughout answer suits s₁)
    (rest : ∀ {s₂ calls}, Recorded answer (serve config rounds nacks' since) s₂ calls ended s' →
      (serve config rounds nacks' since).Throughout answer suits s₂ →
        Course answer suits config rounds nacks' since s₂ calls ended s') :
    Course answer suits config (rounds + 1) nacks last s (calls ++ calls') ended s' := by
  have asks : watch config since (serve config rounds nacks' since) = .ask .now fun time =>
      if Word.subSat time since ≥ silenceNs config then throw .livenessTimeout
      else serve config rounds nacks' since := rfl
  rw [asks] at h all
  obtain ⟨calls₂, rfl, after⟩ := h.of_ask
  obtain ⟨timed, onward⟩ := throughout_ask.mp all
  cases looked : answer .now s₁ with
  | mk time s₂ =>
    simp only [looked] at after onward
    by_cases silent : Word.subSat time since ≥ silenceNs config
    · rw [if_pos silent] at after
      obtain ⟨rfl, rfl, rfl⟩ := after.unique (recorded_stop _ s₂)
      exact .late round looked timed silent
    · rw [if_neg silent] at after onward
      exact .goes round looked timed (UInt64.not_le.mp silent) (rest after onward)

theorem course (h : Recorded answer (serve config rounds nacks last) s calls ended s')
    (all : (serve config rounds nacks last).Throughout answer suits s) :
    Course answer suits config rounds nacks last s calls ended s' := by
  induction rounds generalizing nacks last s calls ended with
  | zero =>
    obtain ⟨rfl, rfl, rfl⟩ := h.unique (recorded_stop _ s)
    exact .spent
  | succ rounds ih =>
    rw [serve_succ] at h all
    obtain ⟨calls, rfl, seeing⟩ := Recorded.of_ask h
    have onward := all.2
    cases polled : answer (.link .poll) s with
    | mk seen s₁ =>
      simp only [polled, Dialogue.pure_bind] at seeing onward ⊢
      cases seen with
      | false => exact course_watch (.idle polled all.1) seeing onward ih
      | true =>
        have working : (heed config nacks).Throughout answer suits s₁ := onward.of_bind
        rcases seeing.of_bind with ⟨why, rfl, heeded⟩ | ⟨calls₁, step, s₂, calls₂, rfl, heeded, timing⟩
        · exact .cut (.cut polled all.1 heeded working)
        · obtain ⟨calls₃, rfl, after⟩ := Recorded.of_ask timing
          obtain ⟨timed, onward⟩ := Throughout.rest onward heeded.run
          cases looked : answer .now s₂ with
          | mk time s₃ =>
            simp only [looked, Dialogue.pure_bind] at after onward ⊢
            have round : Round answer suits config nacks last s _ _ s₃ :=
              .heeded polled all.1 heeded working looked timed
            cases step with
            | finish outcome =>
              obtain ⟨rfl, rfl, rfl⟩ := after.unique (recorded_done outcome s₃)
              exact .left round
            | proceed nacks' =>
              have whole := course_watch round after onward ih
              simpa only [List.cons_append, List.append_assoc, List.nil_append] using whole

/-! ## Sessions -/

/-- the ways in which a session can go: the flash service is not set up, or the loop is entered -/
inductive Begun (answer : board.Answerer σ) (suits : Query → σ → Prop) (config : Config) (rounds : Nat) :
    σ → List Call → Except (Stop Error) Outcome → σ → Prop
  | refused {s s' : σ} {e : Flash.Error} (setUp : answer (.flash .init) s = (.error e, s')) :
      Begun answer suits config rounds s [⟨.flash .init, .error e⟩] (.error (.failed .flash)) s'
  | opened {s s₁ s₂ s' : σ} {start : UInt64} {calls : List Call} {ended : Except (Stop Error) Outcome}
      (setUp : answer (.flash .init) s = (.ok (), s₁)) (kept : suits (.flash .init) s)
      (looked : answer .now s₁ = (start, s₂)) (timed : suits .now s₁)
      (course : Course answer suits config rounds config.nackOnFailure start s₂ calls ended s') :
      Begun answer suits config rounds s (⟨.flash .init, .ok ()⟩ :: ⟨.now, start⟩ :: calls) ended s'

theorem begun (h : Recorded answer (Session.run config rounds) s calls ended s')
    (all : (Session.run config rounds).Throughout answer suits s) :
    Begun answer suits config rounds s calls ended s' := by
  obtain ⟨calls, rfl, opening⟩ := Recorded.of_ask h
  have onward := all.2
  cases setUp : answer (.flash .init) s with
  | mk reply s₁ =>
    simp only [setUp, Dialogue.pure_bind] at opening onward ⊢
    cases reply with
    | error e =>
      obtain ⟨rfl, rfl, rfl⟩ := opening.unique (recorded_stop _ s₁)
      exact .refused setUp
    | ok =>
      obtain ⟨calls, rfl, serving⟩ := Recorded.of_ask opening
      have timely := onward.2
      cases looked : answer .now s₁ with
      | mk start s₂ =>
        simp only [looked, Dialogue.pure_bind] at serving timely ⊢
        exact .opened setUp all.1 looked onward.1 (course serving timely)

/-! ## How a session ends -/

theorem Round.severed (some_ : config.chunkSize ≠ 0) {why : Stop Error}
    (h : Round answer suits config nacks last s calls (.error why) s') : Severed why := by
  cases h with
  | cut polled kept heeded all => exact (halts_heed some_ nacks).run heeded.run

/-- the line is polled once in each round -/
theorem Round.polls {ended : Except (Stop Error) (Step × UInt64)}
    (h : Round answer suits config nacks last s calls ended s') : polls calls = 1 := by
  cases h with
  | idle => rfl
  | cut polled kept heeded all =>
    rw [polls_cons, polls_working ((only_heed config nacks).recorded heeded)]
    rfl
  | heeded polled kept heeded all looked timed =>
    rw [polls_cons, polls_append, polls_working ((only_heed config nacks).recorded heeded)]
    rfl

/-- the loop reports its result, unless all its rounds are used up -/
theorem Course.reported (some_ : config.chunkSize ≠ 0)
    (h : Course answer suits config rounds nacks last s calls ended s') :
    (∃ result : Except Error Outcome, ended = result.mapError .failed) ∨
      ended = .error .unfinished ∧ rounds ≤ polls calls := by
  induction h with
  | spent => exact .inr ⟨rfl, Nat.zero_le _⟩
  | cut round =>
    obtain ⟨e, rfl⟩ := round.severed some_
    exact .inl ⟨.error (.link e), rfl⟩
  | @left _ _ _ _ _ _ _ outcome round => exact .inl ⟨.ok outcome, rfl⟩
  | late round looked timed silent => exact .inl ⟨.error .livenessTimeout, rfl⟩
  | goes round looked timed soon rest ih =>
    rcases ih with reported | ⟨unfinished, spent⟩
    · exact .inl reported
    · refine .inr ⟨unfinished, ?_⟩
      have polled := round.polls
      rw [polls_append, polls_cons, polled]
      omega

theorem Begun.reported (some_ : config.chunkSize ≠ 0)
    (h : Begun answer suits config rounds s calls ended s') :
    (∃ result : Except Error Outcome, ended = result.mapError .failed) ∨
      ended = .error .unfinished ∧ rounds ≤ polls calls := by
  cases h with
  | refused setUp => exact .inl ⟨.error .flash, rfl⟩
  | opened setUp kept looked timed course =>
    rcases course.reported some_ with reported | ⟨unfinished, spent⟩
    · exact .inl reported
    · exact .inr ⟨unfinished, spent⟩

end Session

end Device

end FlashRescue
