import FlashRescue.Proofs.Dialogue.Course

/-!
# What a run has asked

The queries of a run with the replies that they got, in order.

* `Interface.Exchange`   a query with its reply;
* `split_concat`         where a list is split that ends in an item;
* `Dialogue.transcript`  the exchanges of a run;
* `Dialogue.Recorded`    a run with its exchanges and its end, and how runs are put together and taken
                         apart;
* `Recorded.along`       induction on the exchanges of a run;
* `Only.recorded`        a dialogue that puts queries of one kind has nothing else on record;
* `Only.run_through`     what no query of a dialogue looks at does not matter to its run.
-/

namespace FlashRescue

/-- a query and what was replied to it -/
structure Interface.Exchange (I : Interface) where
  query : I.Query
  reply : I.Reply query

/-- an item of a list is the last one, or it comes before that -/
theorem split_concat {α : Type} {items before after : List α} {last item : α}
    (h : items ++ [last] = before ++ item :: after) :
    (before = items ∧ item = last ∧ after = []) ∨
      ∃ after', after = after' ++ [last] ∧ items = before ++ item :: after' := by
  rcases List.eq_nil_or_concat after with rfl | ⟨after', last', rfl⟩
  · obtain ⟨rfl, same⟩ := List.append_inj' h rfl
    exact .inl ⟨rfl, (List.cons.inj same).1.symm, rfl⟩
  · have longer : items ++ [last] = (before ++ item :: after') ++ [last'] := by simp [h]
    obtain ⟨rfl, same⟩ := List.append_inj' longer rfl
    refine .inr ⟨after', ?_, rfl⟩
    rw [List.concat_eq_append, (List.cons.inj same).1]

namespace Dialogue

variable {I : Interface} {ε α β σ : Type} {answer : I.Answerer σ}

/-! ## Transcripts -/

def transcript (answer : I.Answerer σ) : Dialogue I ε α → σ → List I.Exchange
  | done _, _ => []
  | stop _, _ => []
  | ask query next, s =>
    ⟨query, (answer query s).1⟩ :: (next (answer query s).1).transcript answer (answer query s).2

theorem transcript_bind_ok {d : Dialogue I ε α} {next : α → Dialogue I ε β} {s s' : σ} {value : α}
    (h : d.run answer s = (.ok value, s')) :
    (d >>= next).transcript answer s =
      d.transcript answer s ++ (next value).transcript answer s' := by
  induction d generalizing s with
  | done v =>
    cases h
    rfl
  | stop why => cases h
  | ask query reply ih => exact congrArg (List.cons _) (ih _ h)

theorem transcript_bind_error {d : Dialogue I ε α} {next : α → Dialogue I ε β} {s s' : σ}
    {why : Stop ε} (h : d.run answer s = (.error why, s')) :
    (d >>= next).transcript answer s = d.transcript answer s := by
  induction d generalizing s with
  | done v => cases h
  | stop why' => rfl
  | ask query reply ih => exact congrArg (List.cons _) (ih _ h)

theorem transcript_attempt (d : Dialogue I ε α) (s : σ) :
    d.attempt.transcript answer s = d.transcript answer s := by
  induction d generalizing s with
  | done value => rfl
  | stop why => rfl
  | ask query reply ih => exact congrArg (List.cons _) (ih _ _)

theorem transcript_trial (d : Dialogue I ε α) (s : σ) :
    d.trial.transcript answer s = d.transcript answer s := by
  induction d generalizing s with
  | done value => rfl
  | stop why => cases why <;> rfl
  | ask query reply ih => exact congrArg (List.cons _) (ih _ _)

/-! ## Runs on record -/

/-- a run, with all that it asked and how it ended -/
structure Recorded (answer : I.Answerer σ) (d : Dialogue I ε α) (s : σ) (calls : List I.Exchange)
    (ended : Except (Stop ε) α) (s' : σ) : Prop where
  run : d.run answer s = (ended, s')
  transcript : d.transcript answer s = calls

section
variable {d : Dialogue I ε α} {next : α → Dialogue I ε β} {s s₁ s' : σ}
  {calls calls' : List I.Exchange} {ended : Except (Stop ε) α} {ended' : Except (Stop ε) β}

/-- every run can be put on record -/
theorem recorded (h : d.run answer s = (ended, s')) :
    Recorded answer d s (d.transcript answer s) ended s' := ⟨h, rfl⟩

theorem Recorded.unique {calls' : List I.Exchange} {ended' : Except (Stop ε) α} {s'' : σ}
    (h : Recorded answer d s calls ended s') (h' : Recorded answer d s calls' ended' s'') :
    calls = calls' ∧ ended = ended' ∧ s' = s'' := by
  have same := h.run.symm.trans h'.run
  exact ⟨h.transcript.symm.trans h'.transcript, congrArg Prod.fst same, congrArg Prod.snd same⟩

theorem recorded_done (value : α) (s : σ) :
    Recorded answer (done value : Dialogue I ε α) s [] (.ok value) s := ⟨rfl, rfl⟩

theorem recorded_stop (why : Stop ε) (s : σ) :
    Recorded answer (stop why : Dialogue I ε α) s [] (.error why) s := ⟨rfl, rfl⟩

theorem Recorded.ask {query : I.Query} {reply : I.Reply query}
    {rest : I.Reply query → Dialogue I ε α} (replied : answer query s = (reply, s₁))
    (h : Recorded answer (rest reply) s₁ calls ended s') :
    Recorded answer (.ask query rest) s (⟨query, reply⟩ :: calls) ended s' := by
  constructor
  · show (rest (answer query s).1).run answer (answer query s).2 = _
    rw [replied]
    exact h.run
  · show (⟨query, (answer query s).1⟩ : I.Exchange) ::
      (rest (answer query s).1).transcript answer (answer query s).2 = _
    rw [replied]
    exact congrArg _ h.transcript

/-- one query, for its reply -/
theorem recorded_ask {query : I.Query} {reply : I.Reply query} (replied : answer query s = (reply, s')) :
    Recorded answer (.ask query .done : Dialogue I ε _) s [⟨query, reply⟩] (.ok reply) s' :=
  .ask replied (recorded_done reply s')

theorem Recorded.bind_ok {value : α} (h : Recorded answer d s calls (.ok value) s₁)
    (h' : Recorded answer (next value) s₁ calls' ended' s') :
    Recorded answer (d >>= next) s (calls ++ calls') ended' s' where
  run := (run_bind_ok h.run).trans h'.run
  transcript := by rw [transcript_bind_ok h.run, h.transcript, h'.transcript]

theorem Recorded.bind_error {why : Stop ε} (h : Recorded answer d s calls (.error why) s') :
    Recorded answer (d >>= next) s calls (.error why) s' where
  run := run_bind_error h.run
  transcript := (transcript_bind_error h.run).trans h.transcript

theorem Recorded.map (f : α → β) (h : Recorded answer d s calls ended s') :
    Recorded answer (f <$> d) s calls (ended.map f) s' := by
  rw [← bind_pure_comp]
  cases ended with
  | ok value =>
    have whole : Recorded answer (d >>= fun a => pure (f a)) s (calls ++ []) (.ok (f value)) s' :=
      h.bind_ok (recorded_done (f value) s')
    rwa [List.append_nil] at whole
  | error why => exact h.bind_error

theorem Recorded.attempt (h : Recorded answer d s calls ended s') :
    Recorded answer d.attempt s calls (.ok ended) s' where
  run := by rw [run_attempt, h.run]
  transcript := (transcript_attempt d s).trans h.transcript

theorem Recorded.trial (h : Recorded answer d s calls ended s') :
    Recorded answer d.trial s calls (tried ended) s' where
  run := by rw [run_trial, h.run]
  transcript := (transcript_trial d s).trans h.transcript

end

/-! ## Parts of a run on record -/

section
variable {d : Dialogue I ε α} {s s' : σ} {calls : List I.Exchange}

/-- a run has been stopped in its first part, or it went through that part -/
theorem Recorded.of_bind {next : α → Dialogue I ε β} {ended : Except (Stop ε) β}
    (h : Recorded answer (d >>= next) s calls ended s') :
    (∃ why, ended = .error why ∧ Recorded answer d s calls (.error why) s') ∨
      ∃ first value s₁ rest, calls = first ++ rest ∧ Recorded answer d s first (.ok value) s₁ ∧
        Recorded answer (next value) s₁ rest ended s' := by
  cases ran : d.run answer s with
  | mk ended₁ s₁ =>
    have part := recorded ran
    cases ended₁ with
    | error why =>
      have stopped : Recorded answer (d >>= next) s _ (.error why) s₁ := part.bind_error
      obtain ⟨rfl, rfl, rfl⟩ := h.unique stopped
      exact .inl ⟨why, rfl, part⟩
    | ok value =>
      have rest := recorded (Prod.eta ((next value).run answer s₁)).symm
      obtain ⟨rfl, rfl, rfl⟩ := h.unique (part.bind_ok rest)
      exact .inr ⟨_, value, s₁, _, rfl, part, rest⟩

/-- a run that went well went through its first part -/
theorem Recorded.of_bind_ok {next : α → Dialogue I ε β} {result : β}
    (h : Recorded answer (d >>= next) s calls (.ok result) s') :
    ∃ first value s₁ rest, calls = first ++ rest ∧ Recorded answer d s first (.ok value) s₁ ∧
      Recorded answer (next value) s₁ rest (.ok result) s' := by
  rcases h.of_bind with ⟨why, same, -⟩ | through
  · cases same
  · exact through

theorem Recorded.of_ask {query : I.Query} {rest : I.Reply query → Dialogue I ε α}
    {ended : Except (Stop ε) α} (h : Recorded answer (.ask query rest) s calls ended s') :
    ∃ calls', calls = ⟨query, (answer query s).1⟩ :: calls' ∧
      Recorded answer (rest (answer query s).1) (answer query s).2 calls' ended s' :=
  ⟨_, h.transcript.symm, h.run, rfl⟩

theorem Recorded.of_trial {ended : Except (Stop ε) (Except ε α)}
    (h : Recorded answer d.trial s calls ended s') :
    ∃ ended', ended = tried ended' ∧ Recorded answer d s calls ended' s' := by
  have went := recorded (Prod.eta (d.run answer s)).symm
  obtain ⟨rfl, rfl, rfl⟩ := h.unique went.trial
  exact ⟨_, rfl, went⟩

theorem Recorded.of_trial_ok {value : α} (h : Recorded answer d.trial s calls (.ok (.ok value)) s') :
    Recorded answer d s calls (.ok value) s' := by
  obtain ⟨ended, same, went⟩ := h.of_trial
  cases ended with
  | ok value' =>
    cases same
    exact went
  | error why => cases why <;> cases same

theorem Recorded.of_trial_failed {e : ε} (h : Recorded answer d.trial s calls (.ok (.error e)) s') :
    Recorded answer d s calls (.error (.failed e)) s' := by
  obtain ⟨ended, same, went⟩ := h.of_trial
  cases ended with
  | ok value => cases same
  | error why =>
    cases why with
    | failed e' =>
      cases same
      exact went
    | broken fault => cases same
    | unfinished => cases same

/-- a trial is stopped by what is no error -/
theorem Recorded.of_trial_stopped {why : Stop ε} (h : Recorded answer d.trial s calls (.error why) s') :
    Recorded answer d s calls (.error why) s' ∧ ∀ e, why ≠ .failed e := by
  obtain ⟨ended, same, went⟩ := h.of_trial
  cases ended with
  | ok value => cases same
  | error why' =>
    cases why' with
    | failed e => cases same
    | broken fault =>
      cases same
      exact ⟨went, nofun⟩
    | unfinished =>
      cases same
      exact ⟨went, nofun⟩

/-- induction on the exchanges of a run all of whose queries suit their states -/
theorem Recorded.along {suits : I.Query → σ → Prop} {motive : σ → List I.Exchange → σ → Prop}
    {ended : Except (Stop ε) α} (h : Recorded answer d s calls ended s')
    (all : d.Throughout answer suits s) (nil : ∀ s, motive s [] s)
    (cons : ∀ query s calls s', suits query s → motive (answer query s).2 calls s' →
      motive s (⟨query, (answer query s).1⟩ :: calls) s') : motive s calls s' := by
  obtain ⟨ran, rfl⟩ := h
  induction d generalizing s with
  | done value =>
    cases ran
    exact nil _
  | stop why =>
    cases ran
    exact nil _
  | ask query reply ih => exact cons query s _ s' all.1 (ih _ all.2 ran)

end

/-! ## Queries of one kind -/

section
variable {kind : I.Query → Prop} {d : Dialogue I ε α}

theorem Only.recorded {s s' : σ} {calls : List I.Exchange} {ended : Except (Stop ε) α}
    (h : d.Only kind) (record : Recorded answer d s calls ended s') :
    ∀ call ∈ calls, kind call.query := by
  rw [← record.transcript]
  clear record
  induction d generalizing s with
  | done value => exact fun _ mem => nomatch mem
  | stop why => exact fun _ mem => nomatch mem
  | ask query reply ih =>
    intro call mem
    rcases List.mem_cons.mp mem with rfl | later
    · exact h.1
    · exact ih _ (h.2 _) call later

/-- a change of the state that none of the queries sees, and that all of them leave in place -/
theorem Only.run_through {change : σ → σ} (h : d.Only kind)
    (unseen : ∀ query s, kind query →
      answer query (change s) = ((answer query s).1, change (answer query s).2)) (s : σ) :
    d.run answer (change s) = ((d.run answer s).1, change (d.run answer s).2) := by
  induction d generalizing s with
  | done value => rfl
  | stop why => rfl
  | ask query reply ih =>
    show (reply (answer query (change s)).1).run answer (answer query (change s)).2 = _
    rw [unseen query s h.1]
    exact ih _ (h.2 _) _

end

end Dialogue

end FlashRescue
