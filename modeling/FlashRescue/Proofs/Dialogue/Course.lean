import FlashRescue.Dialogue

/-!
# The course of a run

How a run of a dialogue is taken apart: at its binds, and at the points it passes on its way.

* `run_bind_ok`, `run_bind_error`  a run whose first part is known;
* `Dialogue.Leads`       the run of one dialogue passes through another one;
* `Dialogue.Throughout`  every query of a run is put in a state that suits it;
* `Dialogue.Only`        all queries that a dialogue may put are of one kind;
* `Dialogue.Yields`      all values that a dialogue may come to are of one kind;
* `Dialogue.Halts`       all stops that a dialogue may come to are of one kind;
* `Dialogue.lastly`      the state in which a run put its last query of a kind.

`Leads.run_eq`: a run ends as it does from any point it passes.  `Leads.throughout`: what holds all
along a run holds from there on.  `Only.run`: what all queries of a kind preserve a run preserves.
-/

namespace FlashRescue.Dialogue

variable {I : Interface} {ε α β σ : Type} {answer : I.Answerer σ}

/-! ## Ends -/

theorem run_pure (value : α) (s : σ) :
    (pure value : Dialogue I ε α).run answer s = (.ok value, s) := rfl

theorem run_bind_ok {d : Dialogue I ε α} {next : α → Dialogue I ε β} {s s' : σ} {value : α}
    (h : d.run answer s = (.ok value, s')) :
    (d >>= next).run answer s = (next value).run answer s' := by
  show (d.bind next).run answer s = _
  rw [run_bind, h]

theorem run_bind_error {d : Dialogue I ε α} {next : α → Dialogue I ε β} {s s' : σ}
    {why : Stop ε} (h : d.run answer s = (.error why, s')) :
    (d >>= next).run answer s = (.error why, s') := by
  show (d.bind next).run answer s = _
  rw [run_bind, h]

/-- a run that ended well went through its first part -/
theorem run_bind_eq_ok {d : Dialogue I ε α} {next : α → Dialogue I ε β} {s s' : σ} {value : β}
    (h : (d >>= next).run answer s = (.ok value, s')) :
    ∃ first s₁, d.run answer s = (.ok first, s₁) ∧ (next first).run answer s₁ = (.ok value, s') := by
  have ran : (d.bind next).run answer s = (.ok value, s') := h
  rw [run_bind] at ran
  cases first : d.run answer s with
  | mk ended s₁ =>
    rw [first] at ran
    cases ended with
    | ok v => exact ⟨v, s₁, rfl, ran⟩
    | error why => cases ran

theorem run_map (f : α → β) (d : Dialogue I ε α) (s : σ) :
    (f <$> d).run answer s = ((d.run answer s).1.map f, (d.run answer s).2) := by
  rw [← bind_pure_comp]
  show (d.bind _).run answer s = _
  rw [run_bind]
  obtain ⟨ended, s'⟩ := d.run answer s
  cases ended <;> rfl

theorem run_map_eq_ok {f : α → β} {d : Dialogue I ε α} {s s' : σ} {value : β}
    (h : (f <$> d).run answer s = (.ok value, s')) :
    ∃ first, d.run answer s = (.ok first, s') ∧ value = f first := by
  rw [run_map] at h
  cases ran : d.run answer s with
  | mk ended s₁ =>
    rw [ran] at h
    cases ended with
    | ok v =>
      cases h
      exact ⟨v, rfl, rfl⟩
    | error why => cases h

/-- how a trial ends: as what is tried, with its error for a value -/
def tried : Except (Stop ε) α → Except (Stop ε) (Except ε α)
  | .ok value => .ok (.ok value)
  | .error (.failed error) => .ok (.error error)
  | .error (.broken fault) => .error (.broken fault)
  | .error .unfinished => .error .unfinished

theorem run_trial (d : Dialogue I ε α) (s : σ) :
    d.trial.run answer s = (tried (d.run answer s).1, (d.run answer s).2) := by
  induction d generalizing s with
  | done value => rfl
  | stop why => cases why <;> rfl
  | ask query next ih => exact ih _ _

theorem run_trial_ok {d : Dialogue I ε α} {s s' : σ} {value : α}
    (h : d.run answer s = (.ok value, s')) : d.trial.run answer s = (.ok (.ok value), s') := by
  rw [run_trial, h]
  rfl

theorem run_trial_failed {d : Dialogue I ε α} {s s' : σ} {error : ε}
    (h : d.run answer s = (.error (.failed error), s')) :
    d.trial.run answer s = (.ok (.error error), s') := by
  rw [run_trial, h]
  rfl

/-- what was tried ended as the trial tells -/
theorem run_trial_eq_ok {d : Dialogue I ε α} {s s' : σ} {ended : Except ε α}
    (h : d.trial.run answer s = (.ok ended, s')) :
    d.run answer s = (ended.mapError .failed, s') := by
  rw [run_trial] at h
  cases ran : d.run answer s with
  | mk ended' s'' =>
    rw [ran] at h
    cases ended' with
    | ok value =>
      cases h
      rfl
    | error why =>
      cases why with
      | failed error =>
        cases h
        rfl
      | broken fault => cases h
      | unfinished => cases h

/-! ## Points of a run -/

inductive Leads (answer : I.Answerer σ) :
    Dialogue I ε α → σ → Dialogue I ε α → σ → Prop where
  | here (d : Dialogue I ε α) (s : σ) : Leads answer d s d s
  | onward {query : I.Query} {next : I.Reply query → Dialogue I ε α} {s s' : σ}
      {d' : Dialogue I ε α} (rest : Leads answer (next (answer query s).1) (answer query s).2 d' s') :
      Leads answer (ask query next) s d' s'

theorem Leads.ask {query : I.Query} {next : I.Reply query → Dialogue I ε α} {reply : I.Reply query}
    {s s₁ s' : σ} {d' : Dialogue I ε α} (replied : answer query s = (reply, s₁))
    (rest : Leads answer (next reply) s₁ d' s') : Leads answer (.ask query next) s d' s' := by
  refine .onward ?_
  rw [replied]
  exact rest

theorem Leads.trans {d d' d'' : Dialogue I ε α} {s s' s'' : σ} (h : Leads answer d s d' s')
    (h' : Leads answer d' s' d'' s'') : Leads answer d s d'' s'' := by
  induction h with
  | here => exact h'
  | onward _ ih => exact .onward (ih h')

theorem Leads.run_eq {d d' : Dialogue I ε α} {s s' : σ} (h : Leads answer d s d' s') :
    d.run answer s = d'.run answer s' := by
  induction h with
  | here => rfl
  | onward _ ih => exact ih

theorem leads_bind {d : Dialogue I ε α} {next : α → Dialogue I ε β} {s s' : σ} {value : α}
    (h : d.run answer s = (.ok value, s')) : Leads answer (d >>= next) s (next value) s' := by
  induction d generalizing s with
  | done v =>
    cases h
    exact .here _ _
  | stop why => cases h
  | ask query reply ih => exact .onward (ih _ h)

/-! ## What holds all along -/

def Throughout (answer : I.Answerer σ) (suits : I.Query → σ → Prop) : Dialogue I ε α → σ → Prop
  | done _, _ => True
  | stop _, _ => True
  | ask query next, s =>
    suits query s ∧ (next (answer query s).1).Throughout answer suits (answer query s).2

instance decidableThroughout {suits : I.Query → σ → Prop} [suited : ∀ query s, Decidable (suits query s)] :
    (d : Dialogue I ε α) → (s : σ) → Decidable (d.Throughout answer suits s)
  | done _, _ => .isTrue trivial
  | stop _, _ => .isTrue trivial
  | ask query next, s =>
    @instDecidableAnd _ _ (suited query s)
      (decidableThroughout (next (answer query s).1) (answer query s).2)

theorem throughout_ask {suits : I.Query → σ → Prop} {query : I.Query}
    {next : I.Reply query → Dialogue I ε α} {s : σ} :
    (ask query next).Throughout answer suits s ↔
      suits query s ∧ (next (answer query s).1).Throughout answer suits (answer query s).2 := Iff.rfl

theorem Leads.throughout {suits : I.Query → σ → Prop} {d d' : Dialogue I ε α} {s s' : σ}
    (h : Leads answer d s d' s') (all : d.Throughout answer suits s) :
    d'.Throughout answer suits s' := by
  induction h with
  | here => exact all
  | onward _ ih => exact ih all.2

section
variable {suits : I.Query → σ → Prop} {d : Dialogue I ε α} {s s' : σ}

theorem throughout_of_forall (all : ∀ query s, suits query s) (d : Dialogue I ε α) (s : σ) :
    d.Throughout answer suits s := by
  induction d generalizing s with
  | done value => trivial
  | stop why => trivial
  | ask query next ih => exact ⟨all query s, ih _ _⟩

/-- what holds all along a run holds along its first part -/
theorem Throughout.of_bind {next : α → Dialogue I ε β} (all : (d >>= next).Throughout answer suits s) :
    d.Throughout answer suits s := by
  induction d generalizing s with
  | done value => trivial
  | stop why => trivial
  | ask query reply ih => exact ⟨all.1, ih _ all.2⟩

theorem Throughout.rest {next : α → Dialogue I ε β} {value : α}
    (all : (d >>= next).Throughout answer suits s) (h : d.run answer s = (.ok value, s')) :
    (next value).Throughout answer suits s' :=
  (leads_bind h).throughout all

theorem Throughout.of_trial (all : d.trial.Throughout answer suits s) :
    d.Throughout answer suits s := by
  induction d generalizing s with
  | done value => trivial
  | stop why => trivial
  | ask query reply ih => exact ⟨all.1, ih _ all.2⟩

theorem Throughout.of_attempt (all : d.attempt.Throughout answer suits s) :
    d.Throughout answer suits s := by
  induction d generalizing s with
  | done value => trivial
  | stop why => trivial
  | ask query reply ih => exact ⟨all.1, ih _ all.2⟩

end

/-! ## What a dialogue may put -/

def Only (kind : I.Query → Prop) : Dialogue I ε α → Prop
  | done _ => True
  | stop _ => True
  | ask query next => kind query ∧ ∀ reply, (next reply).Only kind

section
variable {kind : I.Query → Prop} {d : Dialogue I ε α} {s : σ}

theorem only_bind {next : α → Dialogue I ε β} (h : d.Only kind) (h' : ∀ value, (next value).Only kind) :
    (d >>= next).Only kind := by
  induction d with
  | done value => exact h' value
  | stop why => exact h
  | ask query reply ih => exact ⟨h.1, fun r => ih r (h.2 r)⟩

theorem only_map (f : α → β) (h : d.Only kind) : (f <$> d).Only kind := by
  rw [← bind_pure_comp]
  exact only_bind h fun _ => trivial

theorem only_forM {ι : Type} {items : List ι} {step : ι → Dialogue I ε Unit}
    (h : ∀ i ∈ items, (step i).Only kind) : (items.forM step).Only kind := by
  induction items with
  | nil => trivial
  | cons i items ih =>
    obtain ⟨first, rest⟩ := List.forall_mem_cons.mp h
    show (step i >>= fun _ => items.forM step).Only kind
    exact only_bind first fun _ => ih rest

theorem only_mapM {ι : Type} {items : List ι} {step : ι → Dialogue I ε α}
    (h : ∀ i ∈ items, (step i).Only kind) : (items.mapM step).Only kind := by
  induction items with
  | nil => trivial
  | cons i items ih =>
    obtain ⟨first, rest⟩ := List.forall_mem_cons.mp h
    rw [List.mapM_cons]
    exact only_bind first fun _ => only_bind (ih rest) fun _ => trivial

theorem only_trial (h : d.Only kind) : d.trial.Only kind := by
  induction d with
  | done value => exact h
  | stop why => cases why <;> exact h
  | ask query reply ih => exact ⟨h.1, fun r => ih r (h.2 r)⟩

theorem Only.mono {kind' : I.Query → Prop} (h : d.Only kind) (le : ∀ query, kind query → kind' query) :
    d.Only kind' := by
  induction d with
  | done value => exact h
  | stop why => exact h
  | ask query reply ih => exact ⟨le query h.1, fun r => ih r (h.2 r)⟩

theorem Only.run {Inv : σ → Prop} (h : d.Only kind)
    (preserved : ∀ query s, kind query → Inv s → Inv (answer query s).2) (inv : Inv s) :
    Inv (d.run answer s).2 := by
  induction d generalizing s with
  | done value => exact inv
  | stop why => exact inv
  | ask query reply ih => exact ih _ (h.2 _) (preserved query s h.1 inv)

end

/-! ## What a dialogue may come to -/

def Yields (kind : α → Prop) : Dialogue I ε α → Prop
  | done value => kind value
  | stop _ => True
  | ask _ next => ∀ reply, (next reply).Yields kind

theorem yields_bind {kind : β → Prop} (d : Dialogue I ε α) {next : α → Dialogue I ε β}
    (h : ∀ value, (next value).Yields kind) : (d >>= next).Yields kind := by
  induction d with
  | done value => exact h value
  | stop why => trivial
  | ask query reply ih => exact fun r => ih r

/-- of the first part only its values matter -/
theorem Yields.bind {kind : α → Prop} {kind' : β → Prop} {d : Dialogue I ε α}
    {next : α → Dialogue I ε β} (h : d.Yields kind)
    (h' : ∀ value, kind value → (next value).Yields kind') : (d >>= next).Yields kind' := by
  induction d with
  | done value => exact h' value h
  | stop why => trivial
  | ask query reply ih => exact fun r => ih r (h r)

theorem Yields.map {kind : α → Prop} {kind' : β → Prop} {d : Dialogue I ε α} (f : α → β)
    (h : d.Yields kind) (h' : ∀ value, kind value → kind' (f value)) : (f <$> d).Yields kind' := by
  rw [← bind_pure_comp]
  exact h.bind fun value good => h' value good

/-- what follows the first part need only be of a kind for the values that this part can come to -/
theorem Only.bind {kind : I.Query → Prop} {good : α → Prop} {d : Dialogue I ε α}
    {next : α → Dialogue I ε β} (h : d.Only kind) (values : d.Yields good)
    (h' : ∀ value, good value → (next value).Only kind) : (d >>= next).Only kind := by
  induction d with
  | done value => exact h' value values
  | stop why => exact h
  | ask query reply ih => exact ⟨h.1, fun r => ih r (h.2 r) (values r)⟩

theorem Yields.run {kind : α → Prop} {d : Dialogue I ε α} (h : d.Yields kind) {s s' : σ} {value : α}
    (ran : d.run answer s = (.ok value, s')) : kind value := by
  induction d generalizing s with
  | done v =>
    cases ran
    exact h
  | stop why => cases ran
  | ask query reply ih => exact ih _ (h _) ran

/-! ## Where a dialogue may stop -/

def Halts (kind : Stop ε → Prop) : Dialogue I ε α → Prop
  | done _ => True
  | stop why => kind why
  | ask _ next => ∀ reply, (next reply).Halts kind

section
variable {kind : Stop ε → Prop} {d : Dialogue I ε α}

theorem halts_bind {next : α → Dialogue I ε β} (h : d.Halts kind)
    (h' : ∀ value, (next value).Halts kind) : (d >>= next).Halts kind := by
  induction d with
  | done value => exact h' value
  | stop why => exact h
  | ask query reply ih => exact fun r => ih r (h r)

theorem halts_map (f : α → β) (h : d.Halts kind) : (f <$> d).Halts kind := by
  rw [← bind_pure_comp]
  exact halts_bind h fun _ => trivial

theorem halts_forM {ι : Type} {step : ι → Dialogue I ε Unit} (h : ∀ i, (step i).Halts kind)
    (items : List ι) : (items.forM step).Halts kind := by
  induction items with
  | nil => trivial
  | cons i items ih =>
    show (step i >>= fun _ => items.forM step).Halts kind
    exact halts_bind (h i) fun _ => ih

theorem halts_mapM {ι : Type} {step : ι → Dialogue I ε α} (h : ∀ i, (step i).Halts kind)
    (items : List ι) : (items.mapM step).Halts kind := by
  induction items with
  | nil => trivial
  | cons i items ih =>
    rw [List.mapM_cons]
    exact halts_bind (h i) fun _ => halts_bind ih fun _ => trivial

/-- what goes on as a trial ended may stop where the trial may, or where it goes on -/
theorem halts_trial {next : Except ε α → Dialogue I ε β} (h : d.Halts kind)
    (good : ∀ value, (next (.ok value)).Halts kind)
    (bad : ∀ error, kind (.failed error) → (next (.error error)).Halts kind) :
    (d.trial >>= next).Halts kind := by
  induction d with
  | done value => exact good value
  | stop why =>
    cases why with
    | failed error => exact bad error h
    | broken fault => exact h
    | unfinished => exact h
  | ask query reply ih =>
    intro r
    exact ih r (h r)

theorem Halts.run (h : d.Halts kind) {s s' : σ} {why : Stop ε}
    (ran : d.run answer s = (.error why, s')) : kind why := by
  induction d generalizing s with
  | done value => cases ran
  | stop why' =>
    cases ran
    exact h
  | ask query reply ih => exact ih _ (h _) ran

end

/-! ## The last query of a kind -/

def lastly (answer : I.Answerer σ) (kind : I.Query → Bool) : Dialogue I ε α → σ → Option σ
  | done _, _ => none
  | stop _, _ => none
  | ask query next, s =>
    ((next (answer query s).1).lastly answer kind (answer query s).2).or
      (if kind query then some s else none)

section
variable {kind : I.Query → Bool} {d : Dialogue I ε α} {s s' : σ}

theorem lastly_bind_ok {next : α → Dialogue I ε β} {value : α}
    (h : d.run answer s = (.ok value, s')) :
    (d >>= next).lastly answer kind s =
      ((next value).lastly answer kind s').or (d.lastly answer kind s) := by
  induction d generalizing s with
  | done v =>
    cases h
    exact (Option.or_none).symm
  | stop why => cases h
  | ask query reply ih =>
    show Option.or ((reply _ >>= next).lastly answer kind _) _ = _
    rw [ih _ h, Option.or_assoc]
    rfl

theorem lastly_trial : d.trial.lastly answer kind s = d.lastly answer kind s := by
  induction d generalizing s with
  | done value => rfl
  | stop why => cases why <;> rfl
  | ask query reply ih =>
    show Option.or ((reply _).trial.lastly answer kind _) _ = _
    rw [ih]
    rfl

theorem lastly_of_only (h : d.Only fun query => kind query = false) :
    d.lastly answer kind s = none := by
  induction d generalizing s with
  | done value => rfl
  | stop why => rfl
  | ask query reply ih =>
    show Option.or ((reply _).lastly answer kind _) _ = _
    rw [ih _ (h.2 _), h.1]
    rfl

end

end FlashRescue.Dialogue
