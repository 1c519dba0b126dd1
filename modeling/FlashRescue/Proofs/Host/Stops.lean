import FlashRescue.Proofs.Dialogue.Transcript
import FlashRescue.Proofs.Host.Talk

/-!
# A client stops with an error

Whatever its machine replies, what a client does with a block succeeds or ends with an error, unless
there is always another byte to throw away.

* `Host.Flooded`    the bytes that were thrown away without an end;
* `Host.Returned`   a run was stopped by an error, or it was flooded;
* `Host.Returns`    all runs are, that do not succeed; `returns_sync`;
* `Client.recorded_discardFor`  what is on the line while bytes are thrown away.
-/

namespace FlashRescue.Host

open Dialogue

abbrev Call : Type := machine.Exchange

section
variable {σ α β : Type} {answer : machine.Answerer σ} {s s' : σ} {calls : List Call} {rounds : Nat}

/-- in the end so many bytes were thrown away one after the other -/
def Flooded (rounds : Nat) (calls : List Call) : Prop :=
  ∃ (before : List Call) (bytes : List (Vector UInt8 1)), bytes.length = rounds ∧
    calls = before ++ bytes.flatMap fun byte => [⟨.link .poll, true⟩, ⟨.link (.read 1), .ok byte⟩]

/-- an error is reported -/
def Reported (why : Stop Error) : Prop := ∃ e, why = .failed e

/-- an error is reported, or the line has never fallen silent -/
def Returned (rounds : Nat) (calls : List Call) (why : Stop Error) : Prop :=
  Reported why ∨ why = .unfinished ∧ Flooded rounds calls

theorem Returned.append {why : Stop Error} (h : Returned rounds calls why) (earlier : List Call) :
    Returned rounds (earlier ++ calls) why := by
  rcases h with failed | ⟨unfinished, before, bytes, length, rfl⟩
  · exact .inl failed
  · exact .inr ⟨unfinished, earlier ++ before, bytes, length, (List.append_assoc ..).symm⟩

/-- however the machine replies, the dialogue returns -/
def Returns (rounds : Nat) (d : Talk α) : Prop :=
  ∀ {σ : Type} {answer : machine.Answerer σ} {s s' : σ} {calls : List Call} {why : Stop Error},
    Recorded answer d s calls (.error why) s' → Returned rounds calls why

theorem returns_of_halts {d : Talk α} (h : d.Halts Reported) : Returns rounds d :=
  fun went => .inl (h.run went.run)

theorem returns_done (value : α) : Returns rounds (.done value : Talk α) :=
  returns_of_halts (d := .done value) trivial

theorem returns_throw (e : Error) : Returns rounds (throw e : Talk α) :=
  returns_of_halts (d := .stop (.failed e)) ⟨e, rfl⟩

theorem returns_bind {d : Talk α} {next : α → Talk β} (h : Returns rounds d)
    (h' : ∀ value, Returns rounds (next value)) : Returns rounds (d >>= next) := by
  intro σ answer s s' calls why went
  rcases went.of_bind with ⟨why, same, stopped⟩ | ⟨first, value, s₁, rest, rfl, -, later⟩
  · cases same
    exact h stopped
  · exact (h' value later).append first

theorem returns_trial {d : Talk α} (h : Returns rounds d) : Returns rounds d.trial := by
  intro σ answer s s' calls why went
  exact h went.of_trial_stopped.1

/-! ## Requests -/

namespace Client

theorem halts_checksumOnce (block : UInt16) : (checksumOnce block).Halts Reported :=
  checksumOnce_halts (fun _ => ⟨_, rfl⟩) ⟨_, rfl⟩ ⟨_, rfl⟩

/-- bytes are read until nothing is left or one of them cannot be read, or there is always another one -/
theorem recorded_discardFor (rounds : Nat) {ended : Except (Stop Error) Unit}
    (h : Recorded answer (discardFor rounds) s calls ended s') :
    ∃ (bytes : List (Vector UInt8 1)) (rest : List Call),
      calls = (bytes.flatMap fun byte => [⟨.link .poll, true⟩, ⟨.link (.read 1), .ok byte⟩]) ++ rest ∧
      (ended = .ok () ∧ rest = [⟨.link .poll, false⟩] ∨
        (∃ e, ended = .error (.failed (.link e)) ∧
          rest = [⟨.link .poll, true⟩, ⟨.link (.read 1), .error e⟩]) ∨
        ended = .error .unfinished ∧ bytes.length = rounds ∧ rest = []) := by
  induction rounds generalizing s calls with
  | zero =>
    obtain ⟨rfl, rfl, -⟩ := h.unique (recorded_stop .unfinished s)
    exact ⟨[], [], rfl, .inr (.inr ⟨rfl, rfl, rfl⟩)⟩
  | succ rounds ih =>
    obtain ⟨calls, rfl, seeing⟩ := Recorded.of_ask h
    generalize answer (.link .poll) s = polled at seeing ⊢
    obtain ⟨queued, s₁⟩ := polled
    cases queued with
    | false =>
      obtain ⟨rfl, rfl, -⟩ := seeing.unique (recorded_done () s₁)
      exact ⟨[], _, rfl, .inl ⟨rfl, rfl⟩⟩
    | true =>
      obtain ⟨calls, rfl, reading⟩ := Recorded.of_ask seeing
      generalize answer (.link (.read 1)) s₁ = replied at reading ⊢
      obtain ⟨reply, s₂⟩ := replied
      cases reply with
      | error e =>
        obtain ⟨rfl, rfl, -⟩ := reading.unique (recorded_stop (.failed (Error.link e)) s₂)
        exact ⟨[], _, rfl, .inr (.inl ⟨e, rfl, rfl⟩)⟩
      | ok byte =>
        obtain ⟨bytes, rest, rfl, ends⟩ := ih reading
        refine ⟨byte :: bytes, rest, rfl, ends.imp_right (.imp_right ?_)⟩
        rintro ⟨unfinished, length, none_⟩
        exact ⟨unfinished, congrArg (· + 1) length, none_⟩

theorem returns_discard (c : Client) : Returns c.rounds c.discard := by
  intro σ answer s s' calls why went
  obtain ⟨bytes, rest, rfl, ⟨same, -⟩ | ⟨e, same, -⟩ | ⟨same, length, rfl⟩⟩ := recorded_discardFor c.rounds went
  · cases same
  · cases same
    exact .inl ⟨.link e, rfl⟩
  · cases same
    exact .inr ⟨rfl, [], bytes, length, List.append_nil _⟩

theorem returns_insist (c : Client) {request : Talk α} (again : Nat) (h : Returns c.rounds request) :
    Returns c.rounds (c.insist request again) := by
  induction again with
  | zero => exact returns_bind c.returns_discard fun _ => h
  | succ again ih =>
    refine returns_bind c.returns_discard fun _ => returns_bind (returns_trial h) ?_
    intro ended
    cases ended with
    | ok value => exact returns_done value
    | error e =>
      show Returns c.rounds (if e.isTimeout then c.insist request again else throw e)
      split
      · exact ih
      · exact returns_throw e

theorem returns_checksum (c : Client) (block : UInt16) : Returns c.rounds (c.checksum block) :=
  c.returns_insist _ (returns_of_halts (halts_checksumOnce block))

theorem returns_write (c : Client) (some_ : c.chunkSize ≠ 0) (block : UInt16) (data : List UInt8) :
    Returns c.rounds (c.write block data) := by
  rw [write, if_neg some_]
  split
  · exact returns_throw _
  · refine returns_bind c.returns_discard fun _ => returns_of_halts ?_
    have packet (e : LinkError) : Reported (.failed (.packet e)) := ⟨_, rfl⟩
    have acked : (awaitAck .write block).Halts Reported := awaitAck_halts packet ⟨_, rfl⟩ ⟨_, rfl⟩
    refine halts_bind (send_halts packet _) fun _ => halts_bind acked fun _ => ?_
    exact sendChunks_halts packet ⟨_, rfl⟩ ⟨_, rfl⟩ _

theorem returns_readBack (c : Client) (block : UInt16) : Returns c.rounds (c.readBack block) := by
  refine returns_bind (returns_trial (returns_of_halts (halts_checksumOnce block))) ?_
  intro ended
  cases ended with
  | ok crc => exact returns_done crc
  | error e =>
    dsimp only
    split
    · exact returns_throw _
    · split
      · exact c.returns_checksum block
      · exact returns_throw _

theorem returns_sync (c : Client) (some_ : c.chunkSize ≠ 0) (block : UInt16) (data : List UInt8) :
    Returns c.rounds (c.sync block data) := by
  refine returns_bind (c.returns_checksum block) ?_
  intro crc
  split
  · exact returns_done Sync.unchanged
  · refine returns_bind (returns_bind (c.returns_write some_ block data) fun _ =>
      returns_bind (c.returns_readBack block) fun actual => ?_) fun _ =>
        returns_done Sync.written
    split
    · exact returns_done ()
    · exact returns_throw _

end Client

end

end FlashRescue.Host
