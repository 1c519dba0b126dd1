import FlashRescue.Proofs.Session.Frame

/-!
# The search for a host

What a device does to its board while it makes itself known.

* `Boot.search`       a pause, and then HELLOs until a host answers or the budget is used up;
* `Boot.Calling`      what it asks of its board: the line, and that time passes;
* `Boot.Acknowledged` HELLO was sent last, and answered with an ACK;
* `searched`          a search sends nothing but HELLO, changes nothing but the line, and finds a host only
                      by its ACK.
-/

namespace FlashRescue

open Device Device.Session Dialogue

namespace Device.Boot

/-- the search for a host, after a pause in which one can be attached -/
def search (config : Config) (rounds : Nat) : Action Bool := do
  pause config.settleMs
  announce config rounds

def helloBytes : List UInt8 := (Command.of .hello 0).encode

/-- what a search asks of its board -/
def Calling : Query → Prop
  | .link _ | .delay _ => True
  | _ => False

/-- what it asks to find out whether it was heard -/
def Listening : Query → Prop
  | .link (.read _) | .link .poll => True
  | _ => False

theorem Listening.calling {query : Query} (h : Listening query) : Calling query := by
  cases query with
  | link query => trivial
  | _ => exact h.elim

/-- the last that was asked: HELLO was sent, and an ACK was there to be read -/
def Acknowledged (calls : List Call) : Prop :=
  ∃ before bytes, calls = before ++ [⟨.link (.write helloBytes), .ok ()⟩, ⟨.link .poll, true⟩,
      ⟨.link (.read Response.width), .ok bytes⟩] ∧ (Response.decode bytes).isAck = true

theorem Acknowledged.append {calls : List Call} (h : Acknowledged calls) (earlier : List Call) :
    Acknowledged (earlier ++ calls) := by
  obtain ⟨before, bytes, same, ack⟩ := h
  exact ⟨earlier ++ before, bytes, by rw [same, List.append_assoc], ack⟩

theorem only_answered : answered.Only Listening := by
  refine only_bind (only_link trivial) ?_
  intro seen
  cases seen with
  | false => trivial
  | true =>
    exact only_bind (only_demand (only_map _ (only_link trivial))) fun _ => trivial

theorem only_announceFrom (config : Config) (rounds : Nat) (elapsed : UInt64) :
    (announceFrom config rounds elapsed).Only Calling := by
  induction rounds generalizing elapsed with
  | zero => trivial
  | succ rounds ih =>
    rw [announceFrom]
    split
    · refine only_bind (only_demand (only_link trivial)) fun _ =>
        only_bind (only_answered.mono fun _ => Listening.calling) fun found => ?_
      cases found with
      | true => trivial
      | false => exact ⟨trivial, fun _ => ih _⟩
    · trivial

theorem only_search (config : Config) (rounds : Nat) : (search config rounds).Only Calling :=
  ⟨trivial, fun _ => only_announceFrom config rounds 0⟩

end Device.Boot

namespace Board

open Boot

variable {b b' : Board}

/-! ## Transfers on record -/

theorem demand_ok {α : Type} {transfer : Action (Except LinkError α)} {value : α}
    (h : (demand transfer).run answer b = (.ok value, b')) :
    transfer.run answer b = (.ok (.ok value), b') := by
  obtain ⟨reply, b₁, ran, rest⟩ := run_bind_eq_ok h
  cases reply with
  | ok value' =>
    cases rest
    exact ran
  | error e => cases rest

theorem recorded_demand {α : Type} {transfer : Action (Except LinkError α)} {calls : List Call}
    {value : α} (h : Recorded answer transfer b calls (.ok (.ok value)) b') :
    Recorded answer (demand transfer) b calls (.ok value) b' := by
  have whole : Recorded answer (demand transfer) b (calls ++ []) (.ok value) b' :=
    h.bind_ok (recorded_done value b')
  rwa [List.append_nil] at whole

theorem recorded_say {bytes : List UInt8}
    (said : (demand (Link.write bytes) : Action Unit).run answer b = (.ok (), b')) :
    Recorded answer (demand (Link.write bytes) : Action Unit) b [⟨.link (.write bytes), .ok ()⟩]
      (.ok ()) b' := by
  have replied : (Except.ok (answer (.link (.write bytes)) b).1, (answer (.link (.write bytes)) b).2) =
      ((.ok (.ok ()), b') : Except (Stop Error) (Except LinkError Unit) × Board) := demand_ok said
  injection replied with reply after
  injection reply with reply
  exact recorded_demand (recorded_ask (Prod.ext reply after))

theorem recorded_receive {n : Nat} {bytes : Vector UInt8 n}
    (received : (demand (Link.read n) : Action _).run answer b = (.ok bytes, b')) :
    Recorded answer (demand (Link.read n) : Action _) b [⟨.link (.read n), .ok bytes⟩] (.ok bytes)
      b' := by
  have replied : (Except.ok (answer (.link (.read n)) b).1, (answer (.link (.read n)) b).2) =
      ((.ok (.ok bytes), b') : Except (Stop Error) (Except LinkError (Vector UInt8 n)) × Board) :=
    demand_ok received
  injection replied with reply after
  injection reply with reply
  exact recorded_demand (recorded_ask (Prod.ext reply after))

theorem demand_readResponse :
    (demand Link.readResponse : Action Response) =
      Response.decode <$> (demand (Link.read Response.width) : Action _) :=
  congrArg (Dialogue.ask _) (funext fun reply => by cases reply <;> rfl)

/-! ## The search -/

theorem recorded_answered (b : Board) :
    ∃ calls ended b' n, Recorded answer answered b calls ended b' ∧ b.Trades b' n [] ∧
      (ended = .ok true → ∃ bytes, calls = [⟨.link .poll, true⟩,
        ⟨.link (.read Response.width), .ok bytes⟩] ∧ (Response.decode bytes).isAck = true) := by
  obtain ⟨seen, b₁, polled, trade⟩ := run_poll b
  have look : Recorded answer (Link.poll : Action Bool) b [⟨.link .poll, seen⟩] (.ok seen) b₁ := by
    injection polled with reply after
    injection reply with reply
    exact recorded_ask (Prod.ext reply after)
  cases seen with
  | false => exact ⟨_, _, b₁, 0, look.bind_ok (recorded_done false b₁), trade, nofun⟩
  | true =>
    rcases run_receive Response.width b₁ with ⟨-, bytes, b₂, received, -, trade₂⟩ | ⟨-, closed⟩
    · have read := (recorded_receive received).map Response.decode
      rw [← demand_readResponse] at read
      refine ⟨_, _, b₂, 0 + Response.width,
        look.bind_ok (read.bind_ok (recorded_done (Response.decode bytes).isAck b₂)),
        trade.trans trade₂, fun found => ⟨bytes, rfl, ?_⟩⟩
      injection found
    · have refused := (recorded closed).map Response.decode
      rw [← demand_readResponse] at refused
      exact ⟨_, _, b₁, 0, look.bind_ok refused.bind_error, trade, nofun⟩

theorem recorded_announceFrom (config : Config) (rounds : Nat) (elapsed : UInt64) (b : Board) :
    ∃ calls ended b' n k, Recorded answer (announceFrom config rounds elapsed) b calls ended b' ∧
      b.Trades b' n (List.replicate k helloBytes) ∧ (ended = .ok true → Acknowledged calls) := by
  induction rounds generalizing elapsed b with
  | zero => exact ⟨_, _, b, 0, 0, recorded_stop .unfinished b, .refl b, nofun⟩
  | succ rounds ih =>
    rw [announceFrom]
    split
    · rcases run_say helloBytes b with ⟨b₁, said, trade₁⟩ | ⟨-, closed⟩
      · obtain ⟨calls₂, ended₂, b₂, n, heard, trade₂, ack⟩ := recorded_answered b₁
        have trade : b.Trades b₂ (0 + n) ([helloBytes] ++ []) := trade₁.trans trade₂
        cases ended₂ with
        | error why =>
          exact ⟨_, _, b₂, _, 1, (recorded_say said).bind_ok heard.bind_error, trade, nofun⟩
        | ok found =>
          cases found with
          | true =>
            obtain ⟨bytes, same, isAck⟩ := ack rfl
            refine ⟨_, _, b₂, _, 1,
              (recorded_say said).bind_ok (heard.bind_ok (recorded_done true b₂)), trade,
              fun _ => ⟨[], bytes, ?_, isAck⟩⟩
            rw [same]
            rfl
          | false =>
            obtain ⟨b₃, paused, trade₃⟩ := run_pause config.helloRetryMs b₂
            obtain ⟨calls, ended, b', m, k, rest, trade', ack'⟩ :=
              ih (Word.addSat elapsed config.helloRetryMs) b₃
            have whole : b.Trades b' _ ([helloBytes] ++ [] ++ [] ++ List.replicate k helloBytes) :=
              (trade.trans trade₃).trans trade'
            exact ⟨_, ended, b', _, k + 1,
              (recorded_say said).bind_ok (heard.bind_ok ((recorded paused).bind_ok rest)), whole,
              fun found => (((ack' found).append _).append _).append _⟩
      · exact ⟨_, _, b, 0, 0, (recorded closed).bind_error, .refl b, nofun⟩
    · exact ⟨_, _, b, 0, 0, recorded_done false b, .refl b, nofun⟩

/-- how a search went -/
structure Searched (b : Board) (calls : List Call) (ended : Except (Stop Error) Bool) (b' : Board) :
    Prop where
  calling : ∀ call ∈ calls, Calling call.query
  trades : ∃ n k, b.Trades b' n (List.replicate k helloBytes)
  acknowledged : ended = .ok true → Acknowledged calls

theorem searched {config : Config} {rounds : Nat} {b b' : Board} {calls : List Call}
    {ended : Except (Stop Error) Bool} (h : Recorded answer (search config rounds) b calls ended b') :
    b.Searched calls ended b' := by
  obtain ⟨b₁, paused, trade₁⟩ := run_pause config.settleMs b
  obtain ⟨calls', ended', b'', n, k, rest, trade₂, ack⟩ := recorded_announceFrom config rounds 0 b₁
  have whole : Recorded answer (search config rounds) b _ ended' b'' := (recorded paused).bind_ok rest
  cases h.run.symm.trans whole.run
  refine ⟨(only_search config rounds).recorded h, ⟨_, k, trade₁.trans trade₂⟩, ?_⟩
  rw [← h.transcript, whole.transcript]
  exact fun found => (ack found).append _

theorem Searched.others {b b' : Board} {calls : List Call} {found : Except (Stop Error) Bool}
    (h : b.Searched calls found b') : b' = { b with line := b'.line } := by
  obtain ⟨n, k, trade⟩ := h.trades
  exact trade.others

end Board

end FlashRescue
