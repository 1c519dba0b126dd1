import FlashRescue.Proofs.Dialogue.Transcript
import FlashRescue.Proofs.Session.Dispatch

/-!
# What a session leaves alone

A session works with the line, the flash and the reset of its board, and with nothing else: it goes the
same way on any board that has these in common.

* `Session.Working`   the queries of a command that is carried out; `Session.Answering`: those among them that are
                      neither a pause nor a read;
* `Session.Looping`   those of the command loop, all of which are `Session.Serving`;
* `Board.within`      a board with the line, the flash and the resets of another one;
* `run_within`        a session does not see the rest of its board;
* `run_quiet`         and so it does not see the level of the log;
* `served`            what a session leaves behind in the flash service, and that it does not end as if no
                      host had been there.
-/

namespace FlashRescue

open Device Device.Session Dialogue

/-- an exchange of the device with its board -/
abbrev Device.Call : Type := board.Exchange

namespace Device.Session

/-! ## The queries of a session -/

/-- an access to the flash that reaches over a block -/
inductive AtBlock : Flash.Query → Prop
  | read (block : UInt16) : AtBlock (.read .bios (blockOffset block) blockSize)
  | erase (block : UInt16) : AtBlock (.erase .bios (blockOffset block) blockSize)
  | program (block : UInt16) {content : List UInt8} (full : content.length = blockSize) :
      AtBlock (.program .bios (blockOffset block) content)

/-- what carrying a command out asks of the board -/
inductive Working : Query → Prop
  | delay (us : UInt64) : Working (.delay us)
  | read (n : Nat) : Working (.link (.read n))
  | respond (r : Response) (known : r = .ack ∨ r = .nack) : Working (.link (.write r.encode))
  | checksum (crc : UInt32) : Working (.link (.write (ByteOrder.little.encode 4 crc.toNat)))
  | flash {query : Flash.Query} (access : AtBlock query) : Working (.flash query)
  | reset : Working .reset

/-- neither a pause nor a read -/
def Plain : Query → Prop
  | .delay _ | .link (.read _) => False
  | _ => True

/-- what is asked to answer a command that was read -/
def Answering (query : Query) : Prop := Working query ∧ Plain query

/-- what the command loop asks of its board -/
def Looping (query : Query) : Prop := Working query ∨ query = .link .poll ∨ query = .now

/-- calls upon the line, the clock, the reset, and a flash service that was set up before -/
def Serving : Query → Prop
  | .link _ | .now | .delay _ | .reset => True
  | .flash query => query ≠ .init
  | _ => False

theorem Looping.serving {query : Query} (h : Looping query) : Serving query := by
  rcases h with working | rfl | rfl
  · cases working with
    | flash access =>
      intro init
      subst init
      cases access
    | _ => trivial
  · trivial
  · trivial

section
variable {α : Type} {kind : Query → Prop}

theorem only_query {query : Query} (h : kind query) :
    (.ask query .done : Action (Reply query)).Only kind := ⟨h, fun _ => trivial⟩

theorem only_link {query : Link.Query} (h : kind (.link query)) :
    (MonadLink.exchange query : Action _).Only kind := only_query h

theorem only_demand {transfer : Action (Except LinkError α)} (h : transfer.Only kind) :
    (demand transfer).Only kind := by
  refine only_bind h ?_
  intro reply
  cases reply <;> trivial

end

theorem only_respond {r : Response} (known : r = .ack ∨ r = .nack) :
    (demand (Link.sendResponse r)).Only Answering :=
  only_demand (only_link ⟨.respond r known, trivial⟩)

theorem only_refuse (nacks : Bool) : (refuse nacks).Only Answering := by
  cases nacks with
  | false => trivial
  | true => exact only_respond (.inr rfl)

theorem only_answerChecksum (nacks : Bool) (block : UInt16) :
    (answerChecksum nacks block).Only Answering := by
  refine only_bind (only_query ⟨.flash (.read block), trivial⟩) ?_
  intro reply
  cases reply with
  | error e => exact only_refuse nacks
  | ok content =>
    exact only_bind (only_respond (.inl rfl)) fun _ => only_demand (only_link ⟨.checksum _, trivial⟩)

theorem only_receiveChunk (config : Config) (n : Nat) : (receiveChunk config n).Only Working :=
  only_bind (only_query (.delay _)) fun _ => only_bind (only_demand (only_link (.read n))) fun _ =>
    only_bind ((only_respond (.inl rfl)).mono fun _ => And.left) fun _ => trivial

theorem only_receiveBlock (config : Config) : (receiveBlock config).Only Working := by
  rw [receiveBlock]
  split
  · trivial
  · exact only_map _ (only_mapM fun n _ => only_receiveChunk config n)

theorem yields_receiveChunk (config : Config) (n : Nat) :
    (receiveChunk config n).Yields (·.length = n) := by
  refine yields_bind _ fun _ => yields_bind _ fun bytes => yields_bind _ fun _ => ?_
  exact bytes.length_toList

/-- a block is put together of chunks that make it up, whatever their size -/
theorem yields_receiveBlock (config : Config) :
    (receiveBlock config).Yields (·.length = blockSize) := by
  rw [receiveBlock]
  split
  · trivial
  · have total : (chunkLengths config.chunkSize.toNat).sum = blockSize := by
      have whole := Nat.div_add_mod' blockSize config.chunkSize.toNat
      rw [chunkLengths, List.sum_append, List.sum_replicate_nat]
      split
      · rw [List.sum_nil]
        omega
      · rw [List.sum_singleton]
        exact whole
    rw [← total]
    generalize chunkLengths config.chunkSize.toNat = lengths
    have chunks : (lengths.mapM (receiveChunk config)).Yields (·.flatten.length = lengths.sum) := by
      induction lengths with
      | nil => rfl
      | cons n lengths ih =>
        rw [List.mapM_cons]
        refine (yields_receiveChunk config n).bind fun first length => ih.bind fun rest lengths => ?_
        show (first :: rest).flatten.length = _
        rw [List.flatten_cons, List.length_append, List.sum_cons, length, lengths]
    exact chunks.map _ fun _ length => length

theorem only_reprogram (block : UInt16) {content : List UInt8} (full : content.length = blockSize) :
    (reprogram block content).Only Answering := by
  refine only_bind (only_query ⟨.flash (.erase block), trivial⟩) ?_
  intro erased
  cases erased with
  | error e => trivial
  | ok =>
    refine only_bind (only_query ⟨.flash (.program block full), trivial⟩) ?_
    intro programmed
    cases programmed <;> trivial

/-- what is left to do once the content of a block was taken -/
theorem only_install (nacks : Bool) (block : UInt16) {content : List UInt8} (full : content.length = blockSize) :
    (reprogram block content >>= fun worked => if worked then pure () else refuse nacks).Only Answering := by
  refine only_bind (only_reprogram block full) ?_
  intro worked
  cases worked with
  | false => exact only_refuse nacks
  | true => trivial

theorem only_replace (config : Config) (nacks : Bool) (block : UInt16) :
    (replace config nacks block).Only Working := by
  refine only_bind ((only_respond (.inl rfl)).mono fun _ => And.left) fun _ =>
    (only_receiveBlock config).bind (yields_receiveBlock config) ?_
  intro content full
  exact (only_install nacks block full).mono fun _ => And.left

theorem only_dispatch (config : Config) (nacks : Bool) (command : Command) :
    (dispatch config nacks command).Only Working := by
  rw [dispatch]
  split
  · exact only_bind ((only_answerChecksum ..).mono fun _ => And.left) fun _ => trivial
  · exact only_bind (only_replace ..) fun _ => trivial
  · exact ⟨.reset, fun _ => trivial⟩
  · trivial
  · exact only_bind ((only_respond (.inl rfl)).mono fun _ => And.left) fun _ => trivial
  all_goals trivial

theorem only_heed (config : Config) (nacks : Bool) : (heed config nacks).Only Working :=
  only_bind (only_query (.delay _)) fun _ =>
    only_bind (only_demand (only_map _ (only_link (.read _)))) fun _ => only_dispatch ..

theorem only_watch (config : Config) (last : UInt64) {next : Action Outcome} (h : next.Only Looping) :
    (watch config last next).Only Looping := by
  rw [watch]
  refine only_bind (only_query (.inr (.inr rfl))) fun time => ?_
  split
  · trivial
  · exact h

theorem only_serve (config : Config) (rounds : Nat) (nacks : Bool) (last : UInt64) :
    (serve config rounds nacks last).Only Looping := by
  induction rounds generalizing nacks last with
  | zero => trivial
  | succ rounds ih =>
    rw [serve_succ]
    refine only_bind (only_link (.inr (.inl rfl))) ?_
    intro seen
    cases seen with
    | false => exact only_watch config last (ih nacks last)
    | true =>
      refine only_bind ((only_heed config nacks).mono fun _ => .inl) fun step =>
        only_bind (only_query (.inr (.inr rfl))) fun time => ?_
      cases step with
      | finish outcome => trivial
      | proceed nacks' => exact only_watch config time (ih nacks' time)

end Device.Session

namespace Board

/-! ## The rest of the board -/

/-- the line, the flash and the resets of `b` on the board `rest` -/
def within (b rest : Board) : Board :=
  { rest with line := b.line, flash := b.flash, resets := b.resets }

/-- the queries of a session reach the line, the flash and the reset only -/
theorem answer_within (query : Query) (rest b : Board)
    (h : Serving query ∨ query = .flash .init) :
    answer query (b.within rest) = ((answer query b).1, (answer query b).2.within rest) := by
  cases query with
  | link query => rfl
  | flash query => rfl
  | now => rfl
  | delay us => rfl
  | reset => rfl
  | _ =>
    rcases h with serving | init
    · exact serving.elim
    · cases init

theorem only_session (config : Config) (rounds : Nat) :
    (Session.run config rounds).Only fun query => Looping query ∨ query = Query.flash .init := by
  refine ⟨.inr rfl, fun reply => ?_⟩
  cases reply with
  | error e => trivial
  | ok =>
    exact ⟨.inl (.inr (.inr rfl)), fun start => (only_serve ..).mono fun query looping => .inl looping⟩

theorem only_run (config : Config) (rounds : Nat) :
    (Session.run config rounds).Only fun query =>
      Serving query ∨ query = Query.flash .init :=
  (only_session config rounds).mono fun _ => Or.imp_left Looping.serving

/-- a session goes the same way whatever else there is on its board -/
theorem run_within (config : Config) (rounds : Nat) (rest b : Board) :
    (Session.run config rounds).run answer (b.within rest) =
      (((Session.run config rounds).run answer b).1,
        ((Session.run config rounds).run answer b).2.within rest) :=
  (only_run config rounds).run_through (fun query b => answer_within query rest b) b

/-- and leaves it as it was -/
theorem within_run (config : Config) (rounds : Nat) (b : Board) :
    ((Session.run config rounds).run answer b).2.within b =
      ((Session.run config rounds).run answer b).2 :=
  (congrArg Prod.snd (run_within config rounds b b)).symm

theorem within_of_session {config : Config} {rounds : Nat} {b b' : Board} {calls : List Call}
    {ended : Except (Stop Error) Outcome}
    (h : Recorded answer (Session.run config rounds) b calls ended b') : b'.within b = b' := by
  have rest := within_run config rounds b
  rwa [h.run] at rest

/-- on which level the log is makes no difference to it -/
theorem run_quiet (config : Config) (rounds : Nat) (b : Board) (level : LogLevel) :
    (Session.run config rounds).run answer { b with logLevel := level } =
      (((Session.run config rounds).run answer b).1,
        { ((Session.run config rounds).run answer b).2 with logLevel := level }) := by
  have unseen := run_within config rounds { b with logLevel := level } b
  have rest := within_run config rounds b
  generalize (Session.run config rounds).run answer b = ran at unseen rest ⊢
  obtain ⟨ended, line, flash, image, registry, resets, config, logLevel⟩ := ran
  cases rest
  exact unseen

/-! ## How a session ends -/

/-- after `b` a session has ended on the board `b'`, before the flash service was set up for it or after -/
structure Served (b : Board) (ended : Except (Stop Error) Outcome) (b' : Board) : Prop where
  others : b'.within b = b'
  inits : b'.flash.count.inits = b.flash.count.inits + 1
  failing : b'.flash.failing = b.flash.failing
  ready : b.flash.failing.init = false → b'.flash.ready = true
  refused : b.flash.failing.init = true → ended = .error (.failed .flash)
  outcome : ended ≠ .ok .normalBoot

/-- in a session the flash service is put to use, but not set up -/
theorem answer_serving {query : Query} {f : Nor} {b : Board} (serving : Serving query)
    (h : f.Alike b.flash) : f.Alike (answer query b).2.flash := by
  cases query with
  | flash query => exact h.trans (Nor.alike_answer serving b.flash)
  | link query => exact h
  | now => exact h
  | delay us => exact h
  | reset => exact h
  | _ => exact serving.elim

theorem yields_dispatch (config : Config) (nacks : Bool) (command : Command) :
    (dispatch config nacks command).Yields (· ≠ .finish .normalBoot) := by
  have goesOn (nacks : Bool) : Step.proceed nacks ≠ .finish .normalBoot := by simp
  have exits : Step.finish .exited ≠ .finish .normalBoot := by simp
  have resets : Step.finish .reset ≠ .finish .normalBoot := by simp
  rw [dispatch]
  split
  · exact yields_bind _ fun _ => goesOn nacks
  · exact yields_bind _ fun _ => goesOn nacks
  · exact fun _ => resets
  · exact exits
  · exact yields_bind _ fun _ => goesOn true
  all_goals exact goesOn nacks

theorem yields_serve (config : Config) (rounds : Nat) (nacks : Bool) (last : UInt64) :
    (Session.serve config rounds nacks last).Yields (· ≠ .normalBoot) := by
  have watched (last : UInt64) {next : Action Outcome} (h : next.Yields (· ≠ .normalBoot)) :
      (watch config last next).Yields (· ≠ .normalBoot) := by
    rw [watch]
    refine yields_bind _ fun time => ?_
    split
    · trivial
    · exact h
  induction rounds generalizing nacks last with
  | zero => trivial
  | succ rounds ih =>
    refine yields_bind _ fun seen => ?_
    cases seen with
    | false => exact watched last (ih nacks last)
    | true =>
      refine yields_bind _ fun _ => yields_bind _ fun command => ?_
      refine (yields_dispatch config nacks command).bind fun step ends =>
        yields_bind _ fun time => ?_
      cases step with
      | finish outcome => exact fun normal => ends (congrArg Step.finish normal)
      | proceed nacks' => exact watched time (ih nacks' time)

theorem run_setUp (b : Board) :
    (Device.flash .init).run answer b =
      if b.flash.failing.init then
        (.ok (.error .device), { b with flash.count.inits := b.flash.count.inits + 1 })
      else (.ok (.ok ()),
        { b with flash := { b.flash with count.inits := b.flash.count.inits + 1, ready := true } }) := by
  rw [run_flash, Nor.answer, Nor.init]
  cases b.flash.failing.init <;> rfl

theorem served (config : Config) (rounds : Nat) (b : Board) :
    b.Served ((Session.run config rounds).run answer b).1
      ((Session.run config rounds).run answer b).2 := by
  have others := within_run config rounds b
  have setUp := run_setUp b
  cases fails : b.flash.failing.init with
  | true =>
    rw [fails, if_pos rfl] at setUp
    have ran : (Session.run config rounds).run answer b = (.error (.failed .flash), _) :=
      Dialogue.run_bind_ok setUp
    rw [ran]
    exact ⟨rfl, rfl, rfl, fun works => absurd (fails.symm.trans works) nofun, fun _ => rfl, nofun⟩
  | false =>
    rw [fails, if_neg Bool.false_ne_true] at setUp
    generalize def₁ : ({ b with flash := { b.flash with
      count.inits := b.flash.count.inits + 1, ready := true } } : Board) = b₁ at setUp
    obtain ⟨start, b₂, looked, trade⟩ := run_now b₁
    have ran : (Session.run config rounds).run answer b =
        (Session.serve config rounds config.nackOnFailure start).run answer b₂ := by
      rw [Session.run, Dialogue.run_bind_ok setUp]
      exact Dialogue.run_bind_ok looked
    have alike : b₂.flash.Alike ((Session.run config rounds).run answer b).2.flash := by
      have keeps : ∀ query b, Serving query → b₂.flash.Alike b.flash →
          b₂.flash.Alike (answer query b).2.flash := fun _ _ => answer_serving
      rw [ran]
      exact ((only_serve ..).mono fun _ => Looping.serving).run keeps ⟨rfl, rfl, rfl⟩
    rw [trade.flash, ← def₁] at alike
    refine ⟨others, alike.inits, alike.failing, fun _ => alike.ready,
      fun works => absurd (fails.symm.trans works) nofun, fun normal => ?_⟩
    rw [ran] at normal
    exact (yields_serve ..).run (Prod.ext normal rfl) rfl

end Board

end FlashRescue
