import FlashRescue.Proofs.Session.Frame

/-!
# Input that comes later

A session that is run on some input and on more of it goes the same way until it has used up the shorter
one.  From there on it only falls silent, or finds the line closed, where there is no more.

* `Board.more`       a board whose host has sent some more;
* `Board.Covered`    the queries that do not look past the input; `answer_more`: they do not tell the boards
                     apart;
* `outgoing_run`     what was sent stays sent, whatever is done;
* `Board.Precedes`   a run has got as far as another one, and had the same value if it came to any;
                     `Precedes.bind`: this is seen part by part;
* `Board.Causal`     a dialogue whose run precedes that with more input; `causal_heed`: a command is one;
* `serve_more`       and so is the loop, in whatever rounds;
* `serve_causal`     and the whole session.
-/

namespace FlashRescue

open Device Device.Session Dialogue

namespace Board

/-! ## More input -/

/-- a board whose host has sent some more bytes, each to be seen from some moment on -/
def more (extra : List (UInt64 × UInt8)) (b : Board) : Board :=
  { b with line := { b.line with incoming := b.line.incoming ++ extra } }

variable {b : Board} {extra : List (UInt64 × UInt8)}

/-- what does not look past the input -/
def Covered : Query → Board → Prop
  | .link (.read n), b => n ≤ b.line.incoming.length
  | .link .poll, b => b.line.incoming ≠ []
  | _, _ => True

theorem read_more (extra : List (UInt64 × UInt8)) {n : Nat} (enough : n ≤ b.line.incoming.length) :
    (b.more extra).line.read n =
      ((b.line.read n).1,
        { (b.line.read n).2 with incoming := (b.line.read n).2.incoming ++ extra }) := by
  have front : (b.more extra).line.incoming.take n = b.line.incoming.take n :=
    List.take_append_of_le_length enough
  have back : (b.more extra).line.incoming.drop n = b.line.incoming.drop n ++ extra :=
    List.drop_append_of_le_length enough
  have length : (b.line.incoming.take n).length = n := List.length_take_of_le enough
  have length' : ((b.more extra).line.incoming.take n).length = n := front ▸ length
  rw [Line.read, dif_pos length', Line.read, dif_pos length]
  simp only [front, back]
  rfl

/-- such a query gets the same reply, and what comes later stays where it is -/
theorem answer_more (extra : List (UInt64 × UInt8)) {query : Query} (covered : Covered query b) :
    answer query (b.more extra) = ((answer query b).1, (answer query b).2.more extra) := by
  cases query with
  | link query =>
    cases query with
    | read n =>
      have same := read_more extra covered
      show ((Line.read n (b.more extra).line).1,
        { b.more extra with line := (Line.read n (b.more extra).line).2 }) = _
      rw [same]
      rfl
    | write bytes =>
      obtain ⟨⟨clock, incoming, sent, left⟩, flash⟩ := b
      match left with
      | none | some 0 | some (_ + 1) => rfl
    | poll =>
      obtain ⟨⟨clock, incoming, sent, left⟩, flash⟩ := b
      cases incoming with
      | nil => exact absurd rfl covered
      | cons entry incoming => rfl
  | install marker =>
    show install marker (b.more extra) = ((install marker b).1, (install marker b).2.more extra)
    by_cases known : marker ∈ b.registry
    · rw [install, install, if_pos known, if_pos (show marker ∈ (b.more extra).registry from known)]
    · rw [install, install, if_neg known, if_neg (show marker ∉ (b.more extra).registry from known)]
      rfl
  | _ => rfl

/-! ## Output -/

theorem outgoing_answer (query : Query) (b : Board) :
    b.line.outgoing <+: (answer query b).2.line.outgoing := by
  cases query with
  | link query =>
    cases query with
    | read n =>
      show b.line.outgoing <+: (b.line.read n).2.outgoing
      rw [Line.read]
      split <;> exact List.prefix_rfl
    | write bytes =>
      show b.line.outgoing <+: (b.line.write bytes).2.outgoing
      rw [Line.outgoing_write]
      split
      · exact List.prefix_rfl
      · exact List.prefix_append _ _
    | poll => exact List.prefix_rfl
  | install marker =>
    show b.line.outgoing <+: (install marker b).2.line.outgoing
    rw [install]
    split <;> exact List.prefix_rfl
  | _ => exact List.prefix_rfl

theorem outgoing_run {α : Type} (action : Action α) (b : Board) :
    b.line.outgoing <+: (action.run answer b).2.line.outgoing := by
  induction action generalizing b with
  | done value => exact List.prefix_rfl
  | stop why => exact List.prefix_rfl
  | ask query next ih => exact (outgoing_answer query b).trans (ih _ _)

/-- what was sent in the first part -/
theorem outgoing_bind {α β : Type} (action : Action α) (next : α → Action β) (b : Board) :
    (action.run answer b).2.line.outgoing <+: ((action >>= next).run answer b).2.line.outgoing := by
  cases ran : action.run answer b with
  | mk ended b₁ =>
    cases ended with
    | ok value =>
      rw [run_bind_ok ran]
      exact outgoing_run _ _
    | error why =>
      exact ⟨[], by rw [run_bind_error ran, List.append_nil]⟩

/-! ## With more input -/

/-- how far a run got, next to one with `extra` input: all that it sent the other one sent too, and the value
that it came to the other one came to as well, and left the rest of the input -/
structure Precedes {α : Type} (extra : List (UInt64 × UInt8)) (p s : Ended α) : Prop where
  outgoing : p.2.line.outgoing <+: s.2.line.outgoing
  ended : ∀ value, p.1 = .ok value → s = (.ok value, p.2.more extra)

/-- a dialogue on which input has no effect before it is read -/
def Causal {α : Type} (d : Action α) : Prop :=
  ∀ (b : Board) (extra : List (UInt64 × UInt8)),
    Precedes extra (d.run answer b) (d.run answer (b.more extra))

section
variable {α β : Type} {d d' : Action α} {next next' : α → Action β}

theorem Precedes.bind {b' : Board} (h : Precedes extra (d.run answer b) (d'.run answer b'))
    (h' : ∀ value b₁, d.run answer b = (.ok value, b₁) →
      Precedes extra ((next value).run answer b₁) ((next' value).run answer (b₁.more extra))) :
    Precedes extra ((d >>= next).run answer b) ((d' >>= next').run answer b') := by
  cases ran : d.run answer b with
  | mk ended b₁ =>
    rw [ran] at h
    cases ended with
    | ok value =>
      rw [run_bind_ok ran, run_bind_ok (h.ended value rfl)]
      exact h' value b₁ ran
    | error why =>
      rw [run_bind_error ran]
      exact ⟨h.outgoing.trans (outgoing_bind d' next' b'), nofun⟩

theorem causal_done (value : α) : Causal (.done value) := fun _ _ =>
  ⟨List.prefix_rfl, fun _ same => by cases same; rfl⟩

theorem causal_stop (why : Stop Error) : Causal (.stop why : Action α) := fun _ _ =>
  ⟨List.prefix_rfl, nofun⟩

theorem causal_bind (h : Causal d) (h' : ∀ value, Causal (next value)) : Causal (d >>= next) :=
  fun b extra => (h b extra).bind fun value b₁ _ => h' value b₁ extra

theorem causal_map (f : α → β) (h : Causal d) : Causal (f <$> d) := by
  rw [← bind_pure_comp]
  exact causal_bind h fun value => causal_done (f value)

theorem precedes_query (query : Query) (covered : Covered query b) :
    Precedes extra ((.ask query .done : Action (Reply query)).run answer b)
      ((.ask query .done : Action (Reply query)).run answer (b.more extra)) := by
  have same := answer_more extra covered
  have ran (b : Board) : (.ask query .done : Action (Reply query)).run answer b =
      (.ok (answer query b).1, (answer query b).2) := rfl
  rw [ran, ran, same]
  exact ⟨List.prefix_rfl, fun _ same => by cases same; rfl⟩

theorem causal_query {query : Query} (covered : ∀ b, Covered query b) :
    Causal (.ask query .done : Action (Reply query)) := fun b _ => precedes_query query (covered b)

theorem causal_demand {transfer : Action (Except LinkError α)} (h : Causal transfer) :
    Causal (demand transfer) := by
  refine causal_bind h ?_
  intro reply
  cases reply with
  | ok value => exact causal_done value
  | error e => exact causal_stop _

end

/-! ## Commands -/

theorem causal_now : Causal now := causal_query fun _ => trivial

theorem causal_pause (ms : UInt64) : Causal (pause ms) := causal_query fun _ => trivial

theorem causal_flash (query : Flash.Query) : Causal (Device.flash query) := causal_query fun _ => trivial

theorem causal_respond (r : Response) : Causal (demand (Link.sendResponse r)) :=
  causal_demand (causal_query fun _ => trivial)

/-- a read takes what there is, or it finds the line closed and nothing follows -/
theorem causal_read (n : Nat) : Causal (demand (Link.read n)) := by
  intro b extra
  by_cases enough : n ≤ b.line.incoming.length
  · refine (precedes_query (.link (.read n)) enough).bind ?_
    intro reply b₁ _
    cases reply with
    | ok bytes => exact causal_done bytes b₁ extra
    | error e => exact causal_stop _ b₁ extra
  · rcases run_receive n b with ⟨there, _⟩ | ⟨_, closed⟩
    · rw [unread, List.length_map] at there
      exact absurd there enough
    · rw [closed]
      exact ⟨outgoing_run _ (b.more extra), fun _ ended => by cases ended⟩

theorem causal_readCommand : Causal (demand Link.readCommand) := by
  rw [demand_readCommand]
  exact causal_map _ (causal_read _)

theorem causal_refuse (nacks : Bool) : Causal (refuse nacks) := by
  cases nacks with
  | false => exact causal_done ()
  | true => exact causal_respond .nack

theorem causal_answerChecksum (nacks : Bool) (block : UInt16) :
    Causal (answerChecksum nacks block) := by
  refine causal_bind (causal_flash _) ?_
  intro reply
  cases reply with
  | error e => exact causal_refuse nacks
  | ok content =>
    exact causal_bind (causal_respond .ack) fun _ => causal_demand (causal_query fun _ => trivial)

theorem causal_receiveChunk (config : Config) (n : Nat) : Causal (receiveChunk config n) :=
  causal_bind (causal_pause _) fun _ => causal_bind (causal_read n) fun _ =>
    causal_bind (causal_respond .ack) fun _ => causal_done _

theorem causal_receiveBlock (config : Config) : Causal (receiveBlock config) := by
  rw [receiveBlock]
  split
  · exact causal_stop _
  · refine causal_map _ ?_
    generalize chunkLengths config.chunkSize.toNat = lengths
    induction lengths with
    | nil => exact causal_done []
    | cons n lengths ih =>
      rw [List.mapM_cons]
      exact causal_bind (causal_receiveChunk config n) fun _ => causal_bind ih fun _ => causal_done _

theorem causal_reprogram (block : UInt16) (content : List UInt8) :
    Causal (reprogram block content) := by
  refine causal_bind (causal_flash _) ?_
  intro erased
  cases erased with
  | error e => exact causal_done false
  | ok =>
    refine causal_bind (causal_flash _) ?_
    intro programmed
    cases programmed <;> exact causal_done _

theorem causal_replace (config : Config) (nacks : Bool) (block : UInt16) :
    Causal (replace config nacks block) := by
  refine causal_bind (causal_respond .ack) fun _ => causal_bind (causal_receiveBlock config) fun content =>
    causal_bind (causal_reprogram block content) ?_
  intro worked
  cases worked with
  | false => exact causal_refuse nacks
  | true => exact causal_done ()

theorem causal_dispatch (config : Config) (nacks : Bool) (command : Command) :
    Causal (dispatch config nacks command) := by
  rw [dispatch]
  split
  · exact causal_bind (causal_answerChecksum nacks command.block) fun _ => causal_done _
  · exact causal_bind (causal_replace config nacks command.block) fun _ => causal_done _
  · exact causal_bind (d := .ask .reset .done) (causal_query fun _ => trivial) fun _ => causal_done _
  · exact causal_done _
  · exact causal_bind (causal_respond .ack) fun _ => causal_done _
  all_goals exact causal_done _

theorem causal_heed (config : Config) (nacks : Bool) : Causal (heed config nacks) :=
  causal_bind (causal_pause _) fun _ => causal_bind causal_readCommand fun command =>
    causal_dispatch config nacks command

/-! ## The loop -/

/-- without input a session sends nothing, and it does not come to an end of its own -/
theorem run_serve_silent (config : Config) (rounds : Nat) (nacks : Bool) (last : UInt64)
    (silent : b.line.incoming = []) :
    ∃ why b', (Session.serve config rounds nacks last).run answer b = (.error why, b') ∧
      b.Trades b' 0 [] := by
  induction rounds generalizing b with
  | zero => exact ⟨.unfinished, b, rfl, .refl b⟩
  | succ rounds ih =>
    obtain ⟨seen, b₁, polled, trade₁⟩ := run_poll b
    have unseen : seen = false := by
      have reply : (b.line.poll).1 = seen := Except.ok.inj (congrArg Prod.fst polled)
      rw [← reply, Line.poll, silent]
      rfl
    rw [serve_succ, run_bind_ok polled, unseen]
    obtain ⟨b₂, trade₂, late | on⟩ :=
      run_watch config last (Session.serve config rounds nacks last) b₁
    · exact ⟨_, b₂, late, trade₁.trans trade₂⟩
    · obtain ⟨why, b₃, ended, trade₃⟩ :=
        ih (b := b₂) ((trade₁.trans trade₂).incoming.trans silent)
      exact ⟨why, b₃, on.trans ended, (trade₁.trans trade₂).trans trade₃⟩

theorem precedes_watch (config : Config) (last : UInt64) {next next' : Action Outcome}
    (h : ∀ b : Board, Precedes extra (next.run answer b) (next'.run answer (b.more extra))) :
    Precedes extra ((watch config last next).run answer b)
      ((watch config last next').run answer (b.more extra)) := by
  refine (causal_now b extra).bind fun time b₁ _ => ?_
  split
  · exact causal_stop _ b₁ extra
  · exact h b₁

/-- the loop in no fewer rounds: they follow those with less input, as long as there is something to be
read -/
theorem serve_more (config : Config) {rounds rounds' : Nat} (le : rounds ≤ rounds') (nacks : Bool)
    (last : UInt64) (b : Board) :
    Precedes extra ((Session.serve config rounds nacks last).run answer b)
      ((Session.serve config rounds' nacks last).run answer (b.more extra)) := by
  induction rounds generalizing rounds' nacks last b with
  | zero => exact ⟨outgoing_run _ (b.more extra), nofun⟩
  | succ rounds ih =>
    obtain ⟨rounds', rfl⟩ := Nat.exists_eq_add_one_of_ne_zero (Nat.ne_zero_of_lt le)
    have le := Nat.le_of_succ_le_succ le
    by_cases silent : b.line.incoming = []
    · -- the poll tells the boards apart from here on, but on this one nothing more is sent
      obtain ⟨why, b₁, ended, trade⟩ := run_serve_silent config (rounds + 1) nacks last silent
      rw [ended]
      refine ⟨?_, nofun⟩
      rw [trade.outgoing, List.flatten_nil, List.append_nil]
      exact outgoing_run _ (b.more extra)
    · rw [serve_succ, serve_succ]
      refine (precedes_query (.link .poll) silent).bind fun seen b₁ _ => ?_
      cases seen with
      | false => exact precedes_watch config last fun b => ih le nacks last b
      | true =>
        refine (causal_heed config nacks b₁ extra).bind fun step b₂ _ =>
          (causal_now b₂ extra).bind fun time b₃ _ => ?_
        cases step with
        | finish outcome => exact causal_done outcome b₃ extra
        | proceed nacks' => exact precedes_watch config time fun b => ih le nacks' time b

/-! ## The session -/

theorem rounds_more (extra : List (UInt64 × UInt8)) (b : Board) : b.rounds ≤ (b.more extra).rounds := by
  have longer : b.line.incoming.length ≤ (b.more extra).line.incoming.length :=
    (List.length_append).symm ▸ Nat.le_add_right ..
  have words := Nat.mul_le_mul_right UInt64.size (Nat.add_le_add_right longer 1)
  exact Nat.add_le_add_right (Nat.add_le_add_right (Nat.add_le_add_right words _) _) 1

/-- whatever the host has sent, and at whatever moments its bytes can be seen: what a session sends
is the beginning of what it sends if there is more to come, and a session that is told to leave or to reset
the board leaves the same board behind, with the rest of the input unread -/
theorem serve_causal (b : Board) (extra : List (UInt64 × UInt8)) :
    b.serve.2.line.outgoing <+: (b.more extra).serve.2.line.outgoing ∧
      ∀ outcome, b.serve.1 = .ok outcome →
        (b.more extra).serve = (.ok outcome, b.serve.2.more extra) := by
  have session : Precedes extra b.serve (b.more extra).serve := by
    refine (causal_flash .init b extra).bind fun setUp b₁ _ => ?_
    cases setUp with
    | error e => exact causal_stop _ b₁ extra
    | ok => exact (causal_now b₁ extra).bind fun start b₂ _ => serve_more _ (rounds_more extra b) _ start b₂
  exact ⟨session.outgoing, session.ended⟩

/-- a host that says EXIT, and a byte that comes too late -/
theorem serve_causal_exit :
    let b : Board := { standard 1 with line := (standard 1).line.push 0 (Command.of .exit 0).encode }
    b.serve.1 = .ok .exited ∧
      (b.more [(7, 0x11)]).serve = (.ok .exited, b.serve.2.more [(7, 0x11)]) := by
  intro b
  have exits (rounds : Nat) : ((Session.run b.config (rounds + 1)).run answer b).1 = .ok .exited := rfl
  have exits : b.serve.1 = .ok .exited := exits (b.line.rounds + b.config.helloTimeoutMs.toNat)
  exact ⟨exits, (serve_causal b _).2 _ exits⟩

end Board

end FlashRescue
