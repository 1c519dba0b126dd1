import FlashRescue.Proofs.Session.Passage
import FlashRescue.Proofs.Word

/-!
# The pauses of a session

The line has no flow control: the device gives its host time before it reads.  Each read of a session has a pause of
its own right before it, and there are no other pauses.

* `Device.reads`      how often so many bytes were asked for;
* `Session.Writing`   a WRITE was read, or a chunk of its block;
* `Session.Paced`     the ways in which a session can get along on its line; `paced_heed`, `Course.paced`: there are
                      no others;
* `Session.Placed`    where a call of a session can stand; `Paced.placed`: it stands there;
* `Session.Pacing`    what comes right before and right after a read or a pause;
* `Paced.total`       the pauses add up to one for each read;
* `session_paced`     all of it, for the sessions of a simulated board.
-/

namespace FlashRescue

open Device Device.Session Dialogue

namespace Device

/-! ## Calls -/

def isRead (n : Nat) : Call → Bool
  | ⟨.link (.read m), _⟩ => m == n
  | _ => false

/-- how often so many bytes were asked for, whether they came or not -/
def reads (n : Nat) (calls : List Call) : Nat := calls.countP (isRead n)

theorem reads_append (n : Nat) (calls calls' : List Call) :
    reads n (calls ++ calls') = reads n calls + reads n calls' :=
  List.countP_append

theorem reads_singleton (n : Nat) (call : Call) : reads n [call] = if isRead n call then 1 else 0 :=
  List.countP_singleton

/-- the microseconds of a pause -/
def waited : Call → Nat
  | ⟨.delay us, _⟩ => us.toNat
  | _ => 0

/-- how long all pauses were -/
def pauses (calls : List Call) : Nat := (calls.map waited).sum

theorem pauses_append (calls calls' : List Call) : pauses (calls ++ calls') = pauses calls + pauses calls' := by
  simp [pauses]

theorem isRead_of_plain {call : Call} (plain : Session.Plain call.query) (n : Nat) : isRead n call = false := by
  obtain ⟨query, reply⟩ := call
  cases query with
  | link query => cases query <;> first | rfl | exact plain.elim
  | _ => rfl

theorem waited_of_plain {call : Call} (plain : Session.Plain call.query) : waited call = 0 := by
  obtain ⟨query, reply⟩ := call
  cases query <;> first | rfl | exact plain.elim

theorem isRead_iff {n : Nat} {call : Call} : isRead n call = true ↔ call.query = .link (.read n) := by
  obtain ⟨query, reply⟩ := call
  cases query with
  | link query => cases query <;> simp [isRead]
  | _ => simp [isRead]

/-- a pause and the read after it -/
theorem reads_pair (m : Nat) (calls : List Call) (us : UInt64) (n : Nat) (reply : Reply (.link (.read n))) :
    reads m (calls ++ [⟨.delay us, ()⟩] ++ [⟨.link (.read n), reply⟩]) =
      reads m calls + if n = m then 1 else 0 := by
  simp [reads, List.countP_cons, isRead]

theorem pauses_pair (calls : List Call) (us : UInt64) (n : Nat) (reply : Reply (.link (.read n))) :
    pauses (calls ++ [⟨.delay us, ()⟩] ++ [⟨.link (.read n), reply⟩]) = pauses calls + us.toNat := by
  simp [pauses, waited]

/-- where all reads are of one length, that much was taken for each of them at most -/
theorem taken_le_reads {n : Nat} {calls : List Call}
    (only : ∀ call ∈ calls, ∀ m, call.query = .link (.read m) → m = n) : taken calls ≤ reads n calls * n := by
  induction calls with
  | nil => exact Nat.zero_le _
  | cons call calls ih =>
    obtain ⟨first, later⟩ := List.forall_mem_cons.mp only
    have rest := ih later
    have one : took call ≤ (if isRead n call then 1 else 0) * n := by
      obtain ⟨query, reply⟩ := call
      cases query with
      | link query =>
        cases query with
        | read m =>
          obtain rfl := first m rfl
          cases reply <;> simp [took, isRead]
        | _ => exact Nat.zero_le _
      | _ => exact Nat.zero_le _
    have counted : reads n (call :: calls) = reads n calls + if isRead n call then 1 else 0 := List.countP_cons
    rw [taken_cons, counted, Nat.add_mul]
    omega

namespace Session

variable (config : Config)

/-- the pause before a command -/
def settling : Call := ⟨.delay (Word.mulSat config.pollSettleMs Timing.usPerMs), ()⟩

/-- the pause before a chunk -/
def pacing : Call := ⟨.delay (Word.mulSat config.chunkPacingMs Timing.usPerMs), ()⟩

/-- an ACK is out -/
def acknowledged : Call := ⟨.link (.write Response.ack.encode), .ok ()⟩

/-- the line was polled, and there is something to read -/
def noticed : Call := ⟨.link .poll, true⟩

/-- a WRITE was read, or a chunk of its block -/
inductive Writing : Call → Prop
  | command {bytes : Vector UInt8 Command.size} (write : (Command.decode bytes).opcode? = some .write) :
      Writing ⟨.link (.read Command.size), .ok bytes⟩
  | chunk (bytes : Vector UInt8 config.chunkSize.toNat) :
      Writing ⟨.link (.read config.chunkSize.toNat), .ok bytes⟩

/-- the chunks that were asked for since the last command was, counted on -/
def countChunk (n : Nat) (call : Call) : Nat :=
  if isRead Command.size call then 0 else if isRead config.chunkSize.toNat call then n + 1 else n

def chunksSince (calls : List Call) : Nat := calls.foldl (countChunk config) 0

/-! ## On record -/

/-- the ways in which a session can get along on its line, each read with the pause before it -/
inductive Paced : List Call → Prop
  | start : Paced []
  | plain {calls : List Call} {call : Call} (earlier : Paced calls) (plain : Plain call.query) :
      Paced (calls ++ [call])
  /-- a command, once the line has something to read -/
  | command {calls : List Call} {reply : Reply (.link (.read Command.size))}
      (earlier : Paced (calls ++ [noticed])) :
      Paced (calls ++ [noticed] ++ [settling config] ++ [⟨.link (.read Command.size), reply⟩])
  /-- a chunk, once the WRITE or the chunk before it is acknowledged, and no more of them than a block has -/
  | chunk {calls : List Call} {asked : Call} {reply : Reply (.link (.read config.chunkSize.toNat))}
      (earlier : Paced (calls ++ [asked] ++ [acknowledged])) (writing : Writing config asked)
      (room : chunksSince config (calls ++ [asked] ++ [acknowledged]) < blockSize / config.chunkSize.toNat) :
      Paced (calls ++ [asked] ++ [acknowledged] ++ [pacing config] ++
        [⟨.link (.read config.chunkSize.toNat), reply⟩])

/-- after these calls a chunk is expected, and so many in all -/
structure Expecting (left : Nat) (calls : List Call) : Prop where
  paced : Paced config calls
  asked : ∃ before call, Writing config call ∧ calls = before ++ [call] ++ [acknowledged]
  room : chunksSince config calls + left ≤ blockSize / config.chunkSize.toNat

variable {config}

theorem chunksSince_concat (calls : List Call) (call : Call) :
    chunksSince config (calls ++ [call]) = countChunk config (chunksSince config calls) call := by
  rw [chunksSince, List.foldl_append]
  rfl

theorem countChunk_acknowledged (n : Nat) : countChunk config n acknowledged = n := rfl

theorem countChunk_pacing (n : Nat) : countChunk config n (pacing config) = n := rfl

theorem countChunk_command (n : Nat) (reply : Reply (.link (.read Command.size))) :
    countChunk config n ⟨.link (.read Command.size), reply⟩ = 0 := rfl

theorem Paced.plains {past calls : List Call} (earlier : Paced config past)
    (plain : ∀ call ∈ calls, Plain call.query) : Paced config (past ++ calls) := by
  induction calls generalizing past with
  | nil => rwa [List.append_nil]
  | cons call calls ih =>
    obtain ⟨first, later⟩ := List.forall_mem_cons.mp plain
    rw [List.append_cons]
    exact ih (earlier.plain first) later

variable {σ : Type} {answer : board.Answerer σ} {s s' : σ} {past calls : List Call}

theorem Expecting.read {left : Nat} (h : Expecting config (left + 1) past)
    (reply : Reply (.link (.read config.chunkSize.toNat))) :
    Paced config (past ++ [pacing config] ++ [⟨.link (.read config.chunkSize.toNat), reply⟩]) := by
  obtain ⟨before, call, writing, rfl⟩ := h.asked
  have room := h.room
  exact h.paced.chunk writing (by omega)

theorem paced_answering {α : Type} {d : Action α} {ended : Except (Stop Error) α} (earlier : Paced config past)
    (h : Recorded answer d s calls ended s') (only : d.Only Answering) : Paced config (past ++ calls) :=
  earlier.plains fun call mem => (only.recorded h call mem).2

theorem only_dispatch_plain {command : Command} (other : command.opcode? ≠ some .write) (nacks : Bool) :
    (dispatch config nacks command).Only Answering := by
  rw [dispatch]
  split
  · exact only_bind (only_answerChecksum ..) fun _ => trivial
  · contradiction
  · exact ⟨⟨.reset, trivial⟩, fun _ => trivial⟩
  · trivial
  · exact only_bind (only_respond (.inl rfl)) fun _ => trivial
  all_goals trivial

/-- a demand is not met, and all that follows is left, or it is -/
theorem of_demand {α β : Type} {query : Query} {f : Reply query → Except LinkError α} {next : α → Action β}
    {ended : Except (Stop Error) β}
    (h : Recorded answer (demand (.ask query fun reply => .done (f reply)) >>= next) s calls ended s') :
    ∃ reply s₁ rest, calls = ⟨query, reply⟩ :: rest ∧
      ((∃ e why, f reply = .error e ∧ rest = [] ∧ ended = .error why) ∨
        ∃ value, f reply = .ok value ∧ Recorded answer (next value) s₁ rest ended s') := by
  obtain ⟨rest, rfl, after⟩ := Recorded.of_ask h
  refine ⟨_, (answer query s).2, rest, rfl, ?_⟩
  cases met : f (answer query s).1 with
  | error e =>
    simp only [met] at after
    obtain ⟨rfl, rfl, -⟩ := after.unique (recorded_stop _ _)
    exact .inl ⟨e, _, rfl, rfl, rfl⟩
  | ok value =>
    simp only [met] at after
    exact .inr ⟨value, rfl, after⟩

section
variable (fit : chunksFit config.chunkSize = true)
include fit

/-- a chunk is no command -/
theorem chunk_ne_command : config.chunkSize.toNat ≠ Command.size := by
  intro same
  have whole := ((Board.chunksFit_iff config.chunkSize).mp fit).2
  rw [same] at whole
  cases whole

theorem countChunk_chunk (n : Nat) (reply : Reply (.link (.read config.chunkSize.toNat))) :
    countChunk config n ⟨.link (.read config.chunkSize.toNat), reply⟩ = n + 1 := by
  have other := chunk_ne_command fit
  simp [countChunk, isRead, other]

theorem Expecting.next {left : Nat} (h : Expecting config (left + 1) past)
    (bytes : Vector UInt8 config.chunkSize.toNat) :
    Expecting config left
      (past ++ [pacing config] ++ [⟨.link (.read config.chunkSize.toNat), .ok bytes⟩] ++ [acknowledged]) where
  paced := (h.read (.ok bytes)).plain trivial
  asked := ⟨_, _, .chunk bytes, rfl⟩
  room := by
    have counted : chunksSince config (past ++ [pacing config] ++
        [⟨.link (.read config.chunkSize.toNat), .ok bytes⟩] ++ [acknowledged]) = chunksSince config past + 1 := by
      simp only [chunksSince_concat, countChunk_acknowledged, countChunk_pacing, countChunk_chunk fit]
    have room := h.room
    omega

theorem paced_chunk {left : Nat} {ended : Except (Stop Error) (List UInt8)}
    (expecting : Expecting config (left + 1) past)
    (h : Recorded answer (receiveChunk config config.chunkSize.toNat) s calls ended s') :
    Paced config (past ++ calls) ∧ ∀ bytes, ended = .ok bytes → Expecting config left (past ++ calls) := by
  obtain ⟨calls, rfl, reading⟩ := Recorded.of_ask h
  obtain ⟨reply, s₁, calls, rfl, missed | ⟨bytes, got, saying⟩⟩ := of_demand reading
  · obtain ⟨e, why, -, rfl, rfl⟩ := missed
    refine ⟨?_, nofun⟩
    rw [List.append_cons]
    exact expecting.read reply
  · obtain rfl : reply = .ok bytes := got
    obtain ⟨said, s₂, calls, rfl, missed | ⟨value, out, ending⟩⟩ := of_demand saying
    · obtain ⟨e, why, -, rfl, rfl⟩ := missed
      refine ⟨?_, nofun⟩
      rw [List.append_cons, List.append_cons]
      exact (expecting.read (.ok bytes)).plain trivial
    · obtain rfl : said = .ok value := out
      obtain ⟨rfl, -, -⟩ := ending.unique (recorded_done _ _)
      have next := expecting.next fit bytes
      rw [List.append_cons, List.append_cons]
      exact ⟨next.paced, fun _ _ => next⟩

theorem paced_chunks {left : Nat} {ended : Except (Stop Error) (List (List UInt8))}
    (expecting : Expecting config left past)
    (h : Recorded answer ((List.replicate left config.chunkSize.toNat).mapM (receiveChunk config)) s calls ended s') :
    Paced config (past ++ calls) := by
  induction left generalizing past s calls s' ended with
  | zero =>
    obtain ⟨rfl, -, -⟩ := h.unique (recorded_done _ s)
    rw [List.append_nil]
    exact expecting.paced
  | succ left ih =>
    rw [List.replicate_succ, List.mapM_cons] at h
    rcases h.of_bind with ⟨why, rfl, stopped⟩ | ⟨first, bytes, s₁, rest, rfl, received, onward⟩
    · exact (paced_chunk fit expecting stopped).1
    · have next := (paced_chunk fit expecting received).2 bytes rfl
      rw [← List.append_assoc]
      rcases onward.of_bind with ⟨why, rfl, stopped⟩ | ⟨others, chunks, s₂, calls, rfl, received, ending⟩
      · exact ih next stopped
      · obtain ⟨rfl, -, -⟩ := ending.unique (recorded_done _ s₂)
        rw [List.append_nil]
        exact ih next received

theorem paced_block {ended : Except (Stop Error) (List UInt8)}
    (expecting : Expecting config (blockSize / config.chunkSize.toNat) past)
    (h : Recorded answer (receiveBlock config) s calls ended s') : Paced config (past ++ calls) := by
  rw [receiveBlock, if_neg (Board.nonzero_of_fit fit), Board.chunkLengths_of_fit fit, ← bind_pure_comp] at h
  rcases h.of_bind with ⟨why, rfl, stopped⟩ | ⟨first, chunks, s₁, rest, rfl, received, ending⟩
  · exact paced_chunks fit expecting stopped
  · obtain ⟨rfl, -, -⟩ := ending.unique (recorded_done _ s₁)
    rw [List.append_nil]
    exact paced_chunks fit expecting received

/-- a WRITE was read -/
theorem paced_replace {nacks : Bool} {block : UInt16} {ended : Except (Stop Error) Unit} {before : List Call}
    {bytes : Vector UInt8 Command.size} (write : (Command.decode bytes).opcode? = some .write)
    (earlier : Paced config (before ++ [⟨.link (.read Command.size), .ok bytes⟩]))
    (h : Recorded answer (replace config nacks block) s calls ended s') :
    Paced config (before ++ [⟨.link (.read Command.size), .ok bytes⟩] ++ calls) := by
  obtain ⟨said, s₁, calls, rfl, missed | ⟨value, out, taking⟩⟩ := of_demand h
  · obtain ⟨e, why, -, rfl, rfl⟩ := missed
    exact earlier.plain trivial
  obtain rfl : said = .ok value := out
  have expecting : Expecting config (blockSize / config.chunkSize.toNat)
      (before ++ [⟨.link (.read Command.size), .ok bytes⟩] ++ [acknowledged]) := by
    refine ⟨earlier.plain trivial, ⟨before, _, .command write, rfl⟩, ?_⟩
    simp only [chunksSince_concat, countChunk_acknowledged, countChunk_command, Nat.zero_add, Nat.le_refl]
  rw [List.append_cons]
  rcases taking.of_bind with ⟨why, rfl, stopped⟩ | ⟨first, content, s₂, rest, rfl, received, installing⟩
  · exact paced_block fit expecting stopped
  · rw [← List.append_assoc]
    have full := (yields_receiveBlock config).run received.run
    exact paced_answering (paced_block fit expecting received) installing (only_install nacks block full)

/-- a command is read and carried out -/
theorem paced_heed {nacks : Bool} {ended : Except (Stop Error) Step} (earlier : Paced config (past ++ [noticed]))
    (h : Recorded answer (heed config nacks) s calls ended s') : Paced config (past ++ [noticed] ++ calls) := by
  obtain ⟨calls, rfl, reading⟩ := Recorded.of_ask h
  obtain ⟨reply, s₁, calls, rfl, missed | ⟨command, got, dispatching⟩⟩ := of_demand reading
  · obtain ⟨e, why, -, rfl, rfl⟩ := missed
    rw [List.append_cons]
    exact earlier.command
  · cases reply with
    | error e => cases got
    | ok bytes =>
      obtain rfl : Command.decode bytes = command := Except.ok.inj got
      rw [List.append_cons, List.append_cons]
      have read : Paced config (past ++ [noticed] ++ [settling config] ++
          [⟨.link (.read Command.size), .ok bytes⟩]) := earlier.command
      by_cases write : (Command.decode bytes).opcode? = some .write
      · rw [dispatch, write] at dispatching
        rcases dispatching.of_bind with ⟨why, rfl, stopped⟩ | ⟨first, value, s₂, rest, rfl, replaced, ending⟩
        · exact paced_replace fit write read stopped
        · obtain ⟨rfl, -, -⟩ := ending.unique (recorded_done _ s₂)
          rw [List.append_nil]
          exact paced_replace fit write read replaced
      · exact paced_answering read dispatching (only_dispatch_plain write nacks)

variable {suits : Query → σ → Prop} {rounds : Nat} {nacks : Bool} {last : UInt64}

theorem Round.paced {ended : Except (Stop Error) (Step × UInt64)} (earlier : Paced config past)
    (h : Round answer suits config nacks last s calls ended s') : Paced config (past ++ calls) := by
  have noticing : Paced config (past ++ [noticed]) := earlier.plain trivial
  cases h with
  | idle polled kept => exact earlier.plain trivial
  | cut polled kept heeded all =>
    rw [List.append_cons]
    exact paced_heed fit noticing heeded
  | heeded polled kept heeded all looked timed =>
    rw [List.append_cons, ← List.append_assoc]
    exact (paced_heed fit noticing heeded).plain trivial

theorem Course.paced {ended : Except (Stop Error) Outcome} (earlier : Paced config past)
    (h : Course answer suits config rounds nacks last s calls ended s') : Paced config (past ++ calls) := by
  induction h generalizing past with
  | spent =>
    rw [List.append_nil]
    exact earlier
  | cut round => exact round.paced fit earlier
  | left round => exact round.paced fit earlier
  | late round looked timed silent =>
    rw [← List.append_assoc]
    exact (round.paced fit earlier).plain trivial
  | goes round looked timed soon rest ih =>
    rw [← List.append_assoc, List.append_cons]
    exact ih ((round.paced fit earlier).plain trivial)

theorem paced_session {ended : Except (Stop Error) Outcome}
    (h : Recorded answer (Session.run config rounds) s calls ended s') : Paced config calls := by
  have all : (Session.run config rounds).Throughout answer (fun _ _ => True) s :=
    throughout_of_forall (fun _ _ => trivial) _ s
  have set (reply : Reply (.flash .init)) : Paced config [⟨.flash .init, reply⟩] := Paced.start.plain trivial
  cases begun h all with
  | refused setUp => exact set _
  | @opened s₁ s₂ s' start calls ended setUp kept looked timed course =>
    have opened : Paced config ([⟨.flash .init, .ok ()⟩] ++ [⟨.now, start⟩]) := (set (.ok ())).plain trivial
    exact course.paced fit opened

end

/-! ## Places -/

variable (config) in
/-- where a call of a session can stand, between the calls before it and the calls after it -/
inductive Placed (past : List Call) : Call → List Call → Prop
  | plain {call : Call} {rest : List Call} (plain : Plain call.query) : Placed past call rest
  | beforeCommand {reply : Reply (.link (.read Command.size))} {rest : List Call} :
      Placed past (settling config) (⟨.link (.read Command.size), reply⟩ :: rest)
  | command {before : List Call} {reply : Reply (.link (.read Command.size))} {rest : List Call}
      (settled : past = before ++ [noticed] ++ [settling config]) :
      Placed past ⟨.link (.read Command.size), reply⟩ rest
  | beforeChunk {reply : Reply (.link (.read config.chunkSize.toNat))} {rest : List Call} :
      Placed past (pacing config) (⟨.link (.read config.chunkSize.toNat), reply⟩ :: rest)
  | chunk {before : List Call} {asked : Call} {reply : Reply (.link (.read config.chunkSize.toNat))}
      {rest : List Call} (writing : Writing config asked) (paced : past = before ++ [asked] ++ [acknowledged] ++ [pacing config])
      (room : chunksSince config past < blockSize / config.chunkSize.toNat) :
      Placed past ⟨.link (.read config.chunkSize.toNat), reply⟩ rest

theorem Placed.more {call : Call} {rest : List Call} (h : Placed config past call rest) (more : List Call) :
    Placed config past call (rest ++ more) := by
  cases h with
  | plain plain => exact .plain plain
  | beforeCommand => exact .beforeCommand
  | command settled => exact .command settled
  | beforeChunk => exact .beforeChunk
  | chunk writing paced room => exact .chunk writing paced room

/-- each call of a session stands in a place for it -/
theorem Paced.placed {call : Call} {rest : List Call} (h : Paced config calls)
    (split : calls = past ++ call :: rest) : Placed config past call rest := by
  induction h generalizing past call rest with
  | start => simp at split
  | plain earlier plain ih =>
    rcases split_concat split with ⟨rfl, rfl, rfl⟩ | ⟨rest, rfl, split₁⟩
    · exact .plain plain
    · exact (ih split₁).more _
  | command earlier ih =>
    rcases split_concat split with ⟨rfl, rfl, rfl⟩ | ⟨rest, rfl, split₁⟩
    · exact .command rfl
    rcases split_concat split₁ with ⟨rfl, rfl, rfl⟩ | ⟨rest, rfl, split₂⟩
    · exact .beforeCommand
    · exact ((ih split₂).more _).more _
  | chunk earlier writing room ih =>
    rcases split_concat split with ⟨rfl, rfl, rfl⟩ | ⟨rest, rfl, split₁⟩
    · exact .chunk writing rfl (by rwa [chunksSince_concat, countChunk_pacing])
    rcases split_concat split₁ with ⟨rfl, rfl, rfl⟩ | ⟨rest, rfl, split₂⟩
    · exact .beforeChunk
    · exact ((ih split₂).more _).more _

theorem Placed.of_read {n : Nat} {reply : Reply (.link (.read n))} {rest : List Call}
    (h : Placed config past ⟨.link (.read n), reply⟩ rest) :
    (n = Command.size ∧ ∃ before, past = before ++ [noticed] ++ [settling config]) ∨
      n = config.chunkSize.toNat ∧ chunksSince config past < blockSize / config.chunkSize.toNat ∧
        ∃ before asked, Writing config asked ∧ past = before ++ [asked] ++ [acknowledged] ++ [pacing config] := by
  generalize same : (⟨.link (.read n), reply⟩ : Call) = call at h
  have query := congrArg Interface.Exchange.query same
  cases h with
  | plain plain =>
    rw [← query] at plain
    exact plain.elim
  | beforeCommand => cases query
  | command settled => exact .inl ⟨Link.Query.read.inj (Query.link.inj query), _, settled⟩
  | beforeChunk => cases query
  | chunk writing paced room =>
    exact .inr ⟨Link.Query.read.inj (Query.link.inj query), room, _, _, writing, paced⟩

theorem Placed.of_delay {us : UInt64} {reply : Reply (.delay us)} {rest : List Call}
    (h : Placed config past ⟨.delay us, reply⟩ rest) :
    ∃ n reply' rest', rest = ⟨.link (.read n), reply'⟩ :: rest' := by
  generalize same : (⟨.delay us, reply⟩ : Call) = call at h
  have query := congrArg Interface.Exchange.query same
  cases h with
  | plain plain =>
    rw [← query] at plain
    exact plain.elim
  | beforeCommand => exact ⟨_, _, _, rfl⟩
  | command settled => cases query
  | beforeChunk => exact ⟨_, _, _, rfl⟩
  | chunk writing paced room => cases query

variable (config) in
/-- what comes right before and right after the reads and pauses of a session -/
structure Pacing (calls : List Call) : Prop where
  /-- between the poll that noticed a command and its bytes there is one pause -/
  command : ∀ past reply rest, calls = past ++ ⟨.link (.read Command.size), reply⟩ :: rest →
    ∃ before, past = before ++ [noticed, settling config]
  /-- between the WRITE or the chunk before it and a chunk there is an ACK, and then one pause -/
  chunk : ∀ past reply rest, calls = past ++ ⟨.link (.read config.chunkSize.toNat), reply⟩ :: rest →
    ∃ before asked, Writing config asked ∧ past = before ++ [asked, acknowledged, pacing config]
  /-- nothing else is read -/
  read : ∀ n reply, (⟨.link (.read n), reply⟩ : Call) ∈ calls → n = Command.size ∨ n = config.chunkSize.toNat
  /-- there is no pause but before a read -/
  pause : ∀ past us reply rest, calls = past ++ ⟨.delay us, reply⟩ :: rest →
    ∃ n reply' rest', rest = ⟨.link (.read n), reply'⟩ :: rest'
  /-- up to the next command no more chunks are asked for than a block has, and all of them if the block was taken
  in full -/
  block : ∀ past reply work rest, calls = past ++ ⟨.link (.read Command.size), reply⟩ :: (work ++ rest) →
    reads Command.size work = 0 →
      reads config.chunkSize.toNat work ≤ blockSize / config.chunkSize.toNat ∧
      (taken work = blockSize → reads config.chunkSize.toNat work = blockSize / config.chunkSize.toNat)

section
variable (fit : chunksFit config.chunkSize = true)
include fit

/-- the chunks that were asked for since a command -/
theorem reads_since {reply : Reply (.link (.read Command.size))} {work rest : List Call} (h : Paced config calls)
    (split : calls = past ++ ⟨.link (.read Command.size), reply⟩ :: (work ++ rest))
    (none_ : reads Command.size work = 0) :
    chunksSince config (past ++ ⟨.link (.read Command.size), reply⟩ :: work) =
        reads config.chunkSize.toNat work ∧
      reads config.chunkSize.toNat work ≤ blockSize / config.chunkSize.toNat := by
  induction work using List.reverseRecOn generalizing rest with
  | nil =>
    refine ⟨?_, Nat.zero_le _⟩
    rw [chunksSince_concat, countChunk_command]
    rfl
  | append_singleton work call ih =>
    have earlier : calls = past ++ ⟨.link (.read Command.size), reply⟩ :: (work ++ call :: rest) := by
      simpa using split
    rw [reads_append, reads_singleton] at none_
    have other : isRead Command.size call = false := by
      by_contra is
      simp [is] at none_
    obtain ⟨counted, bound⟩ := ih earlier (by omega)
    rw [← List.cons_append, ← List.append_assoc, chunksSince_concat, counted, countChunk, other, reads_append,
      reads_singleton]
    by_cases chunk : isRead config.chunkSize.toNat call = true
    · -- a chunk is asked for only while there is room for it
      have room : chunksSince config (past ++ ⟨.link (.read Command.size), reply⟩ :: work) <
          blockSize / config.chunkSize.toNat := by
        obtain ⟨query, reply'⟩ := call
        obtain rfl : query = .link (.read config.chunkSize.toNat) := isRead_iff.mp chunk
        have placed : Placed config (past ++ ⟨.link (.read Command.size), reply⟩ :: work) _ rest :=
          h.placed (by simpa using split)
        rcases placed.of_read with ⟨same, -⟩ | ⟨-, room, -⟩
        · exact absurd same (chunk_ne_command fit)
        · exact room
      rw [chunk]
      exact ⟨rfl, by simp; omega⟩
    · rw [Bool.not_eq_true] at chunk
      rw [chunk]
      exact ⟨rfl, bound⟩

theorem Paced.pacing (h : Paced config calls) : Pacing config calls where
  command := by
    intro past reply rest split
    rcases (h.placed split).of_read with ⟨-, before, settled⟩ | ⟨same, -⟩
    · exact ⟨before, by simpa using settled⟩
    · exact absurd same.symm (chunk_ne_command fit)
  chunk := by
    intro past reply rest split
    rcases (h.placed split).of_read with ⟨same, -⟩ | ⟨-, -, before, asked, writing, paced⟩
    · exact absurd same (chunk_ne_command fit)
    · exact ⟨before, asked, writing, by simpa using paced⟩
  read := by
    intro n reply mem
    obtain ⟨past, rest, split⟩ := List.append_of_mem mem
    exact (h.placed split).of_read.imp And.left And.left
  pause := by
    intro past us reply rest split
    exact (h.placed split).of_delay
  block := by
    intro past reply work rest split none_
    have bound := (reads_since fit h split none_).2
    refine ⟨bound, fun full => Nat.le_antisymm bound ?_⟩
    have only : ∀ call ∈ work, ∀ m, call.query = .link (.read m) → m = config.chunkSize.toNat := by
      intro call mem m read
      have other := List.countP_eq_zero.mp none_ call mem
      obtain ⟨query, reply'⟩ := call
      obtain rfl : query = .link (.read m) := read
      have mem' : (⟨.link (.read m), reply'⟩ : Call) ∈ calls := by
        rw [split]
        simp [mem]
      obtain ⟨before, after, place⟩ := List.append_of_mem mem'
      rcases (h.placed place).of_read with ⟨rfl, -⟩ | ⟨same, -⟩
      · exact absurd (isRead_iff.mpr rfl) other
      · exact same
    have enough := taken_le_reads only
    have total := Board.total_of_fit fit
    rw [full, ← total] at enough
    exact Nat.le_of_mul_le_mul_right enough (Board.positive_of_fit fit)

/-- the pauses of a session add up to one for each command and one for each chunk that was asked for -/
theorem Paced.total (h : Paced config calls) :
    pauses calls = reads Command.size calls * (Word.mulSat config.pollSettleMs Timing.usPerMs).toNat +
      reads config.chunkSize.toNat calls * (Word.mulSat config.chunkPacingMs Timing.usPerMs).toNat := by
  induction h with
  | start => simp [pauses, reads]
  | plain earlier plain ih =>
    rw [pauses_append, reads_append, reads_append, reads_singleton, reads_singleton, isRead_of_plain plain,
      isRead_of_plain plain, ih]
    simp [pauses, waited_of_plain plain]
  | command earlier ih =>
    rw [settling, pauses_pair, reads_pair, reads_pair, if_pos rfl, if_neg (chunk_ne_command fit).symm, ih]
    simp only [Nat.add_mul, Nat.one_mul, Nat.zero_mul]
    omega
  | chunk earlier writing room ih =>
    rw [Session.pacing, pauses_pair, reads_pair, reads_pair, if_pos rfl, if_neg (chunk_ne_command fit), ih]
    simp only [Nat.add_mul, Nat.one_mul, Nat.zero_mul]
    omega

end

end Session

end Device

namespace Board

/-! ## The clock -/

variable {α : Type} {d : Action α} {b b' : Board} {calls : List Call} {ended : Except (Stop Error) α}

theorem delayedUs_peek (c : Clock) : c.peek.2.delayedUs = c.delayedUs := by
  rw [Clock.peek]
  split <;> rfl

theorem delayedUs_read (c : Clock) : c.read.2.delayedUs = c.delayedUs := by
  rw [Clock.read]
  split
  · rfl
  · exact delayedUs_peek c

theorem delayedUs_delay (us : UInt64) (c : Clock) : (c.delay us).delayedUs = c.delayedUs + us := by
  rw [Clock.delay]
  dsimp only
  split <;> rfl

/-- the clock counts the pauses, and nothing else -/
theorem answer_delayedUs (query : Query) (b : Board) :
    (answer query b).2.line.clock.delayedUs.toNat =
      (b.line.clock.delayedUs.toNat + waited ⟨query, (answer query b).1⟩) % UInt64.size := by
  have kept (h : (answer query b).2.line.clock.delayedUs = b.line.clock.delayedUs) :
      (answer query b).2.line.clock.delayedUs.toNat = (b.line.clock.delayedUs.toNat + 0) % UInt64.size := by
    rw [h]
    exact (Nat.mod_eq_of_lt b.line.clock.delayedUs.toNat_lt).symm
  cases query with
  | link query =>
    refine kept ?_
    cases query with
    | read n =>
      rw [answer_read]
      by_cases enough : n ≤ b.line.incoming.length
      · obtain ⟨bytes, now, ran, -⟩ := Line.read_enough enough
        rw [ran]
      · rw [Line.read_short (Nat.lt_of_not_le enough)]
    | write bytes =>
      obtain ⟨reply, sent, left, ran⟩ := b.line.write_eq bytes
      show (b.line.write bytes).2.clock.delayedUs = _
      rw [ran]
    | poll => exact delayedUs_peek _
  | now => exact kept (delayedUs_read _)
  | delay us =>
    show (b.line.clock.delay us).delayedUs.toNat = _
    rw [delayedUs_delay, UInt64.toNat_add]
    rfl
  | install marker =>
    refine kept ?_
    show (b.install marker).2.line.clock.delayedUs = _
    rw [install]
    split <;> rfl
  | _ => exact kept rfl

theorem delayedUs_of_recorded (h : Recorded answer d b calls ended b') :
    b'.line.clock.delayedUs.toNat = (b.line.clock.delayedUs.toNat + pauses calls) % UInt64.size := by
  have all : d.Throughout answer (fun _ _ => True) b := throughout_of_forall (fun _ _ => trivial) d b
  refine h.along (motive := fun b calls b' =>
    b'.line.clock.delayedUs.toNat = (b.line.clock.delayedUs.toNat + pauses calls) % UInt64.size) all ?_ ?_
  · intro b
    exact (Nat.mod_eq_of_lt b.line.clock.delayedUs.toNat_lt).symm
  · intro query b calls b' _ ih
    have first : pauses (⟨query, (answer query b).1⟩ :: calls) =
        waited ⟨query, (answer query b).1⟩ + pauses calls := List.sum_cons
    rw [ih, answer_delayedUs, Nat.mod_add_mod, first, Nat.add_assoc]

/-- each read of a session is paced by a pause of its own, and what the clock has counted after it are these pauses:
one for each command and one for each chunk that was asked for -/
theorem session_paced {config : Config} (valid : config.validate = .ok ()) (rounds : Nat) (b : Board) :
    Pacing config ((Session.run config rounds).transcript answer b) ∧
    ((Session.run config rounds).run answer b).2.line.clock.delayedUs.toNat =
      (b.line.clock.delayedUs.toNat +
        reads Command.size ((Session.run config rounds).transcript answer b) *
          min (config.pollSettleMs.toNat * Timing.usPerMs.toNat) (UInt64.size - 1) +
        reads config.chunkSize.toNat ((Session.run config rounds).transcript answer b) *
          min (config.chunkPacingMs.toNat * Timing.usPerMs.toNat) (UInt64.size - 1)) % UInt64.size := by
  have fit := chunksFit_of_validate valid
  have recorded := recorded (Prod.eta ((Session.run config rounds).run answer b)).symm
  have paced := paced_session fit recorded
  refine ⟨paced.pacing fit, ?_⟩
  rw [delayedUs_of_recorded recorded, paced.total fit, Word.toNat_mulSat_eq_min, Word.toNat_mulSat_eq_min,
    Nat.add_assoc]

/-- a host asks for NACKs and sends a WRITE with its block, and the line is closed to the last ACK -/
def cutShort : Board :=
  { standard 1 with
    line := ({ clock := .virtual 1, writesLeft := some 65 } : Line).push 0
      ((Request.bare .nackMode 0).encode ++ (Request.write 0 erasedBlock).encode) }

/-- two commands and all chunks of a block were paced -/
theorem session_paced_write :
    let calls := (Session.run {} 8).transcript answer cutShort
    ({} : Config).validate = .ok () ∧ Pacing {} calls ∧ reads Command.size calls = 2 ∧ reads 64 calls = 64 ∧
      ((Session.run {} 8).run answer cutShort).2.line.clock.delayedUs.toNat = 2 * 10000 + 64 * 33000 := by
  have counts : (reads Command.size ((Session.run {} 8).transcript answer cutShort),
      reads 64 ((Session.run {} 8).transcript answer cutShort)) = (2, 64) := by decide +kernel
  obtain ⟨commands, chunks⟩ := Prod.mk.inj counts
  have valid : ({} : Config).validate = .ok () := rfl
  obtain ⟨pacing, total⟩ := session_paced valid 8 cutShort
  refine ⟨valid, pacing, commands, chunks, total.trans ?_⟩
  have size : ({} : Config).chunkSize.toNat = 64 := rfl
  rw [commands, size, chunks]
  rfl

end Board

end FlashRescue
