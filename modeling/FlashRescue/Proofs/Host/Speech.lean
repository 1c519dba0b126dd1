import FlashRescue.Proofs.Bench.Stream
import FlashRescue.Proofs.Host.Stops

/-!
# What a client says

The bytes that a client tries to send, whatever its machine replies, and the commands that a board takes
them for.

* `Host.spoken`       the bytes that were to be sent in a run;
* `Host.commands`     the commands in a byte string; the last may lack some of its content;
* `Host.Answered`     CHECKSUM was sent last, and answered;
* `Host.Synced`       all that is said about a block that is to have a content; `synced`.
-/

namespace FlashRescue.Host

open Dialogue

/-! ## Bytes -/

/-- what a call would put on the line -/
def said : Call → List UInt8
  | ⟨.link (.write bytes), _⟩ => bytes
  | _ => []

/-- all that was to be sent -/
def spoken (calls : List Call) : List UInt8 := calls.flatMap said

theorem spoken_append (calls calls' : List Call) : spoken (calls ++ calls') = spoken calls ++ spoken calls' :=
  List.flatMap_append

theorem spoken_cons (call : Call) (calls : List Call) : spoken (call :: calls) = said call ++ spoken calls :=
  List.flatMap_cons

theorem said_quiet {call : Call} (quiet : isWrite call.query = false) : said call = [] := by
  obtain ⟨query, reply⟩ := call
  cases query with
  | link query =>
    cases query with
    | write bytes => cases quiet
    | _ => rfl
  | _ => rfl

theorem spoken_quiet {calls : List Call} (quiet : ∀ call ∈ calls, isWrite call.query = false) :
    spoken calls = [] :=
  List.flatMap_eq_nil_iff.mpr fun call mem => said_quiet (quiet call mem)

/-- a request is made some number of times -/
theorem spoken_writes {r : Request} {calls : List Call}
    (writes : ∀ call ∈ calls, Writes r.encode call.query) :
    ∃ k, spoken calls = (List.replicate k r).flatMap Request.encode := by
  induction calls with
  | nil => exact ⟨0, rfl⟩
  | cons call calls ih =>
    obtain ⟨first, rest⟩ := List.forall_mem_cons.mp writes
    obtain ⟨k, same⟩ := ih rest
    rw [spoken_cons, same]
    cases kind : isWrite call.query with
    | false => exact ⟨k, by rw [said_quiet kind, List.nil_append]⟩
    | true =>
      obtain ⟨query, reply⟩ := call
      cases query with
      | link query =>
        cases query with
        | write bytes =>
          cases first
          exact ⟨k + 1, rfl⟩
        | _ => cases kind
      | _ => cases kind

/-! ## Commands -/

/-- the command at the head of a byte string -/
def lead (bytes : List UInt8) : List Command :=
  if enough : (bytes.take Command.size).length = Command.size then
    [Command.decode ⟨(bytes.take Command.size).toArray, enough⟩]
  else []

/-- the commands in a byte string, as a board takes them that waits for a command.  The last may lack some of
its content -/
def commands (bytes : List UInt8) : List Command :=
  (Request.cut bytes).1.map Request.command ++ lead (Request.cut bytes).2

theorem commands_nil : commands [] = [] := by
  rw [commands, Request.cut_nil]
  rfl

theorem commands_flatMap {requests : List Request} (whole : ∀ r ∈ requests, r.Whole) (bytes : List UInt8) :
    commands (requests.flatMap Request.encode ++ bytes) =
      requests.map Request.command ++ commands bytes := by
  rw [commands, Request.cut_flatMap whole, List.map_append, List.append_assoc, commands]

theorem commands_requests {requests : List Request} (whole : ∀ r ∈ requests, r.Whole) :
    commands (requests.flatMap Request.encode) = requests.map Request.command := by
  have all := commands_flatMap whole []
  rwa [List.append_nil, commands_nil, List.append_nil] at all

/-- a WRITE that is cut short -/
theorem commands_cut (block : UInt16) {content : List UInt8} (short : content.length < blockSize) :
    commands ((Command.of .write block).encode ++ content) = [.of .write block] := by
  rw [commands, Request.cut_of_none (Replay.next?_write block short), List.map_nil, List.nil_append]
  exact congrArg ([·]) (Command.decode_encode (.of .write block))

/-! ## Answers -/

section
variable {σ α : Type} {answer : machine.Answerer σ} {s s' : σ} {calls : List Call}

theorem recorded_write (bytes : List UInt8) (s : σ) :
    Recorded answer (demand (Link.write bytes) : Talk Unit) s
      [⟨.link (.write bytes), (answer (.link (.write bytes)) s).1⟩]
      ((answer (.link (.write bytes)) s).1.mapError fun e => Stop.failed (Error.packet e))
      (answer (.link (.write bytes)) s).2 := by
  generalize replied : answer (.link (.write bytes)) s = exchange
  obtain ⟨reply, s₁⟩ := exchange
  refine .ask replied ?_
  cases reply with
  | ok value => exact recorded_done () s₁
  | error e => exact recorded_stop (.failed (Error.packet e)) s₁

theorem spoken_demand {bytes : List UInt8} {ended : Except (Stop Error) Unit}
    (h : Recorded answer (demand (Link.write bytes) : Talk Unit) s calls ended s') : spoken calls = bytes := by
  obtain ⟨rfl, -, -⟩ := h.unique (recorded_write bytes s)
  exact List.append_nil bytes

namespace Client

theorem recorded_sent {bytes : List UInt8}
    (h : Recorded answer (demand (Link.write bytes) : Talk Unit) s calls (.ok ()) s') :
    calls = [⟨.link (.write bytes), .ok ()⟩] := by
  obtain ⟨rfl, same, -⟩ := h.unique (recorded_write bytes s)
  generalize (answer (.link (.write bytes)) s).1 = reply at same ⊢
  cases reply with
  | ok value => rfl
  | error e => cases same

theorem recorded_awaitAck {op : Opcode} {block : UInt16}
    (h : Recorded answer (awaitAck op block) s calls (.ok ()) s') :
    ∃ ack, calls = [⟨.link (.read Response.width), .ok ack⟩] ∧ (Response.decode ack).isAck = true := by
  obtain ⟨calls, rfl, reading⟩ := Recorded.of_ask h
  generalize answer (.link (.read Response.width)) s = replied at reading ⊢
  obtain ⟨reply, s₁⟩ := replied
  cases reply with
  | error e =>
    obtain ⟨-, same, -⟩ := reading.unique (recorded_stop (.failed (Error.packet e)) s₁)
    cases same
  | ok ack =>
    have judged : Recorded answer (if (Response.decode ack).isAck then pure ()
        else if (Response.decode ack).isNack then throw (.nack op block) else throw (.noAck op) : Talk Unit)
        s₁ calls (.ok ()) s' := reading
    split at judged
    · rename_i acknowledged
      obtain ⟨rfl, -, -⟩ := judged.unique (recorded_done () s₁)
      exact ⟨ack, rfl, acknowledged⟩
    · split at judged
      · obtain ⟨-, same, -⟩ := judged.unique (recorded_stop (.failed (Error.nack op block)) s₁)
        cases same
      · obtain ⟨-, same, -⟩ := judged.unique (recorded_stop (.failed (Error.noAck op)) s₁)
        cases same

theorem recorded_readChecksum {crc : UInt32}
    (h : Recorded answer (demand Link.readChecksum : Talk UInt32) s calls (.ok crc) s') :
    ∃ digits : Vector UInt8 4, calls = [⟨.link (.read 4), .ok digits⟩] ∧
      crc = UInt32.ofNat (ByteOrder.little.decode digits.toList) := by
  obtain ⟨calls, rfl, reading⟩ := Recorded.of_ask h
  generalize answer (.link (.read 4)) s = replied at reading ⊢
  obtain ⟨reply, s₁⟩ := replied
  cases reply with
  | error e =>
    obtain ⟨-, same, -⟩ := reading.unique (recorded_stop (.failed (Error.packet e)) s₁)
    cases same
  | ok digits =>
    obtain ⟨rfl, same, -⟩ := reading.unique
      (recorded_done (UInt32.ofNat (ByteOrder.little.decode digits.toList)) s₁)
    cases same
    exact ⟨digits, rfl, rfl⟩

end Client

/-- the last that was asked: CHECKSUM was sent, acknowledged, and answered with this checksum -/
def Answered (block : UInt16) (crc : UInt32) (calls : List Call) : Prop :=
  ∃ (before : List Call) (ack : Vector UInt8 Response.width) (digits : Vector UInt8 4),
    calls = before ++ [⟨.link (.write (Command.of .checksum block).encode), .ok ()⟩,
      ⟨.link (.read Response.width), .ok ack⟩, ⟨.link (.read 4), .ok digits⟩] ∧
    (Response.decode ack).isAck = true ∧ crc = UInt32.ofNat (ByteOrder.little.decode digits.toList)

theorem Answered.append {block : UInt16} {crc : UInt32} (h : Answered block crc calls)
    (earlier : List Call) : Answered block crc (earlier ++ calls) := by
  obtain ⟨before, ack, digits, rfl, answered⟩ := h
  exact ⟨earlier ++ before, ack, digits, (List.append_assoc ..).symm, answered⟩

namespace Client

theorem answered_checksumOnce {block : UInt16} {crc : UInt32}
    (h : Recorded answer (checksumOnce block) s calls (.ok crc) s') : Answered block crc calls := by
  obtain ⟨first, _, s₁, rest, rfl, sent, waiting⟩ := h.of_bind_ok
  obtain ⟨second, _, s₂, rest, rfl, acknowledged, reading⟩ := waiting.of_bind_ok
  obtain rfl := recorded_sent sent
  obtain ⟨ack, rfl, isAck⟩ := recorded_awaitAck acknowledged
  obtain ⟨digits, rfl, value⟩ := recorded_readChecksum reading
  exact ⟨[], ack, digits, rfl, isAck, value⟩

/-- a request that is answered is answered at its last attempt -/
theorem recorded_insist (c : Client) {request : Talk α} {value : α} (again : Nat)
    (h : Recorded answer (c.insist request again) s calls (.ok value) s') :
    ∃ before last s₁, calls = before ++ last ∧ Recorded answer request s₁ last (.ok value) s' := by
  induction again generalizing s calls with
  | zero =>
    obtain ⟨first, _, s₁, rest, rfl, -, asked⟩ := h.of_bind_ok
    exact ⟨first, rest, s₁, rfl, asked⟩
  | succ again ih =>
    obtain ⟨first, _, s₁, rest, rfl, -, trying⟩ := h.of_bind_ok
    obtain ⟨tries, ended, s₂, rest, rfl, asked, further⟩ := trying.of_bind_ok
    obtain ⟨ended', same, tried⟩ := asked.of_trial
    cases ended with
    | ok v =>
      obtain ⟨rfl, value, rfl⟩ := further.unique (recorded_done v s₂)
      cases value
      cases ended' with
      | ok v' =>
        cases same
        exact ⟨first, tries, s₁, by rw [List.append_nil], tried⟩
      | error why => cases why <;> cases same
    | error e =>
      have further : Recorded answer (if e.isTimeout then c.insist request again else throw e) s₂ rest
        (.ok value) s' := further
      split at further
      · obtain ⟨before, last, s₃, rfl, answered⟩ := ih further
        exact ⟨first ++ (tries ++ before), last, s₃, by simp only [List.append_assoc], answered⟩
      · obtain ⟨-, same, -⟩ := further.unique (recorded_stop (.failed e) s₂)
        cases same

theorem answered_checksum (c : Client) {block : UInt16} {crc : UInt32}
    (h : Recorded answer (c.checksum block) s calls (.ok crc) s') : Answered block crc calls := by
  obtain ⟨before, last, s₁, rfl, answered⟩ := recorded_insist c _ h
  exact (answered_checksumOnce answered).append before

/-! ## A block -/

theorem spoken_sendChunk {block : UInt16} {chunk : List UInt8} {ended : Except (Stop Error) Unit}
    (h : Recorded answer (sendChunk block chunk) s calls ended s') : spoken calls = chunk := by
  rcases h.of_bind with ⟨why, rfl, stopped⟩ | ⟨first, _, s₁, rest, rfl, sent, waiting⟩
  · exact spoken_demand stopped
  · rw [spoken_append, spoken_demand sent, spoken_quiet ((only_awaitAck ..).recorded waiting),
      List.append_nil]

/-- some of the pieces were to be sent, and all of them if all went well -/
theorem spoken_sendChunks {block : UInt16} {pieces : List (List UInt8)}
    {ended : Except (Stop Error) PUnit} (h : Recorded answer (pieces.forM (sendChunk block)) s calls ended s') :
    ∃ i ≤ pieces.length, spoken calls = (pieces.take i).flatten ∧
      ∀ value, ended = .ok value → i = pieces.length := by
  induction pieces generalizing s calls with
  | nil =>
    obtain ⟨rfl, -, -⟩ := h.unique (recorded_done PUnit.unit s)
    exact ⟨0, Nat.le_refl 0, rfl, fun _ _ => rfl⟩
  | cons piece pieces ih =>
    have sending : Recorded answer (sendChunk block piece >>= fun _ => pieces.forM (sendChunk block)) s
      calls ended s' := h
    rcases sending.of_bind with ⟨why, rfl, stopped⟩ | ⟨first, _, s₁, rest, rfl, sent, later⟩
    · refine ⟨1, Nat.le_add_left .., ?_, nofun⟩
      rw [spoken_sendChunk stopped, List.take_one, List.head?_cons, Option.toList_some,
        List.flatten_singleton]
    · obtain ⟨i, le, same, all⟩ := ih later
      refine ⟨i + 1, Nat.succ_le_succ le, ?_, fun value went => congrArg (· + 1) (all value went)⟩
      rw [spoken_append, spoken_sendChunk sent, same, List.take_succ_cons, List.flatten_cons]

/-- the first pieces of a block make up its front -/
theorem flatten_chunks {data : List UInt8} (full : data.length = blockSize) (n : Nat) {i : Nat}
    (le : i ≤ (chunks n data).length) : ((chunks n data).take i).flatten = data.take (i * n) := by
  rw [Replay.chunks_eq n full] at le ⊢
  rw [List.length_map, List.length_range] at le
  rw [← List.map_take, List.take_range, Nat.min_eq_left le]
  clear le
  induction i with
  | zero => rw [Nat.zero_mul, List.take_zero, List.range_zero, List.map_nil, List.flatten_nil]
  | succ i ih =>
    rw [List.range_succ, List.map_append, List.flatten_append, ih, List.map_singleton,
      List.flatten_singleton, Replay.take_piece]

theorem le_chunks {data : List UInt8} (full : data.length = blockSize) {n : Nat} (some_ : n ≠ 0) :
    blockSize ≤ (chunks n data).length * n := by
  rw [Replay.chunks_eq n full, List.length_map, List.length_range]
  have whole := Nat.div_add_mod' (blockSize + (n - 1)) n
  have rest := Nat.mod_lt (blockSize + (n - 1)) (Nat.pos_of_ne_zero some_)
  omega

theorem join_chunks {data : List UInt8} (full : data.length = blockSize) {n : Nat} (some_ : n ≠ 0) :
    (chunks n data).flatten = data := by
  have all := flatten_chunks full n (Nat.le_refl _)
  rwa [List.take_length, List.take_of_length_le (full ▸ le_chunks full some_)] at all

/-- a WRITE is sent with some of its content, and with all of it if all goes well; or nothing is sent, since
what was queued could not be thrown away -/
theorem spoken_write (c : Client) (some_ : c.chunkSize ≠ 0) {block : UInt16} {data : List UInt8}
    (full : data.length = blockSize) {ended : Except (Stop Error) Unit}
    (h : Recorded answer (c.write block data) s calls ended s') :
    (spoken calls = [] ∧ ∃ why, ended = .error why) ∨
      ∃ m ≤ blockSize, spoken calls = (Command.of .write block).encode ++ data.take m ∧
        ((∃ value, ended = .ok value) → m = blockSize) := by
  rw [write, if_neg (not_not_intro full), if_neg some_] at h
  have failed (why : Stop Error) : (∃ value : Unit, Except.error why = .ok value) → 0 = blockSize := by
    rintro ⟨value, same⟩
    cases same
  rcases h.of_bind with ⟨why, rfl, stopped⟩ | ⟨first, _, s₁, rest, rfl, drained, sending⟩
  · exact .inl ⟨spoken_quiet (c.only_discard.recorded stopped), why, rfl⟩
  -- from here on at least the command is sent, and `m` counts the bytes of the content
  refine .inr ?_
  rw [spoken_append, spoken_quiet (c.only_discard.recorded drained), List.nil_append]
  rcases sending.of_bind with ⟨why, rfl, stopped⟩ | ⟨first, _, s₂, rest, rfl, sent, waiting⟩
  · refine ⟨0, Nat.zero_le _, ?_, failed why⟩
    rw [spoken_demand stopped, List.take_zero, List.append_nil]
  rw [spoken_append, spoken_demand sent]
  rcases waiting.of_bind with ⟨why, rfl, stopped⟩ | ⟨first, _, s₃, rest, rfl, acknowledged, streaming⟩
  · refine ⟨0, Nat.zero_le _, ?_, failed why⟩
    rw [spoken_quiet ((only_awaitAck ..).recorded stopped), List.take_zero]
  · obtain ⟨i, le, streamed, all⟩ := spoken_sendChunks streaming
    refine ⟨min (i * c.chunkSize.toNat) blockSize, Nat.min_le_right .., ?_, ?_⟩
    · rw [spoken_append, spoken_quiet ((only_awaitAck ..).recorded acknowledged), List.nil_append, streamed,
        flatten_chunks full _ le, ← full, ← List.take_take, List.take_length]
    · rintro ⟨value, went⟩
      have positive : c.chunkSize.toNat ≠ 0 := fun zero => some_ (UInt64.toNat_inj.mp zero)
      rw [all value went]
      exact Nat.min_eq_right (le_chunks full positive)

end Client

/-! ## A block that is to have a content -/

/-- CHECKSUM, some number of times -/
def asks (block : UInt16) (k : Nat) : List Request := List.replicate k (.bare .checksum block)

/-- what is said about a block that is to have a content: whole requests, and the bytes behind them.  There is
no WRITE, and an error; or the block has the content.  Or its checksum is another one, and a WRITE follows,
which is cut short by an error, or else CHECKSUM is sent again behind it -/
inductive Synced (block : UInt16) (data : List UInt8) :
    List Call → List Request → List UInt8 → Except (Stop Error) Sync → Prop
  | unwritten {calls : List Call} {k : Nat} (why : Stop Error)
      (said : spoken calls = (asks block k).flatMap Request.encode) :
      Synced block data calls (asks block k) [] (.error why)
  | unchanged {calls : List Call} {k : Nat} (said : spoken calls = (asks block k).flatMap Request.encode)
      (answered : Answered block (checksum data) calls) :
      Synced block data calls (asks block k) [] (.ok .unchanged)
  | cut {asked wrote : List Call} {k m : Nat} {crc : UInt32} (why : Stop Error)
      (said : spoken asked = (asks block k).flatMap Request.encode) (answered : Answered block crc asked)
      (differs : crc ≠ checksum data)
      (written : spoken wrote = (Command.of .write block).encode ++ data.take m) (short : m < blockSize) :
      Synced block data (asked ++ wrote) (asks block k) ((Command.of .write block).encode ++ data.take m)
        (.error why)
  | written {asked wrote : List Call} {k j : Nat} {crc : UInt32} {ended : Except (Stop Error) Sync}
      (said : spoken asked = (asks block k).flatMap Request.encode) (answered : Answered block crc asked)
      (differs : crc ≠ checksum data)
      (written : spoken wrote = (Request.write block data :: asks block j).flatMap Request.encode)
      (result : ∀ value, ended = .ok value → value = .written) :
      Synced block data (asked ++ wrote) (asks block k ++ .write block data :: asks block j) [] ended

namespace Client

theorem spoken_asks {α : Type} {d : Talk α} {block : UInt16} {ended : Except (Stop Error) α}
    (only : d.Only (Writes (Command.of .checksum block).encode))
    (h : Recorded answer d s calls ended s') :
    ∃ k, spoken calls = (asks block k).flatMap Request.encode := by
  rw [← Request.encode_bare] at only
  exact spoken_writes (only.recorded h)

theorem spoken_writeVerified (c : Client) (some_ : c.chunkSize ≠ 0) {block : UInt16} {data : List UInt8}
    (full : data.length = blockSize) {ended : Except (Stop Error) Unit}
    (h : Recorded answer (c.writeVerified block data) s calls ended s') :
    (∃ why, ended = .error why ∧ (spoken calls = [] ∨
        ∃ m < blockSize, spoken calls = (Command.of .write block).encode ++ data.take m)) ∨
      ∃ j, spoken calls = (Request.write block data :: asks block j).flatMap Request.encode := by
  have encode (m : Nat) (all : m = blockSize) :
      (Command.of .write block).encode ++ data.take m = (Request.write block data).encode := by
    rw [all, ← full, List.take_length]
    rfl
  rcases h.of_bind with ⟨why, rfl, stopped⟩ | ⟨first, _, s₁, rest, rfl, wrote, reading⟩
  · rcases spoken_write c some_ full stopped with ⟨silent, -⟩ | ⟨m, le, said, -⟩
    · exact .inl ⟨why, rfl, .inl silent⟩
    · rcases Nat.lt_or_eq_of_le le with short | all
      · exact .inl ⟨why, rfl, .inr ⟨m, short, said⟩⟩
      · refine .inr ⟨0, ?_⟩
        rw [said, encode m all]
        exact (List.append_nil _).symm
  · rcases spoken_write c some_ full wrote with ⟨-, why, failed⟩ | ⟨m, -, said, all⟩
    · cases failed
    · obtain ⟨j, asked⟩ : ∃ j, spoken rest = (asks block j).flatMap Request.encode := by
        refine spoken_asks (only_bind (c.only_readBack block) fun actual => ?_) reading
        split <;> trivial
      refine .inr ⟨j, ?_⟩
      rw [spoken_append, said, asked, encode m (all ⟨_, rfl⟩), List.flatMap_cons]

theorem synced (c : Client) (some_ : c.chunkSize ≠ 0) {block : UInt16} {data : List UInt8}
    (full : data.length = blockSize) {ended : Except (Stop Error) Sync}
    (h : Recorded answer (c.sync block data) s calls ended s') :
    ∃ requests left, Synced block data calls requests left ended := by
  rcases h.of_bind with ⟨why, rfl, stopped⟩ | ⟨asked, crc, s₁, rest, rfl, replied, judging⟩
  · obtain ⟨k, said⟩ := spoken_asks (c.only_checksum block) stopped
    exact ⟨_, _, .unwritten why said⟩
  obtain ⟨k, said⟩ := spoken_asks (c.only_checksum block) replied
  have answered := answered_checksum c replied
  split at judging
  · rename_i same
    obtain ⟨rfl, rfl, -⟩ := judging.unique (recorded_done Sync.unchanged s₁)
    rw [List.append_nil]
    exact ⟨_, _, .unchanged said (same ▸ answered)⟩
  · rename_i differs
    have wrote : ∃ ended', Recorded answer (c.writeVerified block data) s₁ rest ended' s' ∧
        ended = ended'.map fun _ => .written := by
      rcases judging.of_bind with ⟨why, rfl, stopped⟩ | ⟨first, _, s₂, later, rfl, verified, done_⟩
      · exact ⟨_, stopped, rfl⟩
      · obtain ⟨rfl, rfl, rfl⟩ := done_.unique (recorded_done Sync.written s₂)
        rw [List.append_nil]
        exact ⟨_, verified, rfl⟩
    obtain ⟨ended', verified, rfl⟩ := wrote
    rcases spoken_writeVerified c some_ full verified with
      ⟨why, rfl, silent | ⟨m, short, written⟩⟩ | ⟨j, written⟩
    · refine ⟨_, _, .unwritten (k := k) why ?_⟩
      rw [spoken_append, silent, List.append_nil, said]
    · exact ⟨_, _, .cut why said answered differs written short⟩
    · refine ⟨_, _, .written said answered differs written ?_⟩
      cases ended' with
      | ok done_ =>
        intro value same
        cases same
        rfl
      | error why => exact nofun

end Client

end

end FlashRescue.Host
