import FlashRescue.Proofs.Host.Insistence
import FlashRescue.Proofs.Host.Verification
import FlashRescue.Proofs.Link.Items

/-!
# What a verified write is based on

All that was on the line when a block was written and its checksum read back, whatever the machine replies.

* `Host.sent`         the bytes that went out;
* `Host.Taken`        bytes went out and were acknowledged; `Host.Streamed`: pieces were, one after the other;
* `Host.Unanswered`   CHECKSUM was asked for in vain; `Host.Replied`: it was answered;
* `Host.Delivered`    a block was streamed, and a checksum came back; `Delivered.sent_eq`: what went out then;
* `Host.Fruitless`    no checksum came back;
* `verified_exactly`  a write is reported as done just if the checksum is the right one, and as damaged just
                      if it is another one.
-/

namespace FlashRescue.Host

open Dialogue

/-! ## Bytes that went out -/

/-- what a call has put on the line -/
def sent? : Call → List UInt8
  | ⟨.link (.write bytes), .ok ()⟩ => bytes
  | _ => []

/-- the bytes that went out; a write that fails sends nothing -/
def sent (calls : List Call) : List UInt8 := calls.flatMap sent?

theorem sent_append (calls calls' : List Call) : sent (calls ++ calls') = sent calls ++ sent calls' :=
  List.flatMap_append

/-- what is not even to be written does not go out -/
theorem unsent_of_silent {calls : List Call} (silent : packets calls = []) : sent calls = [] := by
  refine List.flatMap_eq_nil_iff.mpr fun call mem => ?_
  have none_ := List.filterMap_eq_nil_iff.mp silent call mem
  obtain ⟨query, reply⟩ := call
  cases query with
  | link query =>
    cases query with
    | write bytes => cases none_
    | _ => rfl
  | _ => rfl

theorem Drained.unsent {calls : List Call} (h : Drained calls) : sent calls = [] :=
  unsent_of_silent h.silent

/-! ## A block that is streamed -/

/-- bytes went out, and the next that was read is an ACK -/
def Taken (bytes : List UInt8) (calls : List Call) : Prop :=
  ∃ ack : Vector UInt8 Response.width,
    calls = [⟨.link (.write bytes), .ok ()⟩, ⟨.link (.read Response.width), .ok ack⟩] ∧
      (Response.decode ack).isAck = true

/-- pieces went out, each once the one before it was acknowledged -/
inductive Streamed : List (List UInt8) → List Call → Prop
  | nil : Streamed [] []
  | cons {piece : List UInt8} {pieces : List (List UInt8)} {calls rest : List Call} (taken : Taken piece calls)
      (more : Streamed pieces rest) : Streamed (piece :: pieces) (calls ++ rest)

theorem Taken.sent_eq {bytes : List UInt8} {calls : List Call} (h : Taken bytes calls) :
    sent calls = bytes := by
  obtain ⟨ack, rfl, -⟩ := h
  exact List.append_nil bytes

theorem Streamed.sent_eq {pieces : List (List UInt8)} {calls : List Call} (h : Streamed pieces calls) :
    sent calls = pieces.flatten := by
  induction h with
  | nil => rfl
  | cons taken more ih => rw [sent_append, taken.sent_eq, ih, List.flatten_cons]

/-! ## A checksum that is asked for -/

section
variable (block : UInt16)

/-- CHECKSUM was asked for, and something timed out -/
inductive Late : List Call → Prop
  | unsent {e : LinkError} (late : e.isTimeout = true) :
      Late [⟨.link (.write (Command.of .checksum block).encode), .error e⟩]
  | unacknowledged {e : LinkError} (late : e.isTimeout = true) :
      Late [⟨.link (.write (Command.of .checksum block).encode), .ok ()⟩,
        ⟨.link (.read Response.width), .error e⟩]
  | unread {calls : List Call} {e : LinkError} (taken : Taken (Command.of .checksum block).encode calls)
      (late : e.isTimeout = true) : Late (calls ++ [⟨.link (.read 4), .error e⟩])

/-- CHECKSUM was asked for so many times in vain; what was there after each time was thrown away -/
inductive Unanswered : Nat → List Call → Prop
  | never : Unanswered 0 []
  | late {n : Nat} {tried thrown rest : List Call} (late : Late block tried) (drained : Drained thrown)
      (more : Unanswered n rest) : Unanswered (n + 1) (tried ++ (thrown ++ rest))

/-- CHECKSUM was asked for and acknowledged, and the four bytes behind the ACK are this checksum -/
def Replied (crc : UInt32) (calls : List Call) : Prop :=
  ∃ (taken : List Call) (digits : Vector UInt8 4), Taken (Command.of .checksum block).encode taken ∧
    calls = taken ++ [⟨.link (.read 4), .ok digits⟩] ∧ digits.toList = ByteOrder.little.encode 4 crc.toNat

end

section
variable {block : UInt16} {crc crc' : UInt32} {calls : List Call} {n : Nat}

theorem Late.sent_eq (h : Late block calls) :
    sent calls = [] ∨ sent calls = (Command.of .checksum block).encode := by
  cases h with
  | unsent late => exact .inl rfl
  | unacknowledged late => exact .inr rfl
  | unread taken late =>
    refine .inr ?_
    rw [sent_append, taken.sent_eq]
    rfl

theorem Unanswered.sent_eq (h : Unanswered block n calls) :
    ∃ k ≤ n, sent calls = (List.replicate k (Command.of .checksum block).encode).flatten := by
  induction h with
  | never => exact ⟨0, Nat.le_refl 0, rfl⟩
  | late late drained more ih =>
    obtain ⟨k, le, same⟩ := ih
    rw [sent_append, sent_append, drained.unsent, same, List.nil_append]
    rcases late.sent_eq with none_ | one
    · exact ⟨k, Nat.le_succ_of_le le, by rw [none_, List.nil_append]⟩
    · exact ⟨k + 1, Nat.succ_le_succ le, by rw [one, List.replicate_succ, List.flatten_cons]⟩

theorem Replied.sent_eq (h : Replied block crc calls) : sent calls = (Command.of .checksum block).encode := by
  obtain ⟨taken, digits, went, rfl, -⟩ := h
  rw [sent_append, went.sent_eq]
  rfl

theorem Replied.last (h : Replied block crc calls) : ∃ digits : Vector UInt8 4,
    calls.getLast? = some ⟨.link (.read 4), .ok digits⟩ ∧
      digits.toList = ByteOrder.little.encode 4 crc.toNat := by
  obtain ⟨taken, digits, -, rfl, same⟩ := h
  exact ⟨digits, List.getLast?_concat, same⟩

end

/-! ## The whole write -/

section
variable {c : Client} {block : UInt16} {data : List UInt8} {crc crc' : UInt32} {calls : List Call}

/-- a block was streamed, and a checksum came back -/
inductive Delivered (c : Client) (block : UInt16) (data : List UInt8) (crc : UInt32) : List Call → Prop
  | whole {thrown opening streamed asked answered : List Call} {pieces : List (List UInt8)} {tries : Nat}
      (full : data.length = blockSize) (drained : Drained thrown)
      (opened : Taken (Command.of .write block).encode opening)
      (stream : Streamed pieces streamed) (content : pieces.flatten = data)
      (small : ∀ piece ∈ pieces, piece.length ≤ c.chunkSize.toNat)
      (late : Unanswered block tries asked) (few : tries ≤ c.retries.toNat + 1)
      (reply : Replied block crc answered) :
      Delivered c block data crc (thrown ++ (opening ++ (streamed ++ (asked ++ answered))))

theorem Delivered.sent_eq (h : Delivered c block data crc calls) :
    ∃ k, 1 ≤ k ∧ k ≤ c.retries.toNat + 2 ∧ sent calls = (Command.of .write block).encode ++ data ++
      (List.replicate k (Command.of .checksum block).encode).flatten := by
  cases h with
  | whole full drained opened stream content small late few reply =>
    obtain ⟨k, le, same⟩ := late.sent_eq
    refine ⟨k + 1, Nat.le_add_left .., by omega, ?_⟩
    rw [sent_append, sent_append, sent_append, sent_append, drained.unsent, opened.sent_eq, stream.sent_eq,
      content, same, reply.sent_eq, List.replicate_succ', List.flatten_append, List.flatten_singleton,
      List.nil_append, List.append_assoc]

theorem Delivered.last (h : Delivered c block data crc calls) : ∃ digits : Vector UInt8 4,
    calls.getLast? = some ⟨.link (.read 4), .ok digits⟩ ∧
      digits.toList = ByteOrder.little.encode 4 crc.toNat := by
  cases h with
  | whole full drained opened stream content small late few reply =>
    obtain ⟨digits, last, same⟩ := reply.last
    refine ⟨digits, ?_, same⟩
    simp only [List.getLast?_append, last, Option.some_or]

/-- what came back is one checksum -/
theorem Delivered.unique (h : Delivered c block data crc calls) (h' : Delivered c block data crc' calls) :
    crc = crc' := by
  obtain ⟨digits, last, same⟩ := h.last
  obtain ⟨digits', last', same'⟩ := h'.last
  cases Option.some.inj (last.symm.trans last')
  exact (Link.ofNat_digits same).symm.trans (Link.ofNat_digits same')

end

/-! ## Runs without a checksum -/

/-- four bytes were never read at once -/
def Unread (calls : List Call) : Prop :=
  ∀ call ∈ calls, ∀ digits : Vector UInt8 4, call ≠ ⟨.link (.read 4), .ok digits⟩

/-- no checksum was found to differ -/
def Plain (why : Stop Error) : Prop :=
  ∀ block expected actual, why ≠ .failed (.checksumMismatch block expected actual)

/-- no checksum came back, and none was found to differ -/
structure Fruitless (calls : List Call) (why : Stop Error) : Prop where
  unread : Unread calls
  plain : Plain why

/-- what never reads four bytes at once, and finds no checksum to differ -/
structure Tame {α : Type} (d : Talk α) : Prop where
  small : d.Only fun query : machine.Query => query ≠ .link (.read 4)
  plain : d.Halts Plain

section
variable {σ α β : Type} {answer : machine.Answerer σ} {s s' : σ} {calls calls' : List Call} {c : Client}
  {why : Stop Error}

theorem Tame.unread {d : Talk α} {ended : Except (Stop Error) α} (h : Tame d)
    (went : Recorded answer d s calls ended s') : Unread calls := by
  rintro call mem digits rfl
  exact h.small.recorded went _ mem rfl

theorem Tame.fruitless {d : Talk α} (h : Tame d) (went : Recorded answer d s calls (.error why) s') :
    Fruitless calls why :=
  ⟨h.unread went, h.plain.run went.run⟩

theorem Fruitless.after (h : Fruitless calls' why) (unread : Unread calls) : Fruitless (calls ++ calls') why :=
  ⟨List.forall_mem_append.mpr ⟨unread, h.unread⟩, h.plain⟩

theorem tame_done (value : α) : Tame (.done value : Talk α) := ⟨trivial, trivial⟩

theorem tame_bind {d : Talk α} {next : α → Talk β} (h : Tame d) (h' : ∀ value, Tame (next value)) :
    Tame (d >>= next) :=
  ⟨only_bind h.small fun value => (h' value).small, halts_bind h.plain fun value => (h' value).plain⟩

theorem tame_stop (plain : Plain why) : Tame (.stop why : Talk α) := ⟨trivial, plain⟩

theorem tame_ask {query : machine.Query} {next : machine.Reply query → Talk α}
    (small : query ≠ .link (.read 4)) (h : ∀ reply, Tame (next reply)) : Tame (.ask query next) :=
  ⟨⟨small, fun reply => (h reply).small⟩, fun reply => (h reply).plain⟩

theorem tame_demand {transfer : Talk (Except LinkError α)} (h : Tame transfer) : Tame (demand transfer) :=
  ⟨only_demand h.small, Client.demand_halts (by nofun) h.plain⟩

theorem tame_write (bytes : List UInt8) : Tame (Link.write bytes : Talk _) := tame_ask (by nofun) tame_done

namespace Client

theorem tame_discard (c : Client) : Tame c.discard :=
  ⟨discard_only (by nofun) (by nofun) c, discard_halts (by nofun) (by nofun) c⟩

theorem tame_awaitAck (op : Opcode) (block : UInt16) : Tame (awaitAck op block) :=
  ⟨awaitAck_only (by nofun) op block, awaitAck_halts (by nofun) (by nofun) (by nofun)⟩

theorem tame_writeBlock (c : Client) (block : UInt16) (data : List UInt8) : Tame (c.write block data) := by
  show Tame (ite (data.length ≠ blockSize) _ _)
  split
  · exact tame_stop (by nofun)
  · refine tame_bind c.tame_discard fun _ => tame_bind (tame_demand (tame_write _)) fun _ =>
      tame_bind (tame_awaitAck ..) fun _ => ?_
    split
    · exact tame_stop (by nofun)
    · generalize chunks c.chunkSize.toNat data = pieces
      induction pieces with
      | nil => exact tame_done ()
      | cons piece pieces ih =>
        have sent : Tame (sendChunk block piece) :=
          tame_bind (tame_demand (tame_write _)) fun _ => tame_awaitAck ..
        exact tame_bind sent fun _ => ih

/-! ## A block on record -/

variable {block : UInt16} {data : List UInt8} {crc : UInt32} {e : Error}

theorem recorded_sendChunk {piece : List UInt8}
    (h : Recorded answer (sendChunk block piece) s calls (.ok ()) s') : Taken piece calls := by
  obtain ⟨first, _, s₁, rest, rfl, sent, waiting⟩ := h.of_bind_ok
  obtain rfl := recorded_sent sent
  obtain ⟨ack, rfl, isAck⟩ := recorded_awaitAck waiting
  exact ⟨ack, rfl, isAck⟩

theorem recorded_sendChunks {pieces : List (List UInt8)}
    (h : Recorded answer (pieces.forM (sendChunk block)) s calls (.ok ()) s') : Streamed pieces calls := by
  induction pieces generalizing s calls with
  | nil =>
    obtain ⟨rfl, -, -⟩ := h.unique (recorded_done PUnit.unit s)
    exact .nil
  | cons piece pieces ih =>
    have sending : Recorded answer (sendChunk block piece >>= fun _ => pieces.forM (sendChunk block)) s
      calls (.ok ()) s' := h
    obtain ⟨first, _, s₁, rest, rfl, sent, later⟩ := sending.of_bind_ok
    exact .cons (recorded_sendChunk sent) (ih later)

theorem recorded_writeBlock (c : Client) (some_ : c.chunkSize ≠ 0)
    (h : Recorded answer (c.write block data) s calls (.ok ()) s') : data.length = blockSize ∧
      ∃ thrown opening streamed, calls = thrown ++ (opening ++ streamed) ∧ Drained thrown ∧
        Taken (Command.of .write block).encode opening ∧ Streamed (chunks c.chunkSize.toNat data) streamed := by
  rw [write, if_neg some_] at h
  split at h
  · obtain ⟨-, same, -⟩ := h.unique (recorded_stop _ s)
    cases same
  rename_i full
  refine ⟨Decidable.of_not_not full, ?_⟩
  obtain ⟨thrown, _, s₁, rest, rfl, drained, sending⟩ := h.of_bind_ok
  obtain ⟨opening, _, s₂, rest, rfl, sent, waiting⟩ := sending.of_bind_ok
  obtain ⟨response, _, s₃, streamed, rfl, acknowledged, streaming⟩ := waiting.of_bind_ok
  obtain rfl := recorded_sent sent
  obtain ⟨ack, rfl, isAck⟩ := recorded_awaitAck acknowledged
  exact ⟨thrown, _, streamed, rfl, recorded_discard drained, ⟨ack, rfl, isAck⟩, recorded_sendChunks streaming⟩

/-! ## A checksum on record -/

theorem recorded_replied (h : Recorded answer (checksumOnce block) s calls (.ok crc) s') :
    Replied block crc calls := by
  obtain ⟨first, _, s₁, rest, rfl, sent, waiting⟩ := h.of_bind_ok
  obtain ⟨second, _, s₂, rest, rfl, acknowledged, reading⟩ := waiting.of_bind_ok
  obtain rfl := recorded_sent sent
  obtain ⟨ack, rfl, isAck⟩ := recorded_awaitAck acknowledged
  obtain ⟨digits, rfl, rfl⟩ := recorded_readChecksum reading
  exact ⟨_, digits, ⟨ack, rfl, isAck⟩, rfl, Link.digits_eq digits⟩

theorem recorded_unsent {bytes : List UInt8} {why : Stop Error}
    (h : Recorded answer (demand (Link.write bytes) : Talk Unit) s calls (.error why) s') :
    ∃ e : LinkError, calls = [⟨.link (.write bytes), .error e⟩] ∧ why = .failed (.packet e) := by
  obtain ⟨rfl, same, -⟩ := h.unique (recorded_write bytes s)
  generalize (answer (.link (.write bytes)) s).1 = reply at same ⊢
  cases reply with
  | ok value => cases same
  | error e =>
    cases same
    exact ⟨e, rfl, rfl⟩

theorem recorded_unacknowledged {op : Opcode}
    (h : Recorded answer (awaitAck op block) s calls (.error (.failed e)) s') (late : e.isTimeout = true) :
    ∃ e' : LinkError, calls = [⟨.link (.read Response.width), .error e'⟩] ∧ e'.isTimeout = true := by
  obtain ⟨calls, rfl, reading⟩ := Recorded.of_ask h
  generalize answer (.link (.read Response.width)) s = replied at reading ⊢
  obtain ⟨reply, s₁⟩ := replied
  cases reply with
  | error e' =>
    obtain ⟨rfl, same, -⟩ := reading.unique (recorded_stop (.failed (Error.packet e')) s₁)
    cases same
    exact ⟨e', rfl, late⟩
  | ok ack =>
    have judged : Recorded answer (if (Response.decode ack).isAck then pure ()
        else if (Response.decode ack).isNack then throw (.nack op block) else throw (.noAck op) : Talk Unit)
        s₁ calls (.error (.failed e)) s' := reading
    split at judged
    · obtain ⟨-, same, -⟩ := judged.unique (recorded_done () s₁)
      cases same
    · split at judged
      · obtain ⟨-, same, -⟩ := judged.unique (recorded_stop (.failed (Error.nack op block)) s₁)
        cases same
        cases late
      · obtain ⟨-, same, -⟩ := judged.unique (recorded_stop (.failed (Error.noAck op)) s₁)
        cases same
        cases late

theorem recorded_unread {why : Stop Error}
    (h : Recorded answer (demand Link.readChecksum : Talk UInt32) s calls (.error why) s') :
    ∃ e : LinkError, calls = [⟨.link (.read 4), .error e⟩] ∧ why = .failed (.packet e) := by
  obtain ⟨calls, rfl, reading⟩ := Recorded.of_ask h
  generalize answer (.link (.read 4)) s = replied at reading ⊢
  obtain ⟨reply, s₁⟩ := replied
  cases reply with
  | error e =>
    obtain ⟨rfl, same, -⟩ := reading.unique (recorded_stop (.failed (Error.packet e)) s₁)
    cases same
    exact ⟨e, rfl, rfl⟩
  | ok digits =>
    obtain ⟨-, same, -⟩ := reading.unique
      (recorded_done (UInt32.ofNat (ByteOrder.little.decode digits.toList)) s₁)
    cases same

theorem recorded_late (h : Recorded answer (checksumOnce block) s calls (.error (.failed e)) s')
    (late : e.isTimeout = true) : Late block calls := by
  rcases h.of_bind with ⟨why, same, stopped⟩ | ⟨first, _, s₁, rest, rfl, sent, waiting⟩
  · cases same
    obtain ⟨e', rfl, same⟩ := recorded_unsent stopped
    cases same
    exact .unsent late
  obtain rfl := recorded_sent sent
  rcases waiting.of_bind with ⟨why, same, stopped⟩ | ⟨second, _, s₂, rest, rfl, acknowledged, reading⟩
  · cases same
    obtain ⟨e', rfl, late'⟩ := recorded_unacknowledged stopped late
    exact .unacknowledged late'
  obtain ⟨ack, rfl, isAck⟩ := recorded_awaitAck acknowledged
  obtain ⟨e', rfl, same⟩ := recorded_unread reading
  cases same
  exact .unread ⟨ack, rfl, isAck⟩ late

theorem fruitless_checksumOnce (h : Recorded answer (checksumOnce block) s calls (.error why) s') :
    Fruitless calls why := by
  have asking : Tame (demand (Link.sendCommand (.of .checksum block)) : Talk Unit) := tame_demand (tame_write _)
  rcases h.of_bind with ⟨why, same, stopped⟩ | ⟨first, _, s₁, rest, rfl, sent, waiting⟩
  · cases same
    exact asking.fruitless stopped
  refine .after ?_ (asking.unread sent)
  rcases waiting.of_bind with ⟨why, same, stopped⟩ | ⟨second, _, s₂, rest, rfl, acknowledged, reading⟩
  · cases same
    exact (tame_awaitAck ..).fruitless stopped
  refine .after ?_ ((tame_awaitAck ..).unread acknowledged)
  obtain ⟨e, rfl, rfl⟩ := recorded_unread reading
  exact ⟨List.forall_mem_singleton.mpr nofun, nofun⟩

theorem Insisted.replied {again : Nat} (h : Insisted answer c (checksumOnce block) again calls (.ok crc)) :
    ∃ thrown asked answered tries, calls = thrown ++ (asked ++ answered) ∧ Drained thrown ∧
      Unanswered block tries asked ∧ tries ≤ again ∧ Replied block crc answered := by
  generalize same : (.ok crc : Except (Stop Error) UInt32) = ended at h
  induction h with
  | stuck drain => cases same
  | last drain asked final =>
    cases same
    exact ⟨_, [], _, 0, rfl, recorded_discard drain, .never, Nat.zero_le _, recorded_replied asked⟩
  | late drain asked late more ih =>
    obtain ⟨thrown, tried, answered, n, rfl, drained, unanswered, le, replied⟩ := ih same
    refine ⟨_, _, answered, n + 1, ?_, recorded_discard drain,
      .late (recorded_late asked late) drained unanswered, Nat.succ_le_succ le, replied⟩
    simp only [List.append_assoc]

theorem Insisted.fruitless {again : Nat}
    (h : Insisted answer c (checksumOnce block) again calls (.error why)) : Fruitless calls why := by
  generalize same : (.error why : Except (Stop Error) UInt32) = ended at h
  induction h with
  | stuck drain =>
    cases same
    exact c.tame_discard.fruitless drain
  | last drain asked final =>
    cases same
    exact (fruitless_checksumOnce asked).after (c.tame_discard.unread drain)
  | late drain asked late more ih =>
    exact ((ih same).after (fruitless_checksumOnce asked).unread).after (c.tame_discard.unread drain)

/-- a checksum is read back at some attempt, or at none -/
theorem recorded_readBack (c : Client) {ended : Except (Stop Error) UInt32}
    (h : Recorded answer (c.readBack block) s calls ended s') :
    (∃ crc asked answered tries, ended = .ok crc ∧ calls = asked ++ answered ∧ Unanswered block tries asked ∧
        tries ≤ c.retries.toNat + 1 ∧ Replied block crc answered) ∨
      ∃ why, ended = .error why ∧ Fruitless calls why := by
  rcases h.of_bind with ⟨why, rfl, stopped⟩ | ⟨tried, first, s₁, rest, rfl, tries, going⟩
  · exact .inr ⟨why, rfl, fruitless_checksumOnce stopped.of_trial_stopped.1⟩
  cases first with
  | ok crc =>
    obtain ⟨rfl, rfl, -⟩ := going.unique (recorded_done crc s₁)
    rw [List.append_nil]
    exact .inl ⟨crc, [], tried, 0, rfl, rfl, .never, Nat.zero_le _, recorded_replied tries.of_trial_ok⟩
  | error e =>
    have asked := tries.of_trial_failed
    have failed := fruitless_checksumOnce asked
    dsimp only at going
    split at going
    · obtain ⟨rfl, rfl, -⟩ := going.unique (recorded_stop (.failed (Error.nack .write block)) s₁)
      rw [List.append_nil]
      exact .inr ⟨_, rfl, failed.unread, nofun⟩
    split at going
    · rename_i late
      cases ended with
      | ok crc =>
        obtain ⟨thrown, unheard, answered, n, rfl, drained, unanswered, le, replied⟩ := (insisted going).replied
        refine .inl ⟨crc, tried ++ (thrown ++ unheard), answered, n + 1, rfl, ?_,
          .late (recorded_late asked late) drained unanswered, Nat.succ_le_succ le, replied⟩
        simp only [List.append_assoc]
      | error why => exact .inr ⟨why, rfl, (insisted going).fruitless.after failed.unread⟩
    · obtain ⟨rfl, rfl, -⟩ := going.unique (recorded_stop _ s₁)
      rw [List.append_nil]
      exact .inr ⟨_, rfl, failed⟩

end Client

/-! ## Writes on record -/

/-- what a verified write comes to -/
theorem recorded_writeVerified (some_ : c.chunkSize ≠ 0) {ended : Except (Stop Error) Unit}
    (h : Recorded answer (c.writeVerified block data) s calls ended s') :
    (∃ crc, Delivered c block data crc calls ∧ ended =
        if crc = checksum data then .ok ()
        else .error (.failed (.checksumMismatch block (checksum data) crc))) ∨
      ∃ why, ended = .error why ∧ Fruitless calls why := by
  rcases h.of_bind with ⟨why, rfl, stopped⟩ | ⟨written, _, s₁, rest, rfl, wrote, reading⟩
  · exact .inr ⟨why, rfl, (c.tame_writeBlock block data).fruitless stopped⟩
  have unread := (c.tame_writeBlock block data).unread wrote
  rcases reading.of_bind with ⟨why, rfl, stopped⟩ | ⟨read, crc, s₂, rest, rfl, back, judging⟩
  · rcases c.recorded_readBack stopped with ⟨crc, _, _, _, same, -⟩ | ⟨_, same, fruitless⟩
    · cases same
    · cases same
      exact .inr ⟨why, rfl, fruitless.after unread⟩
  rcases c.recorded_readBack back with
    ⟨_, asked, answered, tries, same, rfl, unanswered, few, replied⟩ | ⟨why, same, -⟩
  · cases same
    obtain ⟨full, thrown, opening, streamed, rfl, drained, opened, stream⟩ := c.recorded_writeBlock some_ wrote
    have judged : rest = [] ∧ ended = if crc = checksum data then .ok ()
        else .error (.failed (.checksumMismatch block (checksum data) crc)) := by
      split at judging
      · rename_i right
        obtain ⟨rfl, rfl, -⟩ := judging.unique (recorded_done () s₂)
        exact ⟨rfl, (if_pos right).symm⟩
      · rename_i wrong
        obtain ⟨rfl, rfl, -⟩ := judging.unique
          (recorded_stop (.failed (Error.checksumMismatch block (checksum data) crc)) s₂)
        exact ⟨rfl, (if_neg wrong).symm⟩
    obtain ⟨rfl, verdict⟩ := judged
    have positive : c.chunkSize.toNat ≠ 0 := fun zero => some_ (UInt64.toNat_inj.mp zero)
    have content := Client.join_chunks full positive
    have small : ∀ piece ∈ Client.chunks c.chunkSize.toNat data, piece.length ≤ c.chunkSize.toNat := by
      intro piece mem
      obtain ⟨i, -, rfl⟩ := List.mem_map.mp mem
      exact List.length_take_le ..
    refine .inl ⟨crc, ?_, verdict⟩
    have whole := Delivered.whole full drained opened stream content small unanswered few replied
    rwa [List.append_nil, List.append_assoc, List.append_assoc]
  · cases same

theorem Delivered.not_unread (h : Delivered c block data crc calls) : ¬ Unread calls := by
  obtain ⟨digits, last, -⟩ := h.last
  exact fun unread => unread _ (List.mem_of_getLast? last) digits rfl

/-- whatever the machine replies, a write is reported as done just if all of its content went out and was
acknowledged and the checksum that came back is that of the content; and if another one came back, just that is
reported -/
theorem verified_exactly (some_ : c.chunkSize ≠ 0) {ended : Except (Stop Error) Unit}
    (h : Recorded answer (c.writeVerified block data) s calls ended s') :
    (ended = .ok () ↔ Delivered c block data (checksum data) calls) ∧
    (∀ block' expected actual, ended = .error (.failed (.checksumMismatch block' expected actual)) ↔
      block' = block ∧ expected = checksum data ∧ actual ≠ expected ∧ Delivered c block data actual calls) ∧
    (ended = .ok () → ∃ k, 1 ≤ k ∧ k ≤ c.retries.toNat + 2 ∧ sent calls =
      (Command.of .write block).encode ++ data ++
        (List.replicate k (Command.of .checksum block).encode).flatten) := by
  rcases recorded_writeVerified some_ h with ⟨crc, delivered, rfl⟩ | ⟨why, rfl, fruitless⟩
  · by_cases right : crc = checksum data
    · subst right
      rw [if_pos rfl]
      refine ⟨iff_of_true rfl delivered, fun block' expected actual => iff_of_false nofun ?_,
        fun _ => delivered.sent_eq⟩
      rintro ⟨-, rfl, wrong, other⟩
      exact wrong (other.unique delivered)
    · rw [if_neg right]
      refine ⟨iff_of_false nofun fun other => right (delivered.unique other),
        fun block' expected actual => ?_, nofun⟩
      constructor
      · intro same
        cases same
        exact ⟨rfl, rfl, right, delivered⟩
      · rintro ⟨rfl, rfl, -, other⟩
        rw [other.unique delivered]
  · refine ⟨iff_of_false nofun fun delivered => delivered.not_unread fruitless.unread,
      fun block' expected actual => iff_of_false ?_ ?_, nofun⟩
    · intro same
      exact fruitless.plain block' expected actual (Except.error.inj same)
    · rintro ⟨-, -, -, delivered⟩
      exact delivered.not_unread fruitless.unread

end

/-- a block on a board that had another -/
theorem verified_exactly_marked :
    let b := Board.standard 1
    let c : Client := { chunkSize := b.config.chunkSize }
    let remote := Remote.replayed { board := b, bootstrap := false }
    let d : Desk := { cable := .connect .duplex 500 remote, folder := Desk.working [] }
    c.chunkSize ≠ 0 ∧ ∃ calls d', Recorded Desk.answer (c.writeVerified 0 markedBlock) d calls (.ok ()) d' ∧
      Delivered c 0 markedBlock (checksum markedBlock) calls := by
  intro b c remote d
  have inside : (0 : UInt16).toNat < blockCount (b.ledger b.config.nackOnFailure).content := by
    rw [Board.content_ledger, Desk.content_standard, blockCount_replicate]
    decide
  have rounds : c.rounds ≠ 0 := show ({} : Client).rounds ≠ 0 by decide
  obtain ⟨d', l', ran, -⟩ := Desk.run_writeVerified (Replay.stands_standard 1) rfl length_markedBlock rounds rfl
    (Desk.linked_connect rfl (d := d) rfl) inside
  have some_ : c.chunkSize ≠ 0 := by decide
  exact ⟨some_, _, d', recorded ran, (verified_exactly some_ (recorded ran)).1.mp rfl⟩

end FlashRescue.Host
