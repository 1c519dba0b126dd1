import FlashRescue.Bench.Desk
import FlashRescue.Proofs.Host.Handover
import FlashRescue.Proofs.Host.Insistence
import FlashRescue.Proofs.Host.Visits

/-!
# How an order is conducted

What is written for an order, and when, whatever the machine replies: nothing before HELLO, then an ACK, then
what asks for NACKs, and then what the job is about.

* `Host.delivered`     the bytes that were read; `Host.Greeted`: the last of them are a HELLO;
* `Host.Attached`      the ways in which a board can be waited for;
* `Host.Agreed`        the board agreed on NACKs, if it was to be asked;
* `Job.Writes`         all that a job may write;
* `Host.Conducted`     the ways in which an order can go; `conduct`: there are no others.
-/

namespace FlashRescue.Host

open Dialogue

section
variable {σ α : Type} {answer : machine.Answerer σ} {s s' : σ} {calls calls' : List Call} {c : Client}
  {color : Bool} {kind : machine.Query → Prop}

/-! ## What is read -/

/-- what a call has read -/
def got : Call → List UInt8
  | ⟨.link (.read _), .ok bytes⟩ => bytes.toList
  | _ => []

/-- the bytes that were read -/
def delivered (calls : List Call) : List UInt8 := calls.flatMap got

theorem delivered_append (calls calls' : List Call) :
    delivered (calls ++ calls') = delivered calls ++ delivered calls' :=
  List.flatMap_append

/-- nothing was written, and the last bytes that were read are a HELLO -/
structure Greeted (calls : List Call) : Prop where
  silent : packets calls = []
  heard : [0x10, 0, 0] <:+ delivered calls

namespace Client

variable {deadline : Nat} {wait : UInt64}

theorem recorded_before {next : Talk α} {value : α}
    (h : Recorded answer (before deadline wait next) s calls (.ok value) s') :
    ∃ time later s₁, calls = ⟨.now, time⟩ :: later ∧ Recorded answer next s₁ later (.ok value) s' := by
  obtain ⟨later, rfl, going⟩ := Recorded.of_ask h
  have going : Recorded answer (if (answer .now s).1 ≥ deadline then throw (.noHello wait) else next)
    (answer .now s).2 later (.ok value) s' := going
  split at going
  · obtain ⟨-, same, -⟩ := going.unique (recorded_stop (.failed (Error.noHello wait)) _)
    cases same
  · exact ⟨_, later, _, rfl, going⟩

/-- a scan that went well ends with a HELLO -/
theorem recorded_scanFor {rounds : Nat} {window : List UInt8}
    (h : Recorded answer (scanFor deadline wait rounds window) s calls (.ok ()) s') :
    helloBytes <:+ window ++ delivered calls := by
  induction rounds generalizing s calls window with
  | zero =>
    obtain ⟨-, same, -⟩ := h.unique (recorded_stop .unfinished s)
    cases same
  | succ rounds ih =>
    obtain ⟨rest, rfl, going⟩ := Recorded.of_ask h
    generalize answer (.link (.read 1)) s = replied at going ⊢
    obtain ⟨reply, s₁⟩ := replied
    cases reply with
    | ok byte =>
      -- the oldest byte of the window goes, and what comes after it is the new window and what is read later
      have moved (later : List UInt8) :
          window.drop 1 ++ byte.toList ++ later <:+ window ++ (byte.toList ++ later) := by
        obtain ⟨oldest, same⟩ := List.drop_suffix 1 window
        exact ⟨oldest, by rw [← List.append_assoc, ← List.append_assoc, same, List.append_assoc]⟩
      have going : Recorded answer (if window.drop 1 ++ byte.toList = helloBytes then return
          else before deadline wait (scanFor deadline wait rounds (window.drop 1 ++ byte.toList))) s₁ rest
        (.ok ()) s' := going
      split at going
      · rename_i found
        obtain ⟨rfl, -, -⟩ := going.unique (recorded_done () s₁)
        have whole := moved []
        rwa [List.append_nil, found] at whole
      · obtain ⟨time, later, s₂, rfl, scanning⟩ := recorded_before going
        exact (ih scanning).trans (moved (delivered later))
    | error e =>
      have going : Recorded answer (if e.isTimeout then
          before deadline wait (scanFor deadline wait rounds window) else throw (.link e)) s₁ rest (.ok ())
        s' := going
      split at going
      · obtain ⟨time, later, s₂, rfl, scanning⟩ := recorded_before going
        show helloBytes <:+ window ++ delivered later
        exact ih scanning
      · obtain ⟨-, same, -⟩ := going.unique (recorded_stop (.failed (Error.link e)) s₁)
        cases same

/-- a HELLO is not found in an empty window before it was read -/
theorem hello_suffix {bytes : List UInt8} (h : helloBytes <:+ List.replicate 3 0 ++ bytes) :
    [0x10, 0, 0] <:+ bytes := by
  rcases Nat.lt_or_ge bytes.length 3 with short | long
  · have drop := List.suffix_iff_eq_drop.mp h
    match bytes, short with
    | [], _ => exact absurd drop (by decide)
    | [a], _ => exact absurd (List.cons.inj drop).1 (by decide)
    | [a, b], _ => exact absurd (List.cons.inj drop).1 (by decide)
  · exact List.suffix_of_suffix_length_le h (List.suffix_append ..) long

end Client

/-- the ways in which a board can be waited for -/
inductive Attached : List Call → Except (Stop Error) Unit → Prop
  /-- there is no HELLO, and nothing is written -/
  | unheard {calls : List Call} (why : Stop Error) (silent : packets calls = []) : Attached calls (.error why)
  /-- HELLO is answered, and nothing else is written -/
  | heard {before after : List Call} {reply : Except LinkError Unit} {ended : Except (Stop Error) Unit}
      (greeted : Greeted before) (silent : packets after = []) (went : ended = .ok () → reply = .ok ()) :
      Attached (before ++ ⟨.link (.write Response.ack.encode), reply⟩ :: after) ended

theorem Attached.after {ended : Except (Stop Error) Unit} (silent : packets calls = [])
    (h : Attached calls' ended) : Attached (calls ++ calls') ended := by
  cases h with
  | unheard why quiet =>
    refine .unheard why ?_
    rw [packets_append, silent, quiet, List.append_nil]
  | heard greeted quiet went =>
    rw [← List.append_assoc]
    refine .heard ⟨?_, ?_⟩ quiet went
    · rw [packets_append, silent, greeted.silent, List.append_nil]
    · rw [delivered_append]
      exact greeted.heard.trans (List.suffix_append ..)

theorem Attached.append {ended : Except (Stop Error) Unit} (h : Attached calls ended)
    (silent : packets calls' = []) : Attached (calls ++ calls') ended := by
  cases h with
  | unheard why quiet =>
    refine .unheard why ?_
    rw [packets_append, silent, quiet, List.append_nil]
  | heard greeted quiet went =>
    rw [List.append_assoc, List.cons_append]
    refine .heard greeted ?_ went
    rw [packets_append, silent, quiet, List.append_nil]

namespace Client

variable {wait : UInt64}

theorem recorded_attach {ended : Except (Stop Error) Unit}
    (h : Recorded answer (c.attach wait) s calls ended s') : Attached calls ended := by
  obtain ⟨rest, rfl, looking⟩ := Recorded.of_ask h
  have looking : Recorded answer (scanFor ((answer .now s).1 + wait.toNat * Timing.nsPerMs.toNat) wait c.rounds
      (List.replicate 3 0) >>= fun _ => demand (Link.sendResponse .ack) >>= fun _ =>
        .ask (.sleep attachPauseMs) fun _ => c.discard) (answer .now s).2 rest ended s' := looking
  rcases looking.of_bind with ⟨why, rfl, stopped⟩ | ⟨scanned, _, s₁, rest, rfl, found, acknowledging⟩
  · have silent : packets rest = [] := packets_quiet ((only_scanFor ..).recorded stopped)
    exact .unheard why silent
  have silent : packets scanned = [] := packets_quiet ((only_scanFor ..).recorded found)
  have heard : [0x10, 0, 0] <:+ delivered scanned := hello_suffix (recorded_scanFor found)
  have greeted : Greeted (⟨.now, (answer .now s).1⟩ :: scanned) := ⟨silent, heard⟩
  rcases acknowledging.of_bind with ⟨why, rfl, stopped⟩ | ⟨sent, _, s₂, rest, rfl, acknowledged, resting⟩
  · obtain ⟨rfl, -, -⟩ := stopped.unique (recorded_write Response.ack.encode s₁)
    exact .heard greeted rfl nofun
  · obtain rfl := recorded_sent acknowledged
    obtain ⟨discarded, rfl, discarding⟩ := Recorded.of_ask resting
    have dropped : packets discarded = [] := packets_discard discarding
    exact .heard greeted dropped fun _ => rfl

end Client

/-! ## The terminal -/

theorem only_print (tells : ∀ text, kind (.print text)) (text : String) : (print text).Only kind :=
  ⟨tells text, fun _ => trivial⟩

theorem recorded_told {text : String} {next : Unit → Talk α} {ended : Except (Stop Error) α}
    (h : Recorded answer (print text >>= next) s calls ended s') :
    ∃ rest, calls = ⟨.print text, ()⟩ :: rest ∧
      Recorded answer (next ()) (answer (.print text) s).2 rest ended s' :=
  Recorded.of_ask h

theorem only_report (tells : ∀ text, kind (.print text)) {step : Talk α} (h : step.Only kind) :
    (report color step).Only kind := by
  refine only_bind (only_trial h) fun ended => ?_
  cases ended with
  | ok value => exact only_bind (only_print tells _) fun _ => trivial
  | error e => exact only_bind (only_print tells _) fun _ => trivial

/-- a step is reported as it ended, and nothing is written for that -/
theorem recorded_report {step : Talk α} {ended : Except (Stop Error) α}
    (h : Recorded answer (report color step) s calls ended s') :
    ∃ made told s₁, calls = made ++ told ∧ Recorded answer step s made ended s₁ ∧ packets told = [] := by
  rcases h.of_bind with ⟨why, rfl, stopped⟩ | ⟨made, tried_, s₁, told, rfl, tries, telling⟩
  · exact ⟨calls, [], s', (List.append_nil _).symm, stopped.of_trial_stopped.1, rfl⟩
  · have last {tint : Tint} {word : String} {next : Talk α} {ended' : Except (Stop Error) α}
        (stays : ∀ s, Recorded answer next s [] ended' s)
        (h : Recorded answer (printWord color tint word >>= fun _ => next) s₁ told ended s') :
        packets told = [] ∧ ended = ended' := by
      obtain ⟨rfl, same, -⟩ := h.unique (recorded_printWord stays)
      exact ⟨rfl, same⟩
    refine ⟨made, told, s₁, rfl, ?_⟩
    cases tried_ with
    | ok value =>
      obtain ⟨silent, rfl⟩ := last (recorded_done value) telling
      exact ⟨tries.of_trial_ok, silent⟩
    | error e =>
      obtain ⟨silent, rfl⟩ := last (recorded_stop (.failed e)) telling
      exact ⟨tries.of_trial_failed, silent⟩

theorem only_openPort (color : Bool) (o : Order) :
    (openPort color o).Only fun query => isWrite query = false := by
  refine only_bind (only_print (fun _ => rfl) _) fun _ => only_report (fun _ => rfl) ?_
  refine ⟨rfl, fun opened => ?_⟩
  cases opened <;> trivial

/-! ## Jobs -/

/-- a CHECKSUM, a WRITE or a chunk of a block -/
def Content (chunkSize : Nat) (bytes : List UInt8) : Prop :=
  (∃ block, bytes = (Command.of .checksum block).encode) ∨
    (∃ block, bytes = (Command.of .write block).encode) ∨ bytes.length = chunkSize

/-- all that may be written for a job -/
def Job.Writes (chunkSize : Nat) : Job → List (List UInt8) → Prop
  | .wait, written => written = []
  | .checksum _ _, written => ∀ bytes ∈ written, ∃ block, bytes = (Command.of .checksum block).encode
  | .write _ _ _, written => ∀ bytes ∈ written, Content chunkSize bytes
  | .flash _, written => ∀ bytes ∈ written, Content chunkSize bytes ∨ bytes = (Command.of .exit 0).encode
  | .reset, written => written = [(Command.of .reset 0).encode]
  | .exit, written => written = [(Command.of .exit 0).encode]

/-- the job sends blocks -/
def Job.streams : Job → Bool
  | .write _ _ _ | .flash _ => true
  | _ => false

section
variable {allowed : List UInt8 → Prop}

theorem says_mono {allowed' : List UInt8 → Prop} (le : ∀ bytes, allowed bytes → allowed' bytes)
    (query : machine.Query) (good : Says allowed query) : Says allowed' query := by
  cases query with
  | link query =>
    cases query with
    | write bytes => exact le bytes good
    | read _ | poll => trivial
  | now | sleep _ | print _ | openPort _ _ _ | readFile _ => trivial

theorem only_readImage (path : String) : (readImage path).Only (Says allowed) := by
  refine only_bind ⟨trivial, fun file => ?_⟩ fun bytes => ?_
  · cases file <;> trivial
  · cases Image.ofBytes? bytes <;> trivial

/-- chunks whose size divides that of a block are all of that size -/
theorem length_chunks {n : Nat} (divides : n ∣ blockSize) {data : List UInt8} (full : data.length = blockSize) :
    ∀ chunk ∈ Client.chunks n data, chunk.length = n := by
  intro chunk mem
  rw [Replay.chunks_eq n full] at mem
  obtain ⟨i, inside, rfl⟩ := List.mem_map.mp mem
  obtain ⟨count, whole⟩ := divides
  have positive : 0 < n := by
    refine Nat.pos_of_ne_zero fun zero => ?_
    rw [zero, Nat.zero_mul] at whole
    cases whole
  have bound : i < count := by
    rw [whole, Nat.mul_add_div positive, Nat.div_eq_of_lt (by omega), Nat.add_zero, List.mem_range] at inside
    exact inside
  have room : (i + 1) * n ≤ count * n := Nat.mul_le_mul_right n bound
  rw [Replay.piece, List.length_take, List.length_drop, full, whole, Nat.mul_comm n count]
  rw [Nat.succ_mul] at room
  omega

namespace Client

theorem only_write_content (divides : c.chunkSize.toNat ∣ blockSize) (block : UInt16) (data : List UInt8) :
    (c.write block data).Only (Says (Content c.chunkSize.toNat)) := by
  rw [write]
  split
  · trivial
  · rename_i full
    refine only_bind (c.only_discard.mono says_of_quiet) fun _ => only_bind ?_ fun _ => only_bind ?_ fun _ => ?_
    · exact (only_demand (only_write _)).mono (says_of_writes (.inr (.inl ⟨block, rfl⟩)))
    · exact (only_awaitAck ..).mono says_of_quiet
    · split
      · trivial
      · refine only_forM fun chunk mem => only_bind ?_ fun _ => (only_awaitAck ..).mono says_of_quiet
        have length := length_chunks divides (Decidable.of_not_not full) chunk mem
        exact (only_demand (only_write _)).mono (says_of_writes (.inr (.inr length)))

theorem only_writeVerified (divides : c.chunkSize.toNat ∣ blockSize) (block : UInt16) (data : List UInt8) :
    (c.writeVerified block data).Only (Says (Content c.chunkSize.toNat)) := by
  refine only_bind (only_write_content divides block data) fun _ => only_bind ?_ fun crc => ?_
  · exact (c.only_readBack block).mono (says_of_writes (.inl ⟨block, rfl⟩))
  · split <;> trivial

theorem only_sync (divides : c.chunkSize.toNat ∣ blockSize) (block : UInt16) (data : List UInt8) :
    (c.sync block data).Only (Says (Content c.chunkSize.toNat)) := by
  refine only_bind ((c.only_checksum block).mono (says_of_writes (.inl ⟨block, rfl⟩))) fun crc => ?_
  split
  · trivial
  · exact only_bind (only_writeVerified divides block data) fun _ => trivial

end Client

theorem only_listChecksums (c : Client) (count : Nat) (block : UInt16) :
    (listChecksums c count block).Only
      (Says fun bytes => ∃ block, bytes = (Command.of .checksum block).encode) := by
  induction count generalizing block with
  | zero => trivial
  | succ count ih =>
    rw [listChecksums]
    split
    · trivial
    · refine only_bind ((c.only_checksum block).mono (says_of_writes ⟨block, rfl⟩)) fun crc => ?_
      exact only_bind (only_print (fun _ => trivial) _) fun _ => ih (block + 1)

theorem only_writeBlocks (divides : c.chunkSize.toNat ∣ blockSize) (image : Image) (start : UInt16)
    (count : Option UInt16) :
    (writeBlocks color c image start count).Only (Says (Content c.chunkSize.toNat)) := by
  rw [writeBlocks]
  split
  · trivial
  · refine only_forM fun number _ => only_bind (only_print (fun _ => trivial) _) fun _ => ?_
    -- any data will do, and their length is not looked at
    generalize image.block number = data
    exact only_report (fun _ => trivial) (Client.only_writeVerified divides _ data)

theorem only_syncBlock (divides : c.chunkSize.toNat ∣ blockSize) (image : Image) (number : Nat) :
    (syncBlock color c image number).Only (Says (Content c.chunkSize.toNat)) := by
  have tells (text : String) : Says (Content c.chunkSize.toNat) (.print text) := trivial
  refine only_bind (only_print tells _) fun _ => only_bind (only_trial (Client.only_sync divides ..)) ?_
  intro ended
  cases ended with
  | ok sync => cases sync <;> exact only_bind (only_print tells _) fun _ => trivial
  | error e => exact only_bind (only_print tells _) fun _ => trivial

theorem only_flashImage (divides : c.chunkSize.toNat ∣ blockSize) (image : Image) :
    (flashImage color c image).Only
      (Says fun bytes => Content c.chunkSize.toNat bytes ∨ bytes = (Command.of .exit 0).encode) := by
  have passes : (image.numbers.mapM (syncBlock color c image)).Only
      (Says fun bytes => Content c.chunkSize.toNat bytes ∨ bytes = (Command.of .exit 0).encode) :=
    only_mapM fun number _ => (only_syncBlock divides image number).mono (says_mono fun _ => .inl)
  refine only_bind passes fun _ => ?_
  refine only_bind (only_print (fun _ => trivial) _) fun _ => only_bind (only_print (fun _ => trivial) _) ?_
  exact fun _ => only_report (fun _ => trivial) ((only_demand (only_write _)).mono (says_of_writes (.inr rfl)))

/-- a step that sends one packet, with what the operator is told -/
theorem packets_report {bytes : List UInt8} {text : String} {ended : Except (Stop Error) Unit}
    (h : Recorded answer (print text >>= fun _ => report color (demand (Link.write bytes))) s calls ended s') :
    packets calls = [bytes] := by
  obtain ⟨rest, rfl, reporting⟩ := Recorded.of_ask h
  obtain ⟨made, told, s₁, rfl, sent, silent⟩ := recorded_report reporting
  show packets (made ++ told) = _
  rw [packets_append, packets_demand sent, silent, List.append_nil]

/-- a job writes what it may -/
theorem Job.writes (divides : c.chunkSize.toNat ∣ blockSize) (job : Job) {ended : Except (Stop Error) Unit}
    (h : Recorded answer (doJob color c job) s calls ended s') :
    job.Writes c.chunkSize.toNat (packets calls) := by
  cases job with
  | wait =>
    obtain ⟨rfl, -, -⟩ := h.unique (recorded_done () s)
    rfl
  | checksum block count => exact forall_packets ((only_listChecksums ..).recorded h)
  | write path start count =>
    have only : (doJob color c (.write path start count)).Only (Says (Content c.chunkSize.toNat)) :=
      only_bind (only_readImage path) fun image => only_writeBlocks divides image start count
    exact forall_packets (only.recorded h)
  | flash path =>
    have only : (doJob color c (.flash path)).Only
        (Says fun bytes => Content c.chunkSize.toNat bytes ∨ bytes = (Command.of .exit 0).encode) :=
      only_bind (only_readImage path) fun image => only_flashImage divides image
    exact forall_packets (only.recorded h)
  | reset => exact packets_report h
  | exit => exact packets_report h

end

/-! ## Orders -/

/-- the board agreed on NACKs: it was not to be asked, or it was asked, some number of times, and the last time
it acknowledged -/
inductive Agreed (o : Order) : List Call → Prop
  | unasked (without : o.nack = false) : Agreed o []
  | asked {before told : List Call} {ack : Vector UInt8 Response.width} {k : Nat} (wanted : o.nack = true)
      (few : k ≤ o.retries.toNat) (requests : packets before = List.replicate k (Command.of .nackMode 0).encode)
      (acknowledged : (Response.decode ack).isAck = true) (silent : packets told = []) :
      Agreed o (before ++ [⟨.link (.write (Command.of .nackMode 0).encode), .ok ()⟩,
        ⟨.link (.read Response.width), .ok ack⟩] ++ told)

/-- the client that an order is carried out with -/
def Order.client (o : Order) : Client := { retries := o.retries, chunkSize := o.chunkSize, nacks := o.nack }

/-- the ways in which an order can go -/
inductive Conducted (answer : machine.Answerer σ) (color : Bool) (o : Order) :
    List Call → Except (Stop Error) Unit → Prop
  /-- the board is waited for in vain -/
  | unattached {calls : List Call} (why : Stop Error) (waited : Attached calls (.error why)) :
      Conducted answer color o calls (.error why)
  /-- the board is asked for NACKs in vain -/
  | unagreed {waiting asking : List Call} {k : Nat} (why : Stop Error) (waited : Attached waiting (.ok ()))
      (wanted : o.nack = true) (few : k ≤ o.retries.toNat + 1)
      (requests : packets asking = List.replicate k (Command.of .nackMode 0).encode) :
      Conducted answer color o (waiting ++ asking) (.error why)
  /-- the job is begun -/
  | begun {waiting asking working : List Call} {ended : Except (Stop Error) Unit} {s s' : σ}
      (waited : Attached waiting (.ok ())) (agreed : Agreed o asking)
      (job : Recorded answer (doJob color o.client o.job) s working ended s')
      (writes : o.job.Writes o.chunkSize.toNat (packets working)) :
      Conducted answer color o (waiting ++ (asking ++ working)) ended

/-- what a client asks when it asks for NACKs, and the response that makes it go on -/
theorem recorded_requestNacks {ended : Except (Stop Error) Client}
    (h : Recorded answer c.requestNacks s calls ended s') :
    ∃ k ≤ c.retries.toNat + 1, packets calls = List.replicate k (Command.of .nackMode 0).encode ∧
      ∀ c', ended = .ok c' → c' = { c with nacks := true } ∧
        ∃ (before : List Call) (ack : Vector UInt8 Response.width),
          calls = before ++ [⟨.link (.write (Command.of .nackMode 0).encode), .ok ()⟩,
            ⟨.link (.read Response.width), .ok ack⟩] ∧ (Response.decode ack).isAck = true := by
  let request : Talk Unit := do
    demand (Link.sendCommand (.of .nackMode 0))
    Client.awaitAck .nackMode 0
  have once {s s' : σ} {calls : List Call} {ended : Except (Stop Error) Unit}
      (h : Recorded answer request s calls ended s') :
      packets calls = [(Command.of .nackMode 0).encode] := by
    rcases h.of_bind with ⟨why, rfl, stopped⟩ | ⟨first, _, s₁, rest, rfl, sent, waiting⟩
    · exact packets_demand stopped
    · rw [packets_append, packets_demand sent, packets_quiet ((Client.only_awaitAck ..).recorded waiting)]
      rfl
  rcases h.of_bind with ⟨why, rfl, stopped⟩ | ⟨asking, _, s₁, rest, rfl, agreed, going⟩
  · obtain ⟨k, few, requests, -⟩ := (Client.insisted stopped).packets once
    exact ⟨k, few, requests, nofun⟩
  · obtain ⟨k, few, requests, -⟩ := (Client.insisted agreed).packets once
    obtain ⟨rfl, rfl, -⟩ := going.unique (recorded_done { c with nacks := true } s₁)
    rw [List.append_nil]
    refine ⟨k, few, requests, ?_⟩
    intro c' same
    cases same
    obtain ⟨before, last, s₂, rfl, answered⟩ := c.recorded_insist _ agreed
    obtain ⟨first, _, s₃, rest, rfl, sent, waiting⟩ := answered.of_bind_ok
    obtain rfl := Client.recorded_sent sent
    obtain ⟨ack, rfl, isAck⟩ := Client.recorded_awaitAck waiting
    exact ⟨rfl, before, ack, rfl, isAck⟩

/-- what is asked before a job -/
theorem recorded_negotiate (o : Order) {ended : Except (Stop Error) Client}
    (h : Recorded answer (negotiate color { retries := o.retries, chunkSize := o.chunkSize } o.nack) s calls
      ended s') :
    (∃ why k, ended = .error why ∧ o.nack = true ∧ k ≤ o.retries.toNat + 1 ∧
        packets calls = List.replicate k (Command.of .nackMode 0).encode) ∨
      (ended = .ok o.client ∧ Agreed o calls) := by
  cases wanted : o.nack with
  | false =>
    rw [wanted] at h
    obtain ⟨rfl, rfl, -⟩ := h.unique (recorded_done _ s)
    exact .inr ⟨by rw [Order.client, wanted], .unasked wanted⟩
  | true =>
    rw [wanted] at h
    obtain ⟨rest, rfl, reporting⟩ := Recorded.of_ask h
    obtain ⟨asking, told, s₁, rfl, asked, silent⟩ := recorded_report reporting
    obtain ⟨k, few, requests, answered⟩ := recorded_requestNacks asked
    cases ended with
    | error why =>
      refine .inl ⟨why, k, rfl, rfl, few, ?_⟩
      show packets (asking ++ told) = _
      rw [packets_append, requests, silent, List.append_nil]
    | ok c' =>
      obtain ⟨rfl, before, ack, rfl, isAck⟩ := answered c' rfl
      -- the last of the requests is the one that was answered
      have earlier : packets before ++ [(Command.of .nackMode 0).encode] =
          List.replicate k (Command.of .nackMode 0).encode := by
        rw [← requests, packets_append]
        rfl
      obtain ⟨k, rfl⟩ : ∃ k', k = k' + 1 := by
        refine Nat.exists_eq_succ_of_ne_zero fun zero => ?_
        rw [zero] at earlier
        cases (List.append_eq_nil_iff.mp earlier).2
      rw [List.replicate_succ', List.append_left_inj] at earlier
      refine .inr ⟨by rw [Order.client, wanted], ?_⟩
      show Agreed o ((⟨.print "Enabling NACK mode... ", ()⟩ :: before) ++ _ ++ told)
      exact .asked wanted (Nat.le_of_succ_le_succ few) earlier isAck silent

theorem conducted (o : Order) (divides : o.chunkSize.toNat ∣ blockSize) {ended : Except (Stop Error) Unit}
    (h : Recorded answer (run color o) s calls ended s') : Conducted answer color o calls ended := by
  have some_ : o.chunkSize ≠ 0 := by
    intro zero
    rw [zero] at divides
    exact absurd divides (by decide)
  have fits : (o.chunkSize = 0 || blockSize % o.chunkSize.toNat != 0) = false := by
    rw [Nat.mod_eq_zero_of_dvd divides]
    simpa using some_
  rw [run, fits] at h
  rcases h.of_bind with ⟨why, rfl, stopped⟩ | ⟨opening, _, s₁, rest, rfl, opened, greeting⟩
  · exact .unattached why (.unheard why (packets_quiet ((only_openPort color o).recorded stopped)))
  have unopened := packets_quiet ((only_openPort color o).recorded opened)
  obtain ⟨rest, rfl, powering⟩ := recorded_told greeting
  obtain ⟨rest, rfl, attaching⟩ := recorded_told powering
  let told : List Call := [⟨.print "Power on the board now\n", ()⟩, ⟨.print "Waiting for HELLO... ", ()⟩]
  have before {waiting : List Call} {ended : Except (Stop Error) Unit} {s s' : σ}
      (h : Recorded answer (report color
        (Client.attach { retries := o.retries, chunkSize := o.chunkSize } o.wait)) s waiting ended s') :
      Attached (opening ++ (told ++ waiting)) ended := by
    obtain ⟨made, reported, s₂, rfl, attached, silent⟩ := recorded_report h
    exact (((Client.recorded_attach attached).append silent).after rfl).after unopened
  rcases attaching.of_bind with ⟨why, rfl, stopped⟩ | ⟨waiting, _, s₂, rest, rfl, attached, going⟩
  · exact .unattached why (before stopped)
  have whole (rest : List Call) : opening ++ (⟨.print "Power on the board now\n", ()⟩ ::
      ⟨.print "Waiting for HELLO... ", ()⟩ :: (waiting ++ rest)) = opening ++ (told ++ waiting) ++ rest := by
    simp only [List.append_assoc]
    rfl
  rw [whole]
  rcases going.of_bind with ⟨why, rfl, stopped⟩ | ⟨asking, client, s₃, working, rfl, negotiated, job⟩
  · rcases recorded_negotiate o stopped with ⟨_, k, same, wanted, few, requests⟩ | ⟨same, -⟩
    · exact .unagreed why (before attached) wanted few requests
    · cases same
  · rcases recorded_negotiate o negotiated with ⟨why, k, same, -⟩ | ⟨same, agreed⟩
    · cases same
    · cases same
      exact .begun (before attached) agreed job (o.job.writes divides job)

/-! ## All packets of an order -/

theorem Attached.written {ended : Except (Stop Error) Unit} (h : Attached calls ended) :
    packets calls = [] ∨ packets calls = [Response.ack.encode] := by
  cases h with
  | unheard why silent => exact .inl silent
  | heard greeted silent went =>
    refine .inr ?_
    rw [packets_append, greeted.silent]
    exact congrArg (Response.ack.encode :: ·) silent

theorem Agreed.written {o : Order} (h : Agreed o calls) :
    ∀ bytes ∈ packets calls, o.nack = true ∧ bytes = (Command.of .nackMode 0).encode := by
  cases h with
  | unasked without => exact fun bytes mem => nomatch mem
  | asked wanted few requests acknowledged silent =>
    intro bytes mem
    rw [packets_append, packets_append, requests, silent, List.append_nil] at mem
    refine ⟨wanted, ?_⟩
    rcases List.mem_append.mp mem with early | last
    · exact List.eq_of_mem_replicate early
    · exact List.mem_singleton.mp last

theorem Conducted.written {o : Order} {ended : Except (Stop Error) Unit}
    (h : Conducted answer color o calls ended) : ∀ bytes ∈ packets calls, bytes = Response.ack.encode ∨
      (o.nack = true ∧ bytes = (Command.of .nackMode 0).encode) ∨
        ∃ written, o.job.Writes o.chunkSize.toNat written ∧ bytes ∈ written := by
  have attached {waiting : List Call} {ended : Except (Stop Error) Unit} (h : Attached waiting ended) :
      ∀ bytes ∈ packets waiting, bytes = Response.ack.encode := by
    intro bytes mem
    rcases h.written with none_ | one
    · rw [none_] at mem
      cases mem
    · rw [one] at mem
      exact List.mem_singleton.mp mem
  intro bytes mem
  cases h with
  | unattached why waited => exact .inl (attached waited bytes mem)
  | unagreed why waited wanted few requests =>
    rw [packets_append, requests] at mem
    rcases List.mem_append.mp mem with early | late
    · exact .inl (attached waited bytes early)
    · exact .inr (.inl ⟨wanted, List.eq_of_mem_replicate late⟩)
  | begun waited agreed job writes =>
    rw [packets_append, packets_append] at mem
    rcases List.mem_append.mp mem with early | late
    · exact .inl (attached waited bytes early)
    · rcases List.mem_append.mp late with asked | worked
      · exact .inr (.inl (agreed.written bytes asked))
      · exact .inr (.inr ⟨_, writes, worked⟩)

theorem encode_ne_nackMode (op : Opcode) (other : op ≠ .nackMode) (block : UInt16) :
    (Command.of op block).encode ≠ (Command.of .nackMode 0).encode := by
  intro same
  have byte : op.byte = Opcode.nackMode.byte := (List.cons.inj same).1
  have known := Opcode.ofByte?_byte op
  rw [byte, Opcode.ofByte?_byte] at known
  exact other (Option.some.inj known).symm

/-- a chunk cannot be taken for a command, since its size divides that of a block -/
theorem Content.ne_nackMode {n : Nat} (divides : n ∣ blockSize) {bytes : List UInt8} (h : Content n bytes) :
    bytes ≠ (Command.of .nackMode 0).encode := by
  rcases h with ⟨block, rfl⟩ | ⟨block, rfl⟩ | length
  · exact encode_ne_nackMode .checksum (by decide) block
  · exact encode_ne_nackMode .write (by decide) block
  · rintro rfl
    rw [← length, Command.length_encode] at divides
    exact absurd divides (by decide)

theorem Job.Writes.ne_nackMode {n : Nat} (divides : n ∣ blockSize) {job : Job} {written : List (List UInt8)}
    (h : job.Writes n written) : ∀ bytes ∈ written, bytes ≠ (Command.of .nackMode 0).encode := by
  intro bytes mem
  cases job with
  | wait =>
    rw [show written = [] from h] at mem
    cases mem
  | checksum block count =>
    obtain ⟨block, rfl⟩ := h bytes mem
    exact encode_ne_nackMode .checksum (by decide) block
  | write path start count => exact (h bytes mem).ne_nackMode divides
  | flash path =>
    rcases h bytes mem with content | rfl
    · exact content.ne_nackMode divides
    · exact encode_ne_nackMode .exit (by decide) 0
  | reset =>
    rw [show written = _ from h, List.mem_singleton] at mem
    exact mem ▸ encode_ne_nackMode .reset (by decide) 0
  | exit =>
    rw [show written = _ from h, List.mem_singleton] at mem
    exact mem ▸ encode_ne_nackMode .exit (by decide) 0

/-- a job that sends no blocks writes nothing but commands, and no WRITE -/
theorem Job.Writes.bare {n : Nat} {job : Job} (still : job.streams = false) {written : List (List UInt8)}
    (h : job.Writes n written) : ∀ bytes ∈ written, ∃ op ∈ [Opcode.checksum, .reset, .exit], ∃ block,
      bytes = (Command.of op block).encode := by
  intro bytes mem
  cases job with
  | wait =>
    rw [show written = [] from h] at mem
    cases mem
  | checksum block count => exact ⟨.checksum, by decide, h bytes mem⟩
  | write path start count => cases still
  | flash path => cases still
  | reset =>
    rw [show written = _ from h, List.mem_singleton] at mem
    exact ⟨.reset, by decide, 0, mem⟩
  | exit =>
    rw [show written = _ from h, List.mem_singleton] at mem
    exact ⟨.exit, by decide, 0, mem⟩

theorem run_refused {o : Order} (refused : o.chunkSize = 0 ∨ ¬ o.chunkSize.toNat ∣ blockSize) :
    run color o = throw (.other ("Chunk size must divide " ++ toString blockSize)) := by
  have unfit : (o.chunkSize = 0 || blockSize % o.chunkSize.toNat != 0) = true := by
    rcases refused with zero | rest
    · rw [decide_eq_true zero, Bool.true_or]
    · rw [bne_iff_ne.mpr fun none_ => rest (Nat.dvd_of_mod_eq_zero none_), Bool.or_true]
  rw [run, unfit]
  rfl

/-- whatever its machine replies, an order keeps to the order of a session; one that cannot be carried out does
not even open the port -/
theorem conduct {o : Order} {ended : Except (Stop Error) Unit}
    (h : Recorded answer (run color o) s calls ended s') :
    (o.chunkSize = 0 ∨ ¬ o.chunkSize.toNat ∣ blockSize →
      calls = [] ∧ ended = .error (.failed (.other ("Chunk size must divide " ++ toString blockSize)))) ∧
    (o.chunkSize ≠ 0 → o.chunkSize.toNat ∣ blockSize → Conducted answer color o calls ended ∧
      (o.nack = false → (Command.of .nackMode 0).encode ∉ packets calls) ∧
      (o.job.streams = false → ∀ bytes ∈ packets calls, bytes = Response.ack.encode ∨
        ∃ op ∈ [Opcode.nackMode, .checksum, .reset, .exit], ∃ block,
          bytes = (Command.of op block).encode)) := by
  refine ⟨fun refused => ?_, fun _ divides => ?_⟩
  · rw [run_refused refused] at h
    obtain ⟨rfl, rfl, -⟩ := h.unique (recorded_stop _ s)
    exact ⟨rfl, rfl⟩
  have way := conducted o divides h
  refine ⟨way, fun without mem => ?_, fun still bytes mem => ?_⟩
  · rcases way.written _ mem with acknowledges | ⟨wanted, -⟩ | ⟨written, writes, among⟩
    · exact absurd acknowledges (by decide)
    · cases without.symm.trans wanted
    · exact writes.ne_nackMode divides _ among rfl
  · rcases way.written _ mem with acknowledges | ⟨-, asks⟩ | ⟨written, writes, among⟩
    · exact .inl acknowledges
    · exact .inr ⟨.nackMode, by decide, 0, asks⟩
    · obtain ⟨op, known, sent⟩ := writes.bare still bytes among
      exact .inr ⟨op, List.mem_cons_of_mem _ known, sent⟩

end

/-- a board that says HELLO, agrees on NACKs at the second time it is asked, and is reset -/
theorem conduct_reset :
    let o : Order := { serialPort := "/dev/ttyS0", nack := true, job := .reset }
    let remote := Remote.scripted [.bytes [0x00, 0x10, 0x00, 0x00]] [[], [.gap], [.bytes [1, 0, 0]], []]
    let d : Desk := { cable := .connect .duplex 500 remote, folder := Desk.working [] }
    ∃ calls d', Recorded Desk.answer (run false o) d calls (.ok ()) d' ∧
      packets calls = [Response.ack.encode, (Command.of .nackMode 0).encode, (Command.of .nackMode 0).encode,
        (Command.of .reset 0).encode] ∧
      Conducted Desk.answer false o calls (.ok ()) := by
  intro o remote d
  have ran : ((run false o).run Desk.answer d).1 = .ok () := by decide +kernel
  have written : packets ((run false o).transcript Desk.answer d) = [Response.ack.encode,
      (Command.of .nackMode 0).encode, (Command.of .nackMode 0).encode, (Command.of .reset 0).encode] := by
    decide +kernel
  have went := recorded (Prod.ext ran rfl : (run false o).run Desk.answer d = (.ok (), _))
  exact ⟨_, _, went, written, ((conduct went).2 (by decide) (by decide)).1⟩

end FlashRescue.Host
