import FlashRescue.Host.Client
import FlashRescue.Proofs.Dialogue.Course

/-!
# Packets at the host's end

What the transfers of a client come to, whoever answers them.

* `run_demand_ok`, `run_demand_error`  a transfer that went through, and one that did not;
* `run_awaitAck`, `run_awaitAck_nack`, `run_readChecksum`  the packets a client waits for;
* `run_discard`                        nothing is queued;
* `run_insist`, `run_insist_late`, `run_insist_refused`  a request at its first attempt;
* `run_insist_drained`                 a request with replies left over from before;
* `insist_ok`                          a request that is answered at some attempt;
* `insist_only`, `insist_halts`        what the queries of a request and of what is thrown away before it have in
                                       common, and what their stops have;
* `only_checksum`, `only_requestNacks` all that a client writes to have an answer.
-/

namespace FlashRescue.Host

variable {σ α : Type} {answer : machine.Answerer σ} {s s' : σ}

/-! ## Transfers -/

theorem run_demand_ok {transfer : Talk (Except LinkError α)} {value : α}
    (h : transfer.run answer s = (.ok (.ok value), s')) :
    (demand transfer).run answer s = (.ok value, s') :=
  Dialogue.run_bind_ok h

theorem run_demand_error {transfer : Talk (Except LinkError α)} {e : LinkError}
    (h : transfer.run answer s = (.ok (.error e), s')) :
    (demand transfer).run answer s = (.error (.failed (.packet e)), s') :=
  Dialogue.run_bind_ok h

theorem demand_ok {transfer : Talk (Except LinkError α)} {value : α}
    (h : (demand transfer).run answer s = (.ok value, s')) :
    transfer.run answer s = (.ok (.ok value), s') := by
  obtain ⟨ended, s₁, ran, rest⟩ := Dialogue.run_bind_eq_ok h
  cases ended with
  | ok v =>
    cases rest
    exact ran
  | error e => cases rest

theorem map_read_ok {n : Nat} {f : Vector UInt8 n → α} {value : α}
    (h : (Except.map f <$> (Link.read n : Talk _)).run answer s = (.ok (.ok value), s')) :
    ∃ bytes, (Link.read n : Talk _).run answer s = (.ok (.ok bytes), s') ∧ value = f bytes := by
  obtain ⟨ended, ran, same⟩ := Dialogue.run_map_eq_ok h
  cases ended with
  | ok bytes => exact ⟨bytes, ran, Except.ok.inj same⟩
  | error e => cases same

theorem run_readResponse {bytes : Vector UInt8 Response.width}
    (h : (Link.read Response.width : Talk _).run answer s = (.ok (.ok bytes), s')) :
    (demand Link.readResponse : Talk Response).run answer s = (.ok (.decode bytes), s') := by
  refine run_demand_ok ?_
  rw [Link.readResponse, Dialogue.run_map, h]
  rfl

namespace Client

theorem run_awaitAck {bytes : Vector UInt8 Response.width}
    (h : (Link.read Response.width : Talk _).run answer s = (.ok (.ok bytes), s'))
    (ack : bytes.toList = Response.ack.encode) (op : Opcode) (block : UInt16) :
    (awaitAck op block).run answer s = (.ok (), s') := by
  have first : bytes = #v[1, 0, 0] := Vector.toList_inj.mp ack
  rw [awaitAck, Dialogue.run_bind_ok (run_readResponse h), first]
  rfl

theorem run_awaitAck_nack {bytes : Vector UInt8 Response.width}
    (h : (Link.read Response.width : Talk _).run answer s = (.ok (.ok bytes), s'))
    (nack : bytes.toList = Response.nack.encode) (op : Opcode) (block : UInt16) :
    (awaitAck op block).run answer s = (.error (.failed (.nack op block)), s') := by
  have second : bytes = #v[2, 0, 0] := Vector.toList_inj.mp nack
  rw [awaitAck, Dialogue.run_bind_ok (run_readResponse h), second]
  rfl

theorem run_awaitAck_error {e : LinkError}
    (h : (Link.read Response.width : Talk _).run answer s = (.ok (.error e), s')) (op : Opcode)
    (block : UInt16) : (awaitAck op block).run answer s = (.error (.failed (.packet e)), s') := by
  refine Dialogue.run_bind_error (run_demand_error ?_)
  rw [Link.readResponse, Dialogue.run_map, h]
  rfl

theorem run_readChecksum {bytes : Vector UInt8 4}
    (h : (Link.read 4 : Talk _).run answer s = (.ok (.ok bytes), s')) (crc : UInt32)
    (sum : bytes.toList = ByteOrder.little.encode 4 crc.toNat) :
    (demand Link.readChecksum : Talk UInt32).run answer s = (.ok crc, s') := by
  have number : ByteOrder.little.decode bytes.toList = crc.toNat := by
    have small := crc.toNat_lt
    rw [sum, ByteOrder.decode_encode]
    exact Nat.mod_eq_of_lt small
  refine run_demand_ok ?_
  rw [Link.readChecksum, Link.readNumber, Dialogue.run_map, Dialogue.run_map, h]
  show (Except.ok (Except.ok (UInt32.ofNat (ByteOrder.little.decode bytes.toList))), s') = _
  rw [number, UInt32.ofNat_toNat]

theorem awaitAck_ok {op : Opcode} {block : UInt16} {taken : Unit}
    (h : (awaitAck op block).run answer s = (.ok taken, s')) :
    ∃ bytes, (Link.read Response.width : Talk _).run answer s = (.ok (.ok bytes), s') := by
  obtain ⟨response, s₁, read, rest⟩ := Dialogue.run_bind_eq_ok h
  obtain ⟨bytes, ran, -⟩ := map_read_ok (demand_ok read)
  refine ⟨bytes, ?_⟩
  split at rest
  · cases rest
    exact ran
  · split at rest <;> cases rest

theorem readChecksum_ok {crc : UInt32}
    (h : (demand Link.readChecksum : Talk UInt32).run answer s = (.ok crc, s')) :
    ∃ bytes : Vector UInt8 4, (Link.read 4 : Talk _).run answer s = (.ok (.ok bytes), s') ∧
      bytes.toList = ByteOrder.little.encode 4 crc.toNat := by
  obtain ⟨number, read, same⟩ := Dialogue.run_map_eq_ok (demand_ok h)
  cases number with
  | error e => cases same
  | ok number =>
    obtain ⟨bytes, ran, value⟩ := map_read_ok read
    have digits := ByteOrder.encode_decode .little bytes.toList
    have small := ByteOrder.decode_encode .little 4 (ByteOrder.decode .little bytes.toList)
    rw [Vector.length_toList] at digits
    rw [digits, ← value] at small
    have crc_eq : crc.toNat = number := by
      have equal : crc = UInt32.ofNat number := Except.ok.inj same
      rw [equal, UInt32.toNat_ofNat']
      exact small.symm
    refine ⟨bytes, ran, ?_⟩
    rw [crc_eq, value]
    exact digits.symm

theorem run_discard {c : Client} (rounds : c.rounds ≠ 0)
    (idle : (Link.poll : Talk Bool).run answer s = (.ok false, s')) :
    c.discard.run answer s = (.ok (), s') := by
  obtain ⟨n, more⟩ := Nat.exists_eq_succ_of_ne_zero rounds
  rw [discard, more, discardFor, Dialogue.run_bind_ok idle]
  rfl

/-- a request without an answer is made again -/
theorem run_insist_late (c : Client) {request : Talk α} {e : Error} {s'' : σ} (again : Nat)
    (quiet : c.discard.run answer s = (.ok (), s'))
    (h : request.run answer s' = (.error (.failed e), s'')) (late : e.isTimeout = true) :
    (c.insist request (again + 1)).run answer s = (c.insist request again).run answer s'' := by
  rw [insist, Dialogue.run_bind_ok quiet, Dialogue.run_bind_ok (Dialogue.run_trial_failed h)]
  show (if e.isTimeout then c.insist request again else throw e).run answer s'' = _
  rw [if_pos late]

/-- a request that fails otherwise is not -/
theorem run_insist_refused (c : Client) {request : Talk α} {e : Error} {s'' : σ} (again : Nat)
    (quiet : c.discard.run answer s = (.ok (), s'))
    (h : request.run answer s' = (.error (.failed e), s'')) (refused : e.isTimeout = false) :
    (c.insist request again).run answer s = (.error (.failed e), s'') := by
  cases again with
  | zero => rw [insist, Dialogue.run_bind_ok quiet, h]
  | succ again =>
    rw [insist, Dialogue.run_bind_ok quiet, Dialogue.run_bind_ok (Dialogue.run_trial_failed h)]
    show (if e.isTimeout then c.insist request again else throw e).run answer s'' = _
    rw [refused]
    rfl

theorem run_insist (c : Client) {request : Talk α} {value : α} {s'' : σ} (again : Nat)
    (quiet : c.discard.run answer s = (.ok (), s'))
    (h : request.run answer s' = (.ok value, s'')) :
    (c.insist request again).run answer s = (.ok value, s'') := by
  cases again with
  | zero => rw [insist, Dialogue.run_bind_ok quiet, h]
  | succ again =>
    rw [insist, Dialogue.run_bind_ok quiet, Dialogue.run_bind_ok (Dialogue.run_trial_ok h)]
    rfl

/-- a request goes on as it does where nothing is left over, once all that was is thrown away -/
theorem run_insist_drained (c : Client) (request : Talk α) (again : Nat)
    (quiet : c.discard.run answer s = (.ok (), s')) (still : c.discard.run answer s' = (.ok (), s')) :
    (c.insist request again).run answer s = (c.insist request again).run answer s' := by
  cases again with
  | zero => rw [insist, Dialogue.run_bind_ok quiet, Dialogue.run_bind_ok still]
  | succ again => rw [insist, Dialogue.run_bind_ok quiet, Dialogue.run_bind_ok still]

end Client

/-! ## What is written -/

def isWrite : machine.Query → Bool
  | .link (.write _) => true
  | _ => false

/-- a query that writes such bytes, or none -/
def Writes (bytes : List UInt8) : machine.Query → Prop
  | .link (.write written) => written = bytes
  | _ => True

theorem writes_of_quiet (bytes : List UInt8) (query : machine.Query) (quiet : isWrite query = false) :
    Writes bytes query := by
  cases query with
  | link query =>
    cases query with
    | write _ => cases quiet
    | read _ | poll => trivial
  | now | sleep _ | print _ | openPort _ _ _ | readFile _ => trivial

section
open Dialogue
variable {kind : machine.Query → Prop} {bytes : List UInt8}

theorem only_read (n : Nat) : (Link.read n : Talk _).Only fun query => isWrite query = false :=
  ⟨rfl, fun _ => trivial⟩

theorem only_write (bytes : List UInt8) : (Link.write bytes : Talk _).Only (Writes bytes) :=
  ⟨rfl, fun _ => trivial⟩

theorem only_demand {transfer : Talk (Except LinkError α)} (h : transfer.Only kind) :
    (demand transfer).Only kind := by
  refine only_bind h ?_
  intro ended
  cases ended <;> trivial

namespace Client

/-! ## Queries of any kind -/

section
variable {block : UInt16}

theorem awaitAck_only (read : kind (.link (.read Response.width))) (op : Opcode) (block : UInt16) :
    (awaitAck op block).Only kind := by
  refine only_bind (only_demand (only_map _ ⟨read, fun _ => trivial⟩)) ?_
  intro response
  split
  · trivial
  · split <;> trivial

theorem readChecksum_only (read : kind (.link (.read 4))) : (demand Link.readChecksum : Talk UInt32).Only kind :=
  only_demand (only_map _ (only_map _ ⟨read, fun _ => trivial⟩))

theorem checksumOnce_only (reads : ∀ n, kind (.link (.read n)))
    (writes : kind (.link (.write (Command.of .checksum block).encode))) : (checksumOnce block).Only kind := by
  refine only_bind (only_demand ⟨writes, fun _ => trivial⟩) fun _ => ?_
  exact only_bind (awaitAck_only (reads _) ..) fun _ => readChecksum_only (reads 4)

variable (read : kind (.link (.read 1))) (polls : kind (.link .poll))
include read polls

theorem discard_only (c : Client) : c.discard.Only kind := by
  rw [discard]
  induction c.rounds with
  | zero => trivial
  | succ rounds ih =>
    refine ⟨polls, fun queued => ?_⟩
    cases queued with
    | false => trivial
    | true =>
      refine ⟨read, fun byte => ?_⟩
      cases byte with
      | ok byte => exact ih
      | error e => trivial

theorem insist_only (c : Client) {request : Talk α} (again : Nat) (h : request.Only kind) :
    (c.insist request again).Only kind := by
  have quiet : c.discard.Only kind := discard_only read polls c
  induction again with
  | zero => exact only_bind quiet fun _ => h
  | succ again ih =>
    refine only_bind quiet fun _ => only_bind (only_trial h) ?_
    intro ended
    cases ended with
    | ok value => trivial
    | error e =>
      show (if e.isTimeout then c.insist request again else throw e).Only _
      split
      · exact ih
      · trivial

end

/-! ## Stops of any kind -/

section
variable {stops : Stop Error → Prop} {block : UInt16}

section
variable (packet : ∀ e, stops (.failed (.packet e)))
include packet

theorem demand_halts {transfer : Talk (Except LinkError α)} (h : transfer.Halts stops) :
    (demand transfer).Halts stops := by
  refine halts_bind h ?_
  intro reply
  cases reply with
  | ok value => trivial
  | error e => exact packet e

theorem send_halts (bytes : List UInt8) : (demand (Link.write bytes) : Talk Unit).Halts stops :=
  demand_halts packet fun _ => trivial

theorem awaitAck_halts {op : Opcode} (nack : stops (.failed (.nack op block))) (noAck : stops (.failed (.noAck op))) :
    (awaitAck op block).Halts stops := by
  have read : (Link.readResponse : Talk _).Halts stops := fun _ => trivial
  refine halts_bind (demand_halts packet read) ?_
  intro response
  split
  · trivial
  · split
    · exact nack
    · exact noAck

theorem checksumOnce_halts (nack : stops (.failed (.nack .checksum block)))
    (noAck : stops (.failed (.noAck .checksum))) : (checksumOnce block).Halts stops := by
  have read : (Link.readChecksum : Talk _).Halts stops := fun _ => trivial
  refine halts_bind (send_halts packet _) fun _ => ?_
  exact halts_bind (awaitAck_halts packet nack noAck) fun _ => demand_halts packet read

theorem sendChunks_halts (nack : stops (.failed (.nack .write block))) (noAck : stops (.failed (.noAck .write)))
    (pieces : List (List UInt8)) : (pieces.forM (sendChunk block)).Halts stops :=
  halts_forM (fun piece => halts_bind (send_halts packet piece) fun _ => awaitAck_halts packet nack noAck) pieces

end

variable (link : ∀ e, stops (.failed (.link e))) (unfinished : stops .unfinished)
include link unfinished

theorem discard_halts (c : Client) : c.discard.Halts stops := by
  rw [discard]
  induction c.rounds with
  | zero => exact unfinished
  | succ rounds ih =>
    intro queued
    cases queued with
    | false => trivial
    | true =>
      intro byte
      cases byte with
      | ok byte => exact ih
      | error e => exact link e

theorem insist_halts (c : Client) {request : Talk α} (again : Nat) (h : request.Halts stops) :
    (c.insist request again).Halts stops := by
  have quiet : c.discard.Halts stops := discard_halts link unfinished c
  induction again with
  | zero => exact halts_bind quiet fun _ => h
  | succ again ih =>
    apply halts_bind quiet
    intro _
    apply halts_trial h
    · intro value
      trivial
    · intro e stopped
      show (if e.isTimeout then c.insist request again else throw e).Halts stops
      split
      · exact ih
      · exact stopped

end

/-! ## Writes -/

theorem only_awaitAck (op : Opcode) (block : UInt16) :
    (awaitAck op block).Only fun query => isWrite query = false :=
  awaitAck_only (by rfl) op block

theorem only_readChecksum :
    (demand Link.readChecksum : Talk UInt32).Only fun query => isWrite query = false :=
  readChecksum_only (by rfl)

theorem only_discard (c : Client) : c.discard.Only fun query => isWrite query = false := by
  apply discard_only
  · rfl
  · rfl

theorem only_insist (c : Client) {request : Talk α} (again : Nat)
    (h : request.Only (Writes bytes)) : (c.insist request again).Only (Writes bytes) :=
  insist_only trivial trivial c again h

theorem only_checksumOnce (block : UInt16) :
    (checksumOnce block).Only (Writes (Command.of .checksum block).encode) :=
  checksumOnce_only (fun _ => trivial) rfl

/-- CHECKSUM, as often as there was no answer -/
theorem only_checksum (c : Client) (block : UInt16) :
    (c.checksum block).Only (Writes (Command.of .checksum block).encode) :=
  c.only_insist _ (only_checksumOnce block)

theorem only_requestNacks (c : Client) :
    c.requestNacks.Only (Writes (Command.of .nackMode 0).encode) := by
  refine only_bind (c.only_insist _ ?_) fun _ => trivial
  exact only_bind (only_demand (only_write _)) fun _ =>
    (only_awaitAck ..).mono (writes_of_quiet _)

theorem only_readBack (c : Client) (block : UInt16) :
    (c.readBack block).Only (Writes (Command.of .checksum block).encode) := by
  refine only_bind (only_trial (only_checksumOnce block)) ?_
  intro ended
  cases ended with
  | ok crc => trivial
  | error e =>
    dsimp only
    split
    · trivial
    · split
      · exact c.only_checksum block
      · trivial

/-! ## The last attempt -/

/-- a request that is answered is answered at its last attempt, whatever went before -/
theorem insist_ok (c : Client) {request : Talk α} {value : α} {P : σ → Prop}
    (kept : ∀ s, P s → P (c.discard.run answer s).2 ∧ P (request.run answer s).2) (again : Nat)
    (first : ∀ s₁, c.discard.run answer s = (.ok (), s₁) → P s₁)
    (h : (c.insist request again).run answer s = (.ok value, s')) :
    ∃ before start, c.discard.run answer before = (.ok (), start) ∧ P start ∧
      request.run answer start = (.ok value, s') ∧
      ∀ sending, request.lastly answer isWrite start = some sending →
        (c.insist request again).lastly answer isWrite s = some sending := by
  induction again generalizing s with
  | zero =>
    obtain ⟨_, s₁, quiet, asked⟩ := run_bind_eq_ok h
    refine ⟨s, s₁, quiet, first s₁ quiet, asked, fun sending last => ?_⟩
    rw [insist, lastly_bind_ok quiet, last]
    rfl
  | succ again ih =>
    obtain ⟨_, s₁, quiet, asked⟩ := run_bind_eq_ok h
    obtain ⟨ended, s₂, tried, rest⟩ := run_bind_eq_ok asked
    have inv₁ := first s₁ quiet
    have inv₂ := (kept s₁ inv₁).2
    rw [run_trial_eq_ok tried] at inv₂
    cases ended with
    | ok v =>
      cases rest
      refine ⟨s, s₁, quiet, inv₁, run_trial_eq_ok tried, fun sending last => ?_⟩
      rw [insist, lastly_bind_ok quiet, lastly_bind_ok tried, lastly_trial, last]
      rfl
    | error e =>
      have rest' : (if e.isTimeout then c.insist request again else throw e).run answer s₂ =
        (.ok value, s') := rest
      by_cases late : e.isTimeout = true
      · rw [if_pos late] at rest'
        have second : ∀ s₃, c.discard.run answer s₂ = (.ok (), s₃) → P s₃ := by
          intro s₃ quiet'
          have inv₃ := (kept s₂ inv₂).1
          rwa [quiet'] at inv₃
        obtain ⟨before, start, drained, inv', answered, last⟩ := ih second rest'
        refine ⟨before, start, drained, inv', answered, fun sending sent => ?_⟩
        rw [insist, lastly_bind_ok quiet, lastly_bind_ok tried]
        show Option.or (Option.or ((if e.isTimeout then c.insist request again else throw e).lastly
          answer isWrite s₂) _) _ = _
        rw [if_pos late, last sending sent]
        rfl
      · rw [if_neg late] at rest'
        cases rest'

end Client

end

end FlashRescue.Host
