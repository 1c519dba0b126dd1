import FlashRescue.Proofs.Host.ReadBack

/-!
# Packets that are acknowledged

How a packet goes out whose acknowledgement is waited for, and how the bytes that are still queued before it
are thrown away in vain, whatever the machine replies.

* `Host.refusal`    what a response is reported as that is no ACK;
* `Host.Handed`     the ways in which such a packet can go; `recorded_handed`: there are no others;
* `Host.Clogged`    the ways in which throwing away can fail; `recorded_clogged`: there are no others;
* `Host.breach?`    the error that a reply amounts to;
* `Host.Unbroken`, `Host.BrokenOff`  no reply amounts to one, or just the last does;
* `Host.acks`       how many responses were ACKs.
-/

namespace FlashRescue.Host

open Dialogue

section
variable (op : Opcode) (block : UInt16)

/-! ## The ways of a packet -/

/-- what a response is reported as that is no ACK -/
def refusal (response : Response) : Error :=
  if response.isNack then .nack op block else .noAck op

/-- the ways in which bytes can go out whose acknowledgement is waited for -/
inductive Handed (bytes : List UInt8) : List Call → Except (Stop Error) Unit → Prop
  /-- they do not go out -/
  | unsent (e : LinkError) :
      Handed bytes [⟨.link (.write bytes), .error e⟩] (.error (.failed (.packet e)))
  /-- no response comes -/
  | unheard (e : LinkError) :
      Handed bytes [⟨.link (.write bytes), .ok ()⟩, ⟨.link (.read Response.width), .error e⟩]
        (.error (.failed (.packet e)))
  /-- the response is no ACK -/
  | refused {response : Vector UInt8 Response.width} (other : (Response.decode response).isAck = false) :
      Handed bytes [⟨.link (.write bytes), .ok ()⟩, ⟨.link (.read Response.width), .ok response⟩]
        (.error (.failed (refusal op block (.decode response))))
  | taken {calls : List Call} (taken : Taken bytes calls) : Handed bytes calls (.ok ())

/-! ## Replies that amount to an error -/

/-- the error that a reply amounts to where an acknowledgement is asked for: a byte that is to be thrown away
cannot be read, something cannot be sent or read, or a response is no ACK -/
def breach? : Call → Option Error
  | ⟨.link (.write _), .error e⟩ => some (.packet e)
  | ⟨.link (.read 1), .error e⟩ => some (.link e)
  | ⟨.link (.read _), .error e⟩ => some (.packet e)
  | ⟨.link (.read 3), .ok response⟩ =>
    if (Response.decode response).isAck then none else some (refusal op block (.decode response))
  | _ => none

/-- no reply amounts to an error -/
def Unbroken (calls : List Call) : Prop := ∀ call ∈ calls, breach? op block call = none

/-- the last reply amounts to this error, and none before it to any -/
def BrokenOff (calls : List Call) (e : Error) : Prop :=
  ∃ before last, calls = before ++ [last] ∧ Unbroken op block before ∧ breach? op block last = some e

end

/-- the response is an ACK -/
def acknowledges : Call → Bool
  | ⟨.link (.read 3), .ok response⟩ => (Response.decode response).isAck
  | _ => false

/-- how many responses were ACKs -/
def acks (calls : List Call) : Nat := calls.countP acknowledges

theorem acks_append (calls calls' : List Call) : acks (calls ++ calls') = acks calls + acks calls' :=
  List.countP_append

section
variable {op : Opcode} {block : UInt16} {bytes : List UInt8} {calls calls' : List Call} {e : Error}

theorem Unbroken.append (h : Unbroken op block calls) (h' : Unbroken op block calls') :
    Unbroken op block (calls ++ calls') :=
  List.forall_mem_append.mpr ⟨h, h'⟩

theorem BrokenOff.after (h : BrokenOff op block calls' e) (before : Unbroken op block calls) :
    BrokenOff op block (calls ++ calls') e := by
  obtain ⟨earlier, last, rfl, unbroken, broken⟩ := h
  exact ⟨calls ++ earlier, last, (List.append_assoc ..).symm, before.append unbroken, broken⟩

/-- a reply that amounts to an error is the last one -/
theorem BrokenOff.at_once (h : BrokenOff op block calls e) {before after : List Call} {call : Call}
    {e' : Error} (split : calls = before ++ call :: after) (broken : breach? op block call = some e') :
    after = [] ∧ e' = e := by
  obtain ⟨earlier, last, rfl, unbroken, breach⟩ := h
  rcases List.eq_nil_or_concat after with rfl | ⟨between, final, rfl⟩
  · obtain ⟨rfl, same⟩ := List.append_inj' split rfl
    cases same
    exact ⟨rfl, Option.some.inj (broken.symm.trans breach)⟩
  · -- otherwise it stands before the last one
    have whole : earlier ++ [last] = (before ++ call :: between) ++ [final] := by
      rw [split, List.concat_eq_append, List.append_assoc, List.cons_append]
    obtain ⟨rfl, -⟩ := List.append_inj' whole rfl
    have none_ := unbroken call (List.mem_append_right before List.mem_cons_self)
    rw [none_] at broken
    cases broken

theorem Unbroken.at_none (h : Unbroken op block calls) {before after : List Call} {call : Call}
    (split : calls = before ++ call :: after) : breach? op block call = none :=
  h call (split ▸ List.mem_append_right before List.mem_cons_self)

/-! ## Packets on record -/

theorem breach?_refused {response : Vector UInt8 Response.width}
    (other : (Response.decode response).isAck = false) :
    breach? op block ⟨.link (.read Response.width), .ok response⟩ =
      some (refusal op block (.decode response)) := by
  show (if (Response.decode response).isAck then none else some (refusal op block (.decode response))) = _
  rw [other]
  rfl

theorem Taken.unbroken (h : Taken bytes calls) : Unbroken op block calls := by
  obtain ⟨ack, rfl, isAck⟩ := h
  refine List.forall_mem_cons.mpr ⟨rfl, List.forall_mem_singleton.mpr ?_⟩
  exact if_pos isAck

theorem Taken.acks (h : Taken bytes calls) : acks calls = 1 := by
  obtain ⟨ack, rfl, isAck⟩ := h
  have one : acknowledges ⟨.link (.read Response.width), .ok ack⟩ = true := isAck
  rw [Host.acks, List.countP_cons, List.countP_cons, one]
  rfl

/-- the bytes are written first, and nothing else is -/
theorem Handed.begins {ended : Except (Stop Error) Unit} (h : Handed op block bytes calls ended) :
    ∃ reply tail, calls = ⟨.link (.write bytes), reply⟩ :: tail ∧
      ∀ call ∈ tail, isWrite call.query = false := by
  cases h with
  | unsent e => exact ⟨_, [], rfl, nofun⟩
  | unheard e => exact ⟨_, _, rfl, List.forall_mem_singleton.mpr rfl⟩
  | refused other => exact ⟨_, _, rfl, List.forall_mem_singleton.mpr rfl⟩
  | taken taken =>
    obtain ⟨ack, rfl, -⟩ := taken
    exact ⟨_, _, rfl, List.forall_mem_singleton.mpr rfl⟩

theorem Handed.packets {ended : Except (Stop Error) Unit} (h : Handed op block bytes calls ended) :
    packets calls = [bytes] := by
  obtain ⟨reply, tail, rfl, quiet⟩ := h.begins
  exact congrArg (bytes :: ·) (packets_quiet quiet)

theorem Handed.of_ok (h : Handed op block bytes calls (.ok ())) : Taken bytes calls := by
  cases h with
  | taken taken => exact taken

theorem Handed.of_error {why : Stop Error} (h : Handed op block bytes calls (.error why)) :
    (sent calls = [] ∨ sent calls = bytes) ∧ Host.acks calls = 0 ∧
      ∃ e, why = .failed e ∧ BrokenOff op block calls e := by
  have wrote : Unbroken op block [⟨.link (.write bytes), .ok ()⟩] := List.forall_mem_singleton.mpr rfl
  cases h with
  | unsent e => exact ⟨.inl rfl, rfl, _, rfl, [], _, rfl, nofun, rfl⟩
  | unheard e => exact ⟨.inr (List.append_nil bytes), rfl, _, rfl, [_], _, rfl, wrote, rfl⟩
  | refused other =>
    refine ⟨.inr (List.append_nil bytes), ?_, _, rfl, [_], _, rfl, wrote, breach?_refused other⟩
    refine List.countP_eq_zero.mpr (List.forall_mem_cons.mpr ⟨Bool.false_ne_true, ?_⟩)
    exact List.forall_mem_singleton.mpr (Bool.eq_false_iff.mp other)

end

/-! ## What was to be thrown away -/

/-- the ways in which it can fail to throw away what is queued -/
inductive Clogged (c : Client) : List Call → Stop Error → Prop
  /-- a byte that was there cannot be read -/
  | unreadable (bytes : List (Vector UInt8 1)) (e : LinkError) :
      Clogged c (bytes.flatMap thrown ++ [⟨.link .poll, true⟩, ⟨.link (.read 1), .error e⟩])
        (.failed (.link e))
  /-- there is always another one -/
  | endless (bytes : List (Vector UInt8 1)) (all : bytes.length = c.rounds) :
      Clogged c (bytes.flatMap thrown) .unfinished

section
variable {σ : Type} {answer : machine.Answerer σ} {s s' : σ} {calls : List Call} {c : Client}
  {op : Opcode} {block : UInt16} {bytes : List UInt8}

theorem Clogged.forall_mem {p : Call → Prop} {why : Stop Error} (h : Clogged c calls why)
    (polled : p ⟨.link .poll, true⟩) (read : ∀ reply, p ⟨.link (.read 1), reply⟩) : ∀ call ∈ calls, p call := by
  cases h with
  | unreadable bytes e =>
    refine List.forall_mem_append.mpr ⟨forall_mem_thrown polled (fun byte => read (.ok byte)) bytes, ?_⟩
    exact List.forall_mem_cons.mpr ⟨polled, List.forall_mem_singleton.mpr (read (.error e))⟩
  | endless bytes all => exact forall_mem_thrown polled (fun byte => read (.ok byte)) bytes

theorem Clogged.silent {why : Stop Error} (h : Clogged c calls why) : packets calls = [] :=
  packets_quiet (h.forall_mem rfl fun _ => rfl)

theorem acks_eq_zero (none_ : ∀ call ∈ calls, acknowledges call = false) : acks calls = 0 :=
  List.countP_eq_zero.mpr fun call mem => Bool.eq_false_iff.mp (none_ call mem)

theorem Clogged.acks {why : Stop Error} (h : Clogged c calls why) : acks calls = 0 :=
  acks_eq_zero (h.forall_mem rfl fun reply => by cases reply <;> rfl)

theorem Drained.acks (h : Drained calls) : acks calls = 0 :=
  acks_eq_zero (h.forall_mem (fun _ => rfl) fun _ => rfl)

theorem Drained.unbroken (h : Drained calls) : Unbroken op block calls :=
  h.forall_mem (fun _ => rfl) fun _ => rfl

theorem unbroken_thrown (bytes : List (Vector UInt8 1)) : Unbroken op block (bytes.flatMap thrown) :=
  forall_mem_thrown (p := fun call => breach? op block call = none) rfl (fun _ => rfl) bytes

/-- it ends with an error, or only because there is always another byte -/
theorem Clogged.ends {why : Stop Error} (h : Clogged c calls why) :
    (∃ e, why = .failed e ∧ BrokenOff op block calls e) ∨ why = .unfinished ∧ Unbroken op block calls := by
  cases h with
  | unreadable bytes e =>
    have last : BrokenOff op block [⟨.link .poll, true⟩, ⟨.link (.read 1), .error e⟩] (.link e) :=
      ⟨[_], _, rfl, List.forall_mem_singleton.mpr rfl, rfl⟩
    exact .inl ⟨_, rfl, last.after (unbroken_thrown bytes)⟩
  | endless bytes all => exact .inr ⟨rfl, unbroken_thrown bytes⟩

namespace Client

theorem recorded_clogged {why : Stop Error} (h : Recorded answer c.discard s calls (.error why) s') :
    Clogged c calls why := by
  obtain ⟨bytes, rest, rfl, ⟨same, -⟩ | ⟨e, same, rfl⟩ | ⟨same, length, rfl⟩⟩ := recorded_discardFor c.rounds h
  · cases same
  · cases same
    exact .unreadable bytes e
  · cases same
    rw [List.append_nil]
    exact .endless bytes length

theorem recorded_handed {ended : Except (Stop Error) Unit}
    (h : Recorded answer (demand (Link.write bytes) >>= fun _ => awaitAck op block) s calls ended s') :
    Handed op block bytes calls ended := by
  rcases h.of_bind with ⟨why, rfl, stopped⟩ | ⟨first, _, s₁, rest, rfl, went, waiting⟩
  · obtain ⟨e, rfl, rfl⟩ := recorded_unsent stopped
    exact .unsent e
  obtain rfl := recorded_sent went
  obtain ⟨rest, rfl, reading⟩ := Recorded.of_ask waiting
  generalize answer (.link (.read Response.width)) s₁ = replied at reading ⊢
  obtain ⟨reply, s₂⟩ := replied
  cases reply with
  | error e =>
    obtain ⟨rfl, rfl, -⟩ := reading.unique (recorded_stop (.failed (Error.packet e)) s₂)
    exact .unheard e
  | ok response =>
    have judged : Recorded answer (if (Response.decode response).isAck then pure ()
        else if (Response.decode response).isNack then throw (.nack op block) else throw (.noAck op) : Talk Unit)
        s₂ rest ended s' := reading
    split at judged
    · rename_i isAck
      obtain ⟨rfl, rfl, -⟩ := judged.unique (recorded_done () s₂)
      exact .taken ⟨response, rfl, isAck⟩
    · rename_i other
      have refused : Recorded answer (.stop (.failed (refusal op block (.decode response))) : Talk Unit) s₂ rest
          ended s' := by
        rw [refusal, apply_ite Stop.failed, apply_ite Dialogue.stop]
        exact judged
      obtain ⟨rfl, rfl, -⟩ := refused.unique (recorded_stop _ s₂)
      exact .refused (Bool.eq_false_iff.mpr other)

end Client

end

end FlashRescue.Host
