import FlashRescue.Checksum
import FlashRescue.Device.Error
import FlashRescue.Proofs.Flash.Block
import FlashRescue.Proofs.Session.Request

/-!
# What a session comes to

The requests of a host, carried out one after the other on a ledger that knows neither clocks nor links: it
holds what is in the flash, what was answered, and how often the board did what an onlooker can
count.

* `Ledger`          the state of a session, the time aside;
* `Ledger.take`     one request;
* `Ledger.answered` what a board answers to a CHECKSUM, if anything;
* `Ledger.settle`   all of them, up to the one that ends the session or the end of the input;
* `Ledger.interpret`  the requests of a byte string.
-/

namespace FlashRescue

open Device

structure Ledger where
  content : List UInt8
  nacks : Bool
  sent : List UInt8
  resets : Nat
  erases : Nat
  programs : Nat
  deriving DecidableEq, Repr

def Request.outcome? (r : Request) : Option Outcome :=
  match r.command.opcode? with
  | some .reset => some .reset
  | some .exit => some .exited
  | _ => none

theorem Request.outcome?_of {op : Opcode} (stays : op ≠ .reset ∧ op ≠ .exit) (block : UInt16)
    (content : List UInt8) : Request.outcome? ⟨.of op block, content⟩ = none := by
  rw [outcome?, Command.opcode?_of]
  cases op with
  | reset => exact absurd rfl stays.1
  | exit => exact absurd rfl stays.2
  | hello | checksum | read | write | nackMode => rfl

namespace Ledger

/-! ## Answers -/

def acks (n : Nat) : List UInt8 := (List.replicate n Response.ack.encode).flatten

def checksumReply (content : List UInt8) (block : Nat) : List UInt8 :=
  Response.ack.encode ++ ByteOrder.little.encode 4 (checksum (blockAt content block)).toNat

theorem length_acks (n : Nat) : (acks n).length = n * Response.width := by
  induction n with
  | zero => rfl
  | succ n ih =>
    rw [acks, List.replicate_succ, List.flatten_cons, List.length_append, Response.length_encode,
      Nat.succ_mul, Nat.add_comm]
    exact congrArg (· + Response.width) ih

theorem acks_add (m n : Nat) : acks (m + n) = acks m ++ acks n := by
  rw [acks, ← List.replicate_append_replicate, List.flatten_append]
  rfl

def say (l : Ledger) (bytes : List UInt8) : Ledger := { l with sent := l.sent ++ bytes }

theorem say_nil (l : Ledger) : l.say [] = l := by
  rw [say, List.append_nil]

/-- reports a failure, if failures are reported -/
def refuse (l : Ledger) : Ledger := if l.nacks then l.say Response.nack.encode else l

/-! ## Requests -/

variable (chunk : Nat) (failing : Nor.Failing)

def store (l : Ledger) (block : Nat) (content : List UInt8) : Ledger :=
  { l with
    content := replaced failing l.content block content
    erases := l.erases + 1
    programs := l.programs + if erasable failing l.content block then 1 else 0 }

/-- the ledger after a request, which was received in full.  Every chunk of a WRITE is acknowledged before
the flash is touched -/
def take (l : Ledger) (r : Request) : Ledger :=
  let block := r.command.block.toNat
  match r.command.opcode? with
  | some .checksum =>
    if readable failing l.content block then l.say (checksumReply l.content block)
    else l.refuse
  | some .write =>
    let written := (l.say (acks (1 + blockSize / chunk))).store failing block r.content
    if replaces failing l.content block then written else written.refuse
  | some .nackMode => { l.say Response.ack.encode with nacks := true }
  | some .reset => { l with resets := l.resets + 1 }
  | some .exit | some .hello | some .read | none => l

/-- what is answered to a WRITE after its ACKs -/
def complaint (l : Ledger) (block : Nat) : List UInt8 :=
  if replaces failing l.content block then []
  else if l.nacks then Response.nack.encode
  else []

theorem take_write (l : Ledger) {r : Request} (h : r.isWrite = true) :
    l.take chunk failing r =
      ((l.say (acks (1 + blockSize / chunk))).store failing r.command.block.toNat r.content).say
        (complaint failing l r.command.block.toNat) := by
  have taken : l.take chunk failing r =
      if replaces failing l.content r.command.block.toNat then
        (l.say (acks (1 + blockSize / chunk))).store failing r.command.block.toNat r.content
      else ((l.say (acks (1 + blockSize / chunk))).store failing r.command.block.toNat
        r.content).refuse := by
    rw [take, of_decide_eq_true h]
  rw [taken, complaint]
  by_cases works : replaces failing l.content r.command.block.toNat = true
  · rw [if_pos works, if_pos works, say_nil]
  · rw [if_neg works, if_neg works, refuse]
    by_cases nacks : l.nacks = true
    · rw [if_pos nacks]
      exact if_pos nacks
    · rw [if_neg nacks, say_nil]
      exact if_neg nacks

/-- a WRITE leaves the NACKs on or off, and in the flash what can be made of the block -/
theorem take_written (l : Ledger) (block : UInt16) (data : List UInt8) :
    let l' := l.take chunk failing (Request.write block data)
    l'.content = replaced failing l.content block.toNat data ∧ l'.nacks = l.nacks := by
  rw [l.take_write _ _ (Request.isWrite_write block data)]
  exact ⟨rfl, rfl⟩

/-- what is answered to a CHECKSUM, if anything -/
def answered (l : Ledger) (block : UInt16) : List UInt8 :=
  if readable failing l.content block.toNat then checksumReply l.content block.toNat
  else if l.nacks then Response.nack.encode
  else []

theorem take_asked (l : Ledger) (block : UInt16) :
    l.take chunk failing (Request.bare .checksum block) = l.say (answered failing l block) := by
  have taken : l.take chunk failing (Request.bare .checksum block) =
      if readable failing l.content block.toNat then l.say (checksumReply l.content block.toNat)
      else l.refuse := by
    rw [take, Request.bare, Command.opcode?_of]
    rfl
  rw [taken, answered]
  by_cases can : readable failing l.content block.toNat = true
  · rw [if_pos can, if_pos can]
  · rw [if_neg can, if_neg can, refuse]
    by_cases nacks : l.nacks = true
    · rw [if_pos nacks, if_pos nacks]
    · rw [if_neg nacks, if_neg nacks, say_nil]

/-- requests other than WRITE leave the flash alone -/
theorem take_other (l : Ledger) {r : Request} (h : r.isWrite = false) :
    ∃ said nacks resets, l.take chunk failing r = { l.say said with nacks, resets } := by
  have quiet : ∃ said nacks resets, l = { l.say said with nacks, resets } :=
    ⟨[], l.nacks, l.resets, by simp [say]⟩
  rw [take]
  cases op : r.command.opcode? with
  | none => exact quiet
  | some op' =>
    cases op' with
    | write => simp [Request.isWrite, op] at h
    | checksum =>
      dsimp only
      split
      · exact ⟨_, l.nacks, l.resets, rfl⟩
      · rw [refuse]
        split
        · exact ⟨_, l.nacks, l.resets, rfl⟩
        · exact quiet
    | nackMode => exact ⟨_, true, l.resets, rfl⟩
    | reset => exact ⟨[], l.nacks, l.resets + 1, by simp [say]⟩
    | hello | read | exit => exact quiet

theorem sent_take (l : Ledger) (r : Request) : l.sent <+: (l.take chunk failing r).sent := by
  cases h : r.isWrite with
  | true =>
    rw [l.take_write chunk failing h]
    exact ⟨_, (List.append_assoc ..).symm⟩
  | false =>
    obtain ⟨said, nacks, resets, step⟩ := l.take_other chunk failing h
    rw [step]
    exact ⟨_, rfl⟩

def takeAll (l : Ledger) (requests : List Request) : Ledger :=
  requests.foldl (take chunk failing) l

theorem takeAll_cons (l : Ledger) (r : Request) (requests : List Request) :
    l.takeAll chunk failing (r :: requests) =
      (l.take chunk failing r).takeAll chunk failing requests := rfl

theorem takeAll_append (l : Ledger) (first second : List Request) :
    l.takeAll chunk failing (first ++ second) =
      (l.takeAll chunk failing first).takeAll chunk failing second :=
  List.foldl_append

theorem sent_takeAll (l : Ledger) (requests : List Request) :
    l.sent <+: (l.takeAll chunk failing requests).sent := by
  induction requests generalizing l with
  | nil => exact List.prefix_rfl
  | cons r requests ih => exact (l.sent_take chunk failing r).trans (ih _)

/-! ## Sessions -/

/-- what is answered to a request that is cut short: a WRITE and its chunks are acknowledged as far as
they have come -/
def shortReply (remnant : List UInt8) : List UInt8 :=
  if remnant.length < Command.size then []
  else acks (1 + (remnant.length - Command.size) / chunk)

/-- how a session ends, and the ledger then.  At the end of its input the host is silent; a request that
was cut short finds the link closed -/
def settle : List Request → List UInt8 → Ledger → Except Error Outcome × Ledger
  | [], [], l => (.error .livenessTimeout, l)
  | [], remnant, l => (.error (.link .closed), l.say (shortReply chunk remnant))
  | r :: requests, remnant, l =>
    match r.outcome? with
    | some outcome => (.ok outcome, l.take chunk failing r)
    | none => settle requests remnant (l.take chunk failing r)

def interpret (bytes : List UInt8) (l : Ledger) : Except Error Outcome × Ledger :=
  settle chunk failing (Request.cut bytes).1 (Request.cut bytes).2 l

/-- requests that do not end the session are taken, and the session goes on after them -/
theorem settle_append {done : List Request} (h : ∀ r ∈ done, r.outcome? = none)
    (requests : List Request) (remnant : List UInt8) (l : Ledger) :
    settle chunk failing (done ++ requests) remnant l =
      settle chunk failing requests remnant (l.takeAll chunk failing done) := by
  induction done generalizing l with
  | nil => rfl
  | cons r done ih =>
    have goes := h r List.mem_cons_self
    rw [List.cons_append, settle, goes, takeAll_cons]
    exact ih (fun r' h' => h r' (List.mem_cons_of_mem _ h')) _

end Ledger

end FlashRescue
