import FlashRescue.Proofs.Bench.Courier
import FlashRescue.Proofs.Bench.Stream

/-!
# Calls on a link that takes its time

Whatever a client makes of the answers, and whenever they come: after each of its calls the board waits
for the next command, unless a WRITE was broken off.

* `Courier.Waits`     the board waits for a command;
* `waits_run`         no dialogue that writes nothing but small commands changes that;
* `waits_write`       nor does a WRITE that went through;
* `Courier.Calls`     some calls, one after the other; `Calls.waits`: the board waits after them.
-/

namespace FlashRescue.Courier

open Host Host.Client Replay Dialogue

def flash (k : Courier) : List UInt8 := k.replay.outcome.2.flash.content

/-- the board waits for a command, with this in its flash -/
def Waits (b : Board) (content : List UInt8) (k : Courier) : Prop :=
  ∃ l, k.replay.Attends b l [] ∧ l.content = content

variable {b : Board} {content : List UInt8} {k k' : Courier} {α : Type} {c : Client} {block : UInt16}

theorem Waits.flash (stands : Stands b) (h : k.Waits b content) : k.flash = content := by
  obtain ⟨l, attends, rfl⟩ := h
  obtain ⟨nacks, same⟩ := ledger_outcome stands attends
  exact congrArg Ledger.content same

/-! ## Commands -/

theorem replay_run {d : Talk α} (quiet : d.Only fun query => isWrite query = false) (k : Courier) :
    (d.run answer k).2.replay = k.replay := by
  have kept (query : machine.Query) (s : Courier) (h : isWrite query = false)
      (same : s.replay = k.replay) : (answer query s).2.replay = k.replay :=
    (replay_quiet h s).trans same
  show (fun s : Courier => s.replay = k.replay) (d.run answer k).2
  exact quiet.run kept rfl

theorem waits_discard (c : Client) (h : k.Waits b content) :
    (c.discard.run answer k).2.Waits b content := by
  obtain ⟨l, attends, same⟩ := h
  refine ⟨l, ?_, same⟩
  rw [replay_run c.only_discard]
  exact attends

theorem waits_answer (stands : Stands b) {op : Opcode} (small : op ≠ .write)
    (goes : (Request.bare op block).outcome? = none) {query : machine.Query}
    (writes : Writes (Command.of op block).encode query) (h : k.Waits b content) :
    (answer query k).2.Waits b content := by
  obtain ⟨l, attends, rfl⟩ := h
  cases kind : isWrite query with
  | false =>
    refine ⟨l, ?_, rfl⟩
    rw [replay_quiet kind]
    exact attends
  | true =>
    match query with
    | .link (.write bytes) =>
      obtain rfl : bytes = (Command.of op block).encode := writes
      exact reply_bare stands attends block small goes

/-- whatever such a dialogue makes of the answers -/
theorem waits_run (stands : Stands b) {op : Opcode} (small : op ≠ .write)
    (goes : (Request.bare op block).outcome? = none) {d : Talk α}
    (writes : d.Only (Writes (Command.of op block).encode)) (h : k.Waits b content) :
    (d.run answer k).2.Waits b content :=
  writes.run (fun _ _ kind waits => waits_answer stands small goes kind waits) h

theorem waits_checksum (stands : Stands b) {d : Talk α}
    (writes : d.Only (Writes (Command.of .checksum block).encode)) (h : k.Waits b content) :
    (d.run answer k).2.Waits b content :=
  waits_run stands (by decide) (Request.outcome?_of (by decide) _ _) writes h

/-! ## Blocks -/

section
variable {l : Ledger} {data : List UInt8}

/-- the board has got the first `n` bytes of a block, which may be all of them -/
def Writing (b : Board) (l : Ledger) (block : UInt16) (data : List UInt8) (n : Nat) (k : Courier) :
    Prop :=
  if n < blockSize then k.replay.Attends b l ((Command.of .write block).encode ++ data.take n)
  else k.replay.Attends b
    (l.take b.config.chunkSize.toNat b.flash.failing (Request.write block data)) []

/-- the write of some more bytes, and whatever is read after it -/
theorem writing_more (stands : Stands b) (full : data.length = blockSize) {m n : Nat} (up : m ≤ n)
    (inside : m < blockSize) {bytes : List UInt8} (joined : data.take m ++ bytes = data.take n)
    (h : k.Writing b l block data m) (heard : k'.replay = (k.replay.reply bytes).2) :
    k'.Writing b l block data n := by
  rw [Writing, if_pos inside] at h
  rw [Writing, heard]
  by_cases more : n < blockSize
  · rw [if_pos more]
    obtain ⟨r', replied, attends⟩ := reply_piece stands full up more joined h
    rw [replied]
    exact attends
  · rw [if_neg more]
    have whole : data.take n = data := List.take_of_length_le (by omega)
    rw [whole] at joined
    obtain ⟨r', replied, attends⟩ := reply_last stands full (Nat.le_of_lt inside) joined h
    rw [replied]
    exact attends

theorem replay_sendChunk (block : UInt16) (chunk : List UInt8) (k : Courier) :
    ((sendChunk block chunk).run answer k).2.replay = (k.replay.reply chunk).2 := by
  rw [sendChunk, run_bind_ok (run_write chunk k), replay_run (only_awaitAck ..)]
  rfl

theorem writing_sendChunks (stands : Stands b) (full : data.length = blockSize) {n : Nat} (j i : Nat)
    (inside : ∀ i' < i + j, i' * n < blockSize) (h : k.Writing b l block data (i * n))
    (sent : (((List.range' i j).map (piece n data)).forM (sendChunk block)).run answer k =
      (.ok (), k')) : k'.Writing b l block data ((i + j) * n) := by
  induction j generalizing i k with
  | zero =>
    cases sent
    exact h
  | succ j ih =>
    obtain ⟨_, k₁, first, rest⟩ := run_bind_eq_ok sent
    have heard := replay_sendChunk block (piece n data i) k
    rw [first] at heard
    have step := writing_more stands full (Nat.mul_le_mul_right n (Nat.le_succ i))
      (inside i (by omega)) (take_piece n i data) h heard
    have ended := ih (i + 1) (fun i' h' => inside i' (by omega)) step rest
    rwa [Nat.add_right_comm] at ended

theorem waits_write (stands : Stands b) (h : k.Waits b content)
    (written : (c.write block data).run answer k = (.ok (), k')) : ∃ content', k'.Waits b content' := by
  obtain ⟨l, attends, rfl⟩ := h
  by_cases full : data.length = blockSize
  · rw [Client.write, if_neg (not_not_intro full)] at written
    obtain ⟨_, k₁, quiet, rest⟩ := run_bind_eq_ok written
    obtain ⟨_, k₂, command, rest⟩ := run_bind_eq_ok rest
    obtain ⟨_, k₃, ack, rest⟩ := run_bind_eq_ok rest
    have same₁ := replay_run c.only_discard k
    have same₃ := replay_run (only_awaitAck .write block) k₂
    rw [quiet] at same₁
    rw [ack] at same₃
    have same₂ : k₂.replay = (k₁.replay.reply (Command.of .write block).encode).2 := by
      have sent := run_write (Command.of .write block).encode k₁
      cases command.symm.trans sent
      rfl
    obtain ⟨r', replied, attends₂⟩ := reply_write stands attends
    by_cases empty : c.chunkSize = 0
    · rw [if_pos empty] at rest
      cases rest
    · have positive : 0 < c.chunkSize.toNat := by
        apply Nat.pos_of_ne_zero
        intro zero
        exact empty (UInt64.toNat_inj.mp zero)
      have start : k₃.Writing b l block data (0 * c.chunkSize.toNat) := by
        rw [Writing, Nat.zero_mul, if_pos (by decide), List.take_zero, List.append_nil, same₃, same₂,
          same₁, replied]
        exact attends₂
      rw [if_neg empty, chunks_eq _ full, List.range_eq_range'] at rest
      have count := Nat.div_add_mod (blockSize + (c.chunkSize.toNat - 1)) c.chunkSize.toNat
      have small := Nat.mod_lt (blockSize + (c.chunkSize.toNat - 1)) positive
      have inside : ∀ i' < 0 + (blockSize + (c.chunkSize.toNat - 1)) / c.chunkSize.toNat,
          i' * c.chunkSize.toNat < blockSize := by
        intro i' less
        rw [Nat.zero_add] at less
        have step := Nat.mul_le_mul_right c.chunkSize.toNat (Nat.succ_le_of_lt less)
        rw [Nat.succ_mul, Nat.mul_comm (_ / _)] at step
        omega
      have ended := writing_sendChunks stands full _ 0 inside start rest
      rw [Writing, if_neg] at ended
      · exact ⟨_, _, ended, rfl⟩
      · rw [Nat.zero_add, Nat.mul_comm]
        omega
  · rw [Client.write, if_pos full] at written
    cases written

end

/-! ## Calls -/

/-- if a block has to be written its WRITE is not broken off -/
def WritesThrough (c : Client) (block : UInt16) (data : List UInt8) (k : Courier) : Prop :=
  ∀ crc k₁, (c.checksum block).run answer k = (.ok crc, k₁) → crc ≠ FlashRescue.checksum data →
    data.length = blockSize → ((c.write block data).run answer k₁).1 = .ok ()

theorem waits_sync (stands : Stands b) {data : List UInt8} (h : k.Waits b content)
    (through : WritesThrough c block data k) :
    ∃ content', ((c.sync block data).run answer k).2.Waits b content' := by
  have waits₁ := waits_checksum stands (c.only_checksum block) h
  cases asked : (c.checksum block).run answer k with
  | mk ended k₁ =>
    rw [asked] at waits₁
    cases ended with
    | error why =>
      rw [sync, run_bind_error asked]
      exact ⟨content, waits₁⟩
    | ok crc =>
      rw [sync, run_bind_ok asked]
      by_cases equal : crc = FlashRescue.checksum data
      · rw [if_pos equal]
        exact ⟨content, waits₁⟩
      · rw [if_neg equal, writeVerified, LawfulMonad.bind_assoc]
        by_cases full : data.length = blockSize
        · obtain ⟨k₂, written⟩ : ∃ k₂, (c.write block data).run answer k₁ = (.ok (), k₂) :=
            ⟨_, Prod.ext (through crc k₁ asked equal full) rfl⟩
          obtain ⟨content', waits₂⟩ := waits_write stands waits₁ written
          rw [run_bind_ok written]
          have small : (do
              let actual ← c.readBack block
              if actual = FlashRescue.checksum data then return
              else throw (.checksumMismatch block (FlashRescue.checksum data) actual) : Talk Unit).Only
                (Writes (Command.of .checksum block).encode) := by
            refine only_bind (c.only_readBack block) ?_
            intro actual
            split <;> trivial
          exact ⟨content', waits_checksum stands (only_bind small fun _ => trivial) waits₂⟩
        · have refused : ∃ why, (c.write block data).run answer k₁ = (.error why, k₁) := by
            rw [Client.write, if_pos full]
            exact ⟨_, rfl⟩
          obtain ⟨why, refused⟩ := refused
          rw [run_bind_error refused]
          exact ⟨content, waits₁⟩

inductive Calls (k : Courier) : Courier → Prop
  | none : Calls k k
  | checksum (c : Client) (block : UInt16) {k' : Courier} (before : Calls k k') :
      Calls k ((c.checksum block).run answer k').2
  | requestNacks (c : Client) {k' : Courier} (before : Calls k k') :
      Calls k (c.requestNacks.run answer k').2
  | sync (c : Client) (block : UInt16) (data : List UInt8) {k' : Courier} (before : Calls k k')
      (through : WritesThrough c block data k') : Calls k ((c.sync block data).run answer k').2

theorem Calls.waits (stands : Stands b) (calls : Calls k k') (h : k.Waits b content) :
    ∃ content', k'.Waits b content' := by
  induction calls with
  | none => exact ⟨content, h⟩
  | checksum c block _ ih =>
    obtain ⟨content', waits⟩ := ih
    exact ⟨content', waits_checksum stands (c.only_checksum block) waits⟩
  | requestNacks c _ ih =>
    obtain ⟨content', waits⟩ := ih
    exact ⟨content', waits_run stands (by decide) (Request.outcome?_of (by decide) _ _)
      c.only_requestNacks waits⟩
  | sync c block data _ through ih =>
    obtain ⟨content', waits⟩ := ih
    exact waits_sync stands waits through

end FlashRescue.Courier
