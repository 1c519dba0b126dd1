import FlashRescue.Board.Simulated
import FlashRescue.Proofs.Dialogue.Course
import FlashRescue.Proofs.Link.Line
import FlashRescue.Proofs.Session.Ledger

/-!
# Trading over the line

What the transfers of a session do to a simulated board.

* `Board.unread`, `Board.ledger`  the bytes a host has laid down, and the board's side of the ledger;
* `Board.Trades`  bytes were taken from the line and packets were sent, and nothing else but time has
                  passed;
* `run_pause`, `run_receive`, `run_say`  the transfers;
* `run_receiveBlock`  the content of a block, chunk by chunk.
-/

namespace FlashRescue

open Device Device.Session

namespace Board

def unread (b : Board) : List UInt8 := b.line.incoming.map (·.2)

theorem unread_push (b : Board) (moment : UInt64) (bytes : List UInt8) :
    ({ b with line := b.line.push moment bytes } : Board).unread = b.unread ++ bytes := by
  show (b.line.incoming ++ bytes.map (moment, ·)).map (·.2) = b.unread ++ bytes
  rw [List.map_append, List.map_map, unread]
  exact congrArg (b.unread ++ ·) (List.map_id' bytes)

def ledger (b : Board) (nacks : Bool) : Ledger where
  content := b.flash.content
  nacks := nacks
  sent := b.line.outgoing
  resets := b.resets
  erases := b.flash.count.erases
  programs := b.flash.count.programs

theorem content_ledger (b : Board) (nacks : Bool) : (b.ledger nacks).content = b.flash.content := rfl

/-- after `b`, `taken` bytes were read and packets were sent; time may have passed, and all else is as
it was -/
structure Trades (b b' : Board) (taken : Nat) (packets : List (List UInt8)) : Prop where
  incoming : b'.line.incoming = b.line.incoming.drop taken
  outgoing : b'.line.outgoing = b.line.outgoing ++ packets.flatten
  open_ : b.line.writesLeft = none → b'.line.writesLeft = none
  tick : b'.line.clock.tick = b.line.clock.tick
  virtual : b.line.clock.process = none → b'.line.clock.process = none
  others : b' = { b with line := b'.line }

theorem Trades.refl (b : Board) : b.Trades b 0 [] where
  incoming := rfl
  outgoing := (List.append_nil _).symm
  open_ := id
  tick := rfl
  virtual := id
  others := rfl

theorem Trades.trans {b b' b'' : Board} {m n : Nat} {first second : List (List UInt8)}
    (h : b.Trades b' m first) (h' : b'.Trades b'' n second) :
    b.Trades b'' (m + n) (first ++ second) where
  incoming := by rw [h'.incoming, h.incoming, List.drop_drop]
  outgoing := by rw [h'.outgoing, h.outgoing, List.append_assoc, List.flatten_append]
  open_ := h'.open_ ∘ h.open_
  tick := h'.tick.trans h.tick
  virtual := h'.virtual ∘ h.virtual
  others := by
    have h1 := h.others
    have h2 := h'.others
    rw [h1] at h2
    exact h2

theorem Trades.flash {b b' : Board} {n : Nat} {packets : List (List UInt8)}
    (h : b.Trades b' n packets) : b'.flash = b.flash := by
  have frame := congrArg Board.flash h.others
  exact frame

theorem Trades.unread {b b' : Board} {n : Nat} {packets : List (List UInt8)}
    (h : b.Trades b' n packets) : b'.unread = b.unread.drop n := by
  rw [Board.unread, h.incoming, List.map_drop]
  rfl

theorem Trades.ledger {b b' : Board} {n : Nat} {packets : List (List UInt8)}
    (h : b.Trades b' n packets) (nacks : Bool) :
    b'.ledger nacks = (b.ledger nacks).say packets.flatten := by
  have frame := congrArg Board.resets h.others
  have resets : b'.resets = b.resets := frame
  rw [Board.ledger, h.flash, h.outgoing, resets]
  rfl

/-- reading leaves no mark on the ledger -/
theorem Trades.ledger_read {b b' : Board} {n : Nat} (h : b.Trades b' n []) (nacks : Bool) :
    b'.ledger nacks = b.ledger nacks := by
  rw [h.ledger, Ledger.say]
  exact congrArg (fun sent => ({ b.ledger nacks with sent } : Ledger)) (List.append_nil _)

/-! ## Transfers -/

theorem run_demand_ok {α : Type} {transfer : Action (Except LinkError α)} {b b' : Board} {value : α}
    (h : transfer.run answer b = (.ok (.ok value), b')) :
    (demand transfer).run answer b = (.ok value, b') :=
  Dialogue.run_bind_ok h

theorem run_demand_error {α : Type} {transfer : Action (Except LinkError α)} {b b' : Board}
    {e : LinkError} (h : transfer.run answer b = (.ok (.error e), b')) :
    (demand transfer).run answer b = (.error (.failed (.link e)), b') :=
  Dialogue.run_bind_ok h

theorem run_pause (ms : UInt64) (b : Board) :
    ∃ b', (pause ms).run answer b = (.ok (), b') ∧ b.Trades b' 0 [] := by
  refine ⟨_, rfl, ?_⟩
  obtain ⟨⟨⟨now, tick, delayed, process⟩, incoming, sent, left⟩, flash⟩ := b
  match process with
  | none => exact ⟨rfl, (List.append_nil _).symm, id, rfl, id, rfl⟩
  | some _ => exact ⟨rfl, (List.append_nil _).symm, id, rfl, nofun, rfl⟩

theorem trades_peek (b : Board) :
    b.Trades { b with line := { b.line with clock := b.line.clock.peek.2 } } 0 [] := by
  obtain ⟨⟨⟨now, tick, delayed, process⟩, incoming, sent, left⟩, flash⟩ := b
  match process with
  | none => exact ⟨rfl, (List.append_nil _).symm, id, rfl, id, rfl⟩
  | some _ => exact ⟨rfl, (List.append_nil _).symm, id, rfl, nofun, rfl⟩

theorem run_poll (b : Board) :
    ∃ seen b', (Link.poll : Action Bool).run answer b = (.ok seen, b') ∧ b.Trades b' 0 [] :=
  ⟨_, _, rfl, b.trades_peek⟩

theorem run_now (b : Board) :
    ∃ time b', now.run answer b = (.ok time, b') ∧ b.Trades b' 0 [] := by
  refine ⟨_, _, rfl, ?_⟩
  obtain ⟨⟨⟨now, tick, delayed, process⟩, incoming, sent, left⟩, flash⟩ := b
  match process with
  | none => exact ⟨rfl, (List.append_nil _).symm, id, rfl, id, rfl⟩
  | some _ => exact ⟨rfl, (List.append_nil _).symm, id, rfl, nofun, rfl⟩

theorem run_watch (config : Config) (last : UInt64) (next : Action Outcome) (b : Board) :
    ∃ b', b.Trades b' 0 [] ∧
      ((watch config last next).run answer b = (.error (.failed .livenessTimeout), b') ∨
        (watch config last next).run answer b = next.run answer b') := by
  obtain ⟨time, b', looked, trade⟩ := run_now b
  refine ⟨b', trade, ?_⟩
  rw [watch, Dialogue.run_bind_ok looked]
  split
  · exact .inl rfl
  · exact .inr rfl

theorem run_receive (n : Nat) (b : Board) :
    (n ≤ b.unread.length ∧ ∃ bytes b',
      (demand (Link.read n) : Action (Vector UInt8 n)).run answer b = (.ok bytes, b') ∧
        bytes.toList = b.unread.take n ∧ b.Trades b' n []) ∨
    (b.unread.length < n ∧
      (demand (Link.read n) : Action (Vector UInt8 n)).run answer b =
        (.error (.failed (.link .closed)), b)) := by
  have length : b.unread.length = b.line.incoming.length := List.length_map ..
  have transfer : (Link.read n : Action _).run answer b =
      (.ok (b.line.read n).1, { b with line := (b.line.read n).2 }) := rfl
  by_cases enough : n ≤ b.line.incoming.length
  · obtain ⟨bytes, now, ran, front, -⟩ := Line.read_enough enough
    rw [ran] at transfer
    refine .inl ⟨length ▸ enough, bytes, _, run_demand_ok transfer, ?_, ?_⟩
    · rw [front, unread, List.map_take]
    · exact ⟨rfl, (List.append_nil _).symm, id, rfl, id, rfl⟩
  · have short := Nat.lt_of_not_le enough
    rw [Line.read_short short] at transfer
    exact .inr ⟨length ▸ short, run_demand_error transfer⟩

theorem run_say (bytes : List UInt8) (b : Board) :
    (∃ b', (demand (Link.write bytes) : Action Unit).run answer b = (.ok (), b') ∧
      b.Trades b' 0 [bytes]) ∨
    (b.line.writesLeft = some 0 ∧
      (demand (Link.write bytes) : Action Unit).run answer b =
        (.error (.failed (.link .closed)), b)) := by
  have sent := Line.outgoing_write bytes b.line
  obtain ⟨⟨clock, incoming, sent, left⟩, flash⟩ := b
  match left with
  | some 0 => exact .inr ⟨rfl, rfl⟩
  | some (left + 1) =>
    refine .inl ⟨_, rfl, rfl, ?_, nofun, rfl, id, rfl⟩
    rw [List.flatten_cons, List.flatten_nil, List.append_nil]
    exact sent
  | none =>
    refine .inl ⟨_, rfl, rfl, ?_, fun _ => rfl, rfl, id, rfl⟩
    rw [List.flatten_cons, List.flatten_nil, List.append_nil]
    exact sent

theorem run_respond (r : Response) (b : Board) :
    (∃ b', (demand (Link.sendResponse r) : Action Unit).run answer b = (.ok (), b') ∧
      b.Trades b' 0 [r.encode]) ∨
    (b.line.writesLeft = some 0 ∧
      (demand (Link.sendResponse r) : Action Unit).run answer b =
        (.error (.failed (.link .closed)), b)) := run_say r.encode b

theorem demand_readCommand : (demand Link.readCommand : Action Command) =
    Command.decode <$> (demand (Link.read Command.size) : Action _) :=
  congrArg (Dialogue.ask _) (funext fun reply => by cases reply <;> rfl)

/-- a command is the next three bytes; with fewer of them the line is closed -/
theorem run_readCommand (b : Board) :
    (∃ command b', (demand Link.readCommand : Action Command).run answer b = (.ok command, b') ∧
      b.unread = command.encode ++ b'.unread ∧ b.Trades b' Command.size []) ∨
    (b.unread.length < Command.size ∧
      (demand Link.readCommand : Action Command).run answer b =
        (.error (.failed (.link .closed)), b)) := by
  rw [demand_readCommand, Dialogue.run_map]
  rcases run_receive Command.size b with ⟨_, bytes, b', received, front, trade⟩ | ⟨short, closed⟩
  · refine .inl ⟨.decode bytes, b', by rw [received]; rfl, ?_, trade⟩
    rw [Command.encode_decode, front, trade.unread, List.take_append_drop]
  · exact .inr ⟨short, by rw [closed]; rfl⟩

/-! ## The content of a WRITE -/

/-- bytes of a chunk are taken and acknowledged, or the line is closed to the one or the other -/
theorem run_receiveChunk (config : Config) (n : Nat) (b : Board) :
    (n ≤ b.unread.length ∧ ∃ b',
      (receiveChunk config n).run answer b = (.ok (b.unread.take n), b') ∧
        b.Trades b' n [Response.ack.encode]) ∨
    (∃ b' m, (receiveChunk config n).run answer b = (.error (.failed (.link .closed)), b') ∧
      b.Trades b' m [] ∧ (b.line.writesLeft = none → b.unread.length < n)) := by
  obtain ⟨b₁, paused, trade₁⟩ := run_pause config.chunkPacingMs b
  have unread₁ : b₁.unread = b.unread := trade₁.unread
  rcases run_receive n b₁ with ⟨enough, bytes, b₂, received, content, trade₂⟩ | ⟨short, closed⟩
  · rw [unread₁] at enough content
    have trade := trade₁.trans trade₂
    rw [Nat.zero_add] at trade
    rcases run_respond .ack b₂ with ⟨b₃, said, trade₃⟩ | ⟨full, closed⟩
    · refine .inl ⟨enough, b₃, ?_, trade.trans trade₃⟩
      rw [receiveChunk, Dialogue.run_bind_ok paused, Dialogue.run_bind_ok received,
        Dialogue.run_bind_ok said, Dialogue.run_pure, content]
    · refine .inr ⟨b₂, n, ?_, trade, fun open_ => ?_⟩
      · rw [receiveChunk, Dialogue.run_bind_ok paused, Dialogue.run_bind_ok received]
        exact Dialogue.run_bind_error closed
      · rw [trade.open_ open_] at full
        cases full
  · refine .inr ⟨b₁, 0, ?_, trade₁, fun _ => unread₁ ▸ short⟩
    rw [receiveChunk, Dialogue.run_bind_ok paused]
    exact Dialogue.run_bind_error closed

/-- chunks are taken one after the other; the line is closed to the first that is cut short, or to its
ACK -/
theorem run_receiveChunks (config : Config) (size count : Nat) (b : Board) :
    (count * size ≤ b.unread.length ∧ ∃ chunks b',
      ((List.replicate count size).mapM (receiveChunk config)).run answer b = (.ok chunks, b') ∧
        chunks.flatten = b.unread.take (count * size) ∧
        b.Trades b' (count * size) (List.replicate count Response.ack.encode)) ∨
    (∃ b' m j, j < count ∧
      ((List.replicate count size).mapM (receiveChunk config)).run answer b =
        (.error (.failed (.link .closed)), b') ∧
      b.Trades b' m (List.replicate j Response.ack.encode) ∧
      (b.line.writesLeft = none →
        j * size ≤ b.unread.length ∧ b.unread.length < (j + 1) * size)) := by
  induction count generalizing b with
  | zero =>
    rw [Nat.zero_mul]
    exact .inl ⟨Nat.zero_le _, [], b, rfl, rfl, .refl b⟩
  | succ count ih =>
    rw [List.replicate_succ, List.mapM_cons]
    rcases run_receiveChunk config size b with ⟨enough, b₁, received, trade⟩ | cut
    · rw [Dialogue.run_bind_ok received]
      have unread₁ : b₁.unread = b.unread.drop size := trade.unread
      have length₁ : b₁.unread.length = b.unread.length - size := by
        rw [unread₁, List.length_drop]
      rcases ih b₁ with ⟨enough', chunks, b₂, rest, content, trade'⟩ |
        ⟨b₂, m, j, less, rest, trade', counts⟩
      · have total : (count + 1) * size = size + count * size := by
          rw [Nat.succ_mul, Nat.add_comm]
        refine .inl ⟨by omega, b.unread.take size :: chunks, b₂, ?_, ?_, ?_⟩
        · rw [Dialogue.run_bind_ok rest, Dialogue.run_pure]
        · rw [List.flatten_cons, content, unread₁, total, List.take_add]
        · rw [total]
          exact trade.trans trade'
      · refine .inr ⟨b₂, size + m, j + 1, by omega, Dialogue.run_bind_error rest,
          trade.trans trade', fun open_ => ?_⟩
        have := counts (trade.open_ open_)
        have h1 : (j + 1) * size = j * size + size := Nat.succ_mul ..
        have h2 : (j + 1 + 1) * size = (j + 1) * size + size := Nat.succ_mul ..
        omega
    · obtain ⟨b₁, m, closed, trade, short⟩ := cut
      refine .inr ⟨b₁, m, 0, by omega, Dialogue.run_bind_error closed, trade, fun open_ => ?_⟩
      have := short open_
      omega

/-- chunks of this size make up a block -/
theorem chunksFit_iff (size : UInt64) :
    chunksFit size = true ↔ 0 < size.toNat ∧ blockSize % size.toNat = 0 := by
  have zero : size = 0 ↔ size.toNat = 0 := UInt64.toNat_inj.symm
  rw [chunksFit, Bool.and_eq_true, bne_iff_ne, beq_iff_eq, ne_eq, zero, Nat.pos_iff_ne_zero]

section
variable {size : UInt64} (fit : chunksFit size = true)
include fit

theorem positive_of_fit : 0 < size.toNat := ((chunksFit_iff size).mp fit).1

theorem nonzero_of_fit : size ≠ 0 := by
  intro zero
  have positive := positive_of_fit fit
  rw [zero] at positive
  exact Nat.lt_irrefl 0 positive

theorem total_of_fit : blockSize / size.toNat * size.toNat = blockSize :=
  Nat.div_mul_cancel (Nat.dvd_of_mod_eq_zero ((chunksFit_iff size).mp fit).2)

theorem chunkLengths_of_fit :
    chunkLengths size.toNat = List.replicate (blockSize / size.toNat) size.toNat := by
  rw [chunkLengths, if_pos ((chunksFit_iff size).mp fit).2, List.append_nil]

theorem some_of_fit : 0 < blockSize / size.toNat := by
  apply Nat.pos_of_ne_zero
  intro none
  have total := total_of_fit fit
  rw [none, Nat.zero_mul] at total
  cases total

end

theorem chunksFit_of_validate {config : Config} (valid : config.validate = .ok ()) :
    chunksFit config.chunkSize = true := by
  cases fit : chunksFit config.chunkSize with
  | true => rfl
  | false =>
    rw [Config.validate, fit] at valid
    cases valid

/-- the content of a block is taken in full and all its chunks are acknowledged, or the line is closed
before the last of them is -/
theorem run_receiveBlock {config : Config} (fit : chunksFit config.chunkSize = true) (b : Board) :
    (blockSize ≤ b.unread.length ∧ ∃ b',
      (receiveBlock config).run answer b = (.ok (b.unread.take blockSize), b') ∧
        b.Trades b' blockSize
          (List.replicate (blockSize / config.chunkSize.toNat) Response.ack.encode)) ∨
    (∃ b' m j, j < blockSize / config.chunkSize.toNat ∧
      (receiveBlock config).run answer b = (.error (.failed (.link .closed)), b') ∧
      b.Trades b' m (List.replicate j Response.ack.encode) ∧
      (b.line.writesLeft = none →
        b.unread.length < blockSize ∧ j = b.unread.length / config.chunkSize.toNat)) := by
  have total := total_of_fit fit
  rw [receiveBlock, if_neg (nonzero_of_fit fit), chunkLengths_of_fit fit, Dialogue.run_map]
  rcases run_receiveChunks config config.chunkSize.toNat (blockSize / config.chunkSize.toNat) b with
    ⟨enough, chunks, b', run, content, trade⟩ | ⟨b', m, j, less, run, trade, counts⟩
  · rw [total] at enough content trade
    refine .inl ⟨enough, b', ?_, trade⟩
    rw [run]
    exact congrArg (fun bytes => (Except.ok bytes, b')) content
  · refine .inr ⟨b', m, j, less, by rw [run]; rfl, trade, fun open_ => ?_⟩
    obtain ⟨low, high⟩ := counts open_
    have bound := Nat.mul_le_mul_right config.chunkSize.toNat (Nat.succ_le_of_lt less)
    rw [total] at bound
    exact ⟨Nat.lt_of_lt_of_le high bound, (Nat.div_eq_of_lt_le low high).symm⟩

end Board

end FlashRescue
