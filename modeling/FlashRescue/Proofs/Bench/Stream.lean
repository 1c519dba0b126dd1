import FlashRescue.Host.Client
import FlashRescue.Proofs.Bench.Replay

/-!
# A block that is streamed to a replayed board

However the bytes of a block are cut, the board acknowledges each of its own chunks when it is complete.

* `reply_write`   the command;
* `reply_piece`   some more bytes of the block;
* `reply_last`    the last of them, which complete the WRITE;
* `take_piece`    the pieces that a host cuts follow each other.
-/

namespace FlashRescue.Replay

open Device Board

/-- a board acknowledges a WRITE and its chunks as they come -/
theorem partly_write (b : Board) (block : UInt16) (content : List UInt8) :
    partly b ((Command.of .write block).encode ++ content) =
      Ledger.acks (1 + content.length / b.config.chunkSize.toNat) := by
  have length : ((Command.of .write block).encode ++ content).length =
      Command.size + content.length := by
    rw [List.length_append, Command.length_encode]
  rw [partly, Ledger.shortReply, length, if_neg (by omega), Nat.add_sub_cancel_left]

/-! ## Bytes of a block -/

variable {r : Replay} {b : Board} {l : Ledger} {block : UInt16} {data bytes : List UInt8} {m n : Nat}

theorem next?_write (block : UInt16) {content : List UInt8} (short : content.length < blockSize) :
    Request.next? ((Command.of .write block).encode ++ content) = none := by
  rw [Request.next?_command, Command.payload_write (Command.opcode?_of ..), if_neg]
  omega

theorem reply_write (stands : Stands b) (h : Attends r b l []) :
    ∃ r', r.reply (Command.of .write block).encode = ([.bytes Response.ack.encode], r') ∧
      Attends r' b l (Command.of .write block).encode := by
  have short : Request.next? ([] ++ (Command.of .write block).encode) = none := by
    have empty : Request.next? ((Command.of .write block).encode ++ []) = none :=
      next?_write block (by decide)
    rwa [List.append_nil] at empty
  have answer : partly b ([] ++ (Command.of .write block).encode) =
      partly b [] ++ Response.ack.encode := by
    rw [List.nil_append, ← List.append_nil (Command.encode _), partly_write, List.length_nil,
      Nat.zero_div]
    rfl
  exact reply_short stands h short answer

theorem reply_piece (stands : Stands b) (full : data.length = blockSize) (up : m ≤ n)
    (inside : n < blockSize) (joined : data.take m ++ bytes = data.take n)
    (h : Attends r b l ((Command.of .write block).encode ++ data.take m)) :
    ∃ r', r.reply bytes = ([.bytes (Ledger.acks
        (n / b.config.chunkSize.toNat - m / b.config.chunkSize.toNat))], r') ∧
      Attends r' b l ((Command.of .write block).encode ++ data.take n) := by
  have whole : (Command.of .write block).encode ++ data.take m ++ bytes =
      (Command.of .write block).encode ++ data.take n := by
    rw [List.append_assoc, joined]
  have short : Request.next? ((Command.of .write block).encode ++ data.take n) = none := by
    apply next?_write
    rw [List.length_take]
    omega
  have answer : partly b ((Command.of .write block).encode ++ data.take n) =
      partly b ((Command.of .write block).encode ++ data.take m) ++ Ledger.acks
        (n / b.config.chunkSize.toNat - m / b.config.chunkSize.toNat) := by
    have more : m / b.config.chunkSize.toNat ≤ n / b.config.chunkSize.toNat := Nat.div_le_div_right up
    rw [partly_write, partly_write, List.length_take_of_le (by omega), List.length_take_of_le (by omega),
      ← Ledger.acks_add]
    exact congrArg Ledger.acks (by omega)
  rw [← whole] at short answer ⊢
  exact reply_short stands h short answer

theorem reply_last (stands : Stands b) (full : data.length = blockSize) (inside : m ≤ blockSize)
    (joined : data.take m ++ bytes = data)
    (h : Attends r b l ((Command.of .write block).encode ++ data.take m)) :
    ∃ r', r.reply bytes = ([.bytes (Ledger.acks
        (blockSize / b.config.chunkSize.toNat - m / b.config.chunkSize.toNat) ++
          Ledger.complaint b.flash.failing l block.toNat)], r') ∧
      Attends r' b (l.take b.config.chunkSize.toNat b.flash.failing (Request.write block data)) [] := by
  have next : Request.next? ((Command.of .write block).encode ++ data.take m ++ bytes) =
      some (Request.write block data, []) := by
    rw [List.append_assoc, joined, ← List.append_nil (_ ++ data)]
    exact Request.next?_encode (Request.whole_write block full) []
  have goes : (Request.write block data).outcome? = none := Request.outcome?_of (by decide) _ _
  have answer : (l.take b.config.chunkSize.toNat b.flash.failing (Request.write block data)).sent =
      l.sent ++ partly b ((Command.of .write block).encode ++ data.take m) ++ (Ledger.acks
        (blockSize / b.config.chunkSize.toNat - m / b.config.chunkSize.toNat) ++
          Ledger.complaint b.flash.failing l block.toNat) := by
    have more : m / b.config.chunkSize.toNat ≤ blockSize / b.config.chunkSize.toNat :=
      Nat.div_le_div_right inside
    have count : 1 + blockSize / b.config.chunkSize.toNat = 1 + m / b.config.chunkSize.toNat +
        (blockSize / b.config.chunkSize.toNat - m / b.config.chunkSize.toNat) := by omega
    rw [Ledger.take_write _ _ _ (Request.isWrite_write block data), partly_write,
      List.length_take_of_le (by omega), count, Ledger.acks_add, ← List.append_assoc,
      List.append_assoc l.sent]
    rfl
  exact reply_request stands h next goes answer

/-! ## Pieces -/

/-- the piece of a block that is sent after `k` others -/
def piece (n : Nat) (data : List UInt8) (k : Nat) : List UInt8 := (data.drop (k * n)).take n

theorem take_piece (n k : Nat) (data : List UInt8) :
    data.take (k * n) ++ piece n data k = data.take ((k + 1) * n) := by
  rw [piece, Nat.succ_mul, List.take_add]

theorem chunks_eq (n : Nat) (full : data.length = blockSize) :
    Host.Client.chunks n data =
      (List.range ((blockSize + (n - 1)) / n)).map (piece n data) := by
  rw [Host.Client.chunks, full]
  rfl

end FlashRescue.Replay
