import FlashRescue.Packet
import FlashRescue.Timing

/-!
# Requests in a byte string

What a host sends is a string of requests: three bytes of a command each, and after the command of a
WRITE the content of a block.

* `Request`         a command with the content that belongs to it;
* `Request.next?`   the request at the head of a byte string, if all of it is there;
* `Request.cut`     all requests at the head, and the bytes of one that is cut short.

`next?_encode` and `next?_eq_some`: cutting undoes encoding, and nothing else is cut off.
-/

namespace FlashRescue

/-! ## Commands -/

namespace Command

/-- how many bytes of content follow a command -/
def payload (c : Command) : Nat := if c.opcode? = some .write then blockSize else 0

theorem payload_write {c : Command} (h : c.opcode? = some .write) : c.payload = blockSize := by
  rw [payload, if_pos h]

theorem payload_other {c : Command} (h : c.opcode? ≠ some .write) : c.payload = 0 := by
  rw [payload, if_neg h]

theorem encode_eq (c : Command) :
    c.encode = [c.opcode, UInt8.ofNat c.block.toNat, UInt8.ofNat (c.block.toNat / 256)] := rfl

theorem encode_decode (bytes : Vector UInt8 size) : (decode bytes).encode = bytes.toList := by
  obtain ⟨⟨list⟩, three⟩ := bytes
  match list, three with
  | [op, low, high], _ =>
    have small : ByteOrder.little.decode [low, high] < 65536 := by
      have h1 := low.toNat_lt
      have h2 := high.toNat_lt
      show low.toNat + 256 * (high.toNat + 256 * 0) < 65536
      omega
    have block : (UInt16.ofNat (ByteOrder.little.decode [low, high])).toNat
        = ByteOrder.little.decode [low, high] := by
      rw [UInt16.toNat_ofNat', Nat.mod_eq_of_lt small]
    show op :: ByteOrder.little.encode 2 (UInt16.ofNat (ByteOrder.little.decode [low, high])).toNat
      = [op, low, high]
    rw [block]
    exact congrArg _ (ByteOrder.encode_decode .little [low, high])

theorem decode_encode (c : Command) :
    decode #v[c.opcode, UInt8.ofNat c.block.toNat, UInt8.ofNat (c.block.toNat / 256)] = c := by
  have block : ByteOrder.little.decode
      [UInt8.ofNat c.block.toNat, UInt8.ofNat (c.block.toNat / 256)] = c.block.toNat := by
    have h := ByteOrder.decode_encode .little 2 c.block.toNat
    have small := c.block.toNat_lt
    rw [show ByteOrder.range 2 = 65536 from rfl, Nat.mod_eq_of_lt small] at h
    exact h
  show (⟨c.opcode, UInt16.ofNat (ByteOrder.little.decode
    [UInt8.ofNat c.block.toNat, UInt8.ofNat (c.block.toNat / 256)])⟩ : Command) = c
  rw [block, UInt16.ofNat_toNat]

theorem opcode?_of (op : Opcode) (block : UInt16) : (of op block).opcode? = some op :=
  Opcode.ofByte?_byte op

end Command

/-! ## Requests -/

structure Request where
  command : Command
  content : List UInt8
  deriving DecidableEq, Repr

namespace Request

def bare (op : Opcode) (block : UInt16) : Request := ⟨.of op block, []⟩

def write (block : UInt16) (content : List UInt8) : Request := ⟨.of .write block, content⟩

def isWrite (r : Request) : Bool := r.command.opcode? = some .write

def encode (r : Request) : List UInt8 := r.command.encode ++ r.content

/-- as much content follows as the command calls for -/
def Whole (r : Request) : Prop := r.content.length = r.command.payload

theorem encode_bare (op : Opcode) (block : UInt16) :
    (bare op block).encode = (Command.of op block).encode := List.append_nil _

theorem isWrite_write (block : UInt16) (content : List UInt8) :
    (write block content).isWrite = true :=
  decide_eq_true (Command.opcode?_of ..)

theorem isWrite_bare {op : Opcode} (h : op ≠ .write) (block : UInt16) :
    (bare op block).isWrite = false := by
  refine decide_eq_false ?_
  rw [bare, Command.opcode?_of]
  simpa using h

theorem length_encode (r : Request) : r.encode.length = Command.size + r.content.length := by
  rw [encode, List.length_append, Command.length_encode]

theorem whole_bare {op : Opcode} (h : op ≠ .write) (block : UInt16) : (bare op block).Whole := by
  have other : (Command.of op block).opcode? ≠ some .write := by
    rw [Command.opcode?_of]
    simpa using h
  exact (Command.payload_other other).symm

theorem whole_write (block : UInt16) {content : List UInt8} (h : content.length = blockSize) :
    (write block content).Whole := by
  show content.length = (Command.of .write block).payload
  rw [Command.payload_write (Command.opcode?_of ..), h]

/-! ## Cutting -/

/-- the request at the head of a byte string and what follows it, if all of the request is there -/
def next? : List UInt8 → Option (Request × List UInt8)
  | op :: low :: high :: rest =>
    let command := Command.decode #v[op, low, high]
    if command.payload ≤ rest.length then
      some (⟨command, rest.take command.payload⟩, rest.drop command.payload)
    else none
  | _ => none

theorem next?_command (command : Command) (rest : List UInt8) :
    next? (command.encode ++ rest) =
      if command.payload ≤ rest.length then
        some (⟨command, rest.take command.payload⟩, rest.drop command.payload)
      else none := by
  have bytes : command.encode ++ rest = command.opcode :: UInt8.ofNat command.block.toNat ::
      UInt8.ofNat (command.block.toNat / 256) :: rest := by
    rw [Command.encode_eq]
    rfl
  rw [bytes, next?, Command.decode_encode]

theorem next?_short {bytes : List UInt8} (h : bytes.length < Command.size) : next? bytes = none := by
  match bytes, h with
  | [], _ | [_], _ | [_, _], _ => rfl

theorem next?_encode {r : Request} (h : r.Whole) (rest : List UInt8) :
    next? (r.encode ++ rest) = some (r, rest) := by
  obtain ⟨command, content⟩ := r
  have h' : content.length = command.payload := h
  rw [encode, List.append_assoc, next?_command, ← h', List.length_append,
    if_pos (Nat.le_add_right ..), List.take_left, List.drop_left]

theorem next?_eq_some {bytes rest : List UInt8} {r : Request} (h : next? bytes = some (r, rest)) :
    r.Whole ∧ bytes = r.encode ++ rest := by
  match bytes, h with
  | op :: low :: high :: tail, h =>
    by_cases enough : (Command.decode #v[op, low, high]).payload ≤ tail.length
    · rw [next?, if_pos enough] at h
      cases h
      refine ⟨List.length_take_of_le enough, ?_⟩
      rw [encode, Command.encode_decode, List.append_assoc, List.take_append_drop]
      rfl
    · rw [next?, if_neg enough] at h
      cases h

/-- a request takes up the three bytes of its command at least -/
theorem length_next? {bytes rest : List UInt8} {r : Request} (h : next? bytes = some (r, rest)) :
    rest.length + 3 ≤ bytes.length := by
  obtain ⟨-, split⟩ := next?_eq_some h
  have head : r.encode.length = 3 + r.content.length := length_encode r
  rw [split, List.length_append, head]
  omega

/-- cuts a byte string into the requests at its head and the bytes of one that is cut short -/
def cut (bytes : List UInt8) : List Request × List UInt8 :=
  match _step : next? bytes with
  | some (r, rest) => (r :: (cut rest).1, (cut rest).2)
  | none => ([], bytes)
termination_by bytes.length
decreasing_by
  all_goals
    have := length_next? _step
    omega

theorem cut_of_some {bytes rest : List UInt8} {r : Request} (h : next? bytes = some (r, rest)) :
    cut bytes = (r :: (cut rest).1, (cut rest).2) := by
  rw [cut]
  split <;> simp_all

theorem cut_of_none {bytes : List UInt8} (h : next? bytes = none) : cut bytes = ([], bytes) := by
  rw [cut]
  split <;> simp_all

theorem cut_nil : cut [] = ([], []) := cut_of_none rfl

theorem cut_encode {r : Request} (h : r.Whole) (rest : List UInt8) :
    cut (r.encode ++ rest) = (r :: (cut rest).1, (cut rest).2) :=
  cut_of_some (next?_encode h rest)

/-- induction on a byte string, request by request -/
theorem cut_induction {motive : List UInt8 → Prop}
    (short : ∀ bytes, next? bytes = none → motive bytes)
    (long : ∀ bytes r rest, next? bytes = some (r, rest) → motive rest → motive bytes)
    (bytes : List UInt8) : motive bytes :=
  match step : next? bytes with
  | none => short bytes step
  | some (r, rest) => long bytes r rest step (cut_induction short long rest)
termination_by bytes.length
decreasing_by
  have := length_next? step
  omega

theorem next?_cut_snd (bytes : List UInt8) : next? (cut bytes).2 = none := by
  induction bytes using cut_induction with
  | short bytes h => rw [cut_of_none h, h]
  | long bytes r rest h ih => rw [cut_of_some h, ih]

theorem flatMap_cut (bytes : List UInt8) :
    (cut bytes).1.flatMap encode ++ (cut bytes).2 = bytes := by
  induction bytes using cut_induction with
  | short bytes h => rw [cut_of_none h, List.flatMap_nil, List.nil_append]
  | long bytes r rest h ih =>
    rw [cut_of_some h, List.flatMap_cons, List.append_assoc, ih, (next?_eq_some h).2]

theorem whole_of_mem_cut {bytes : List UInt8} : ∀ r ∈ (cut bytes).1, r.Whole := by
  induction bytes using cut_induction with
  | short bytes h => simp [cut_of_none h]
  | long bytes r rest h ih =>
    intro r' mem
    rw [cut_of_some h] at mem
    rcases List.mem_cons.mp mem with rfl | later
    · exact (next?_eq_some h).1
    · exact ih r' later

/-- requests in front do not change how the bytes after them are cut -/
theorem cut_flatMap {requests : List Request} (whole : ∀ r ∈ requests, r.Whole)
    (bytes : List UInt8) :
    cut (requests.flatMap encode ++ bytes) = (requests ++ (cut bytes).1, (cut bytes).2) := by
  induction requests with
  | nil => rfl
  | cons r requests ih =>
    rw [List.flatMap_cons, List.append_assoc, cut_encode (whole r List.mem_cons_self),
      ih fun r' h' => whole r' (List.mem_cons_of_mem _ h')]
    rfl

/-- each request takes up three bytes -/
theorem length_cut_le (bytes : List UInt8) : (cut bytes).1.length ≤ bytes.length := by
  induction bytes using cut_induction with
  | short bytes h => rw [cut_of_none h]; exact Nat.zero_le _
  | long bytes r rest h ih =>
    have := length_next? h
    rw [cut_of_some h, List.length_cons]
    omega

end Request

end FlashRescue
