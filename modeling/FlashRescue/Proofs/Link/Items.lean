import FlashRescue.Link.Typed
import FlashRescue.Proofs.Session.Request
import Mathlib.Algebra.GroupWithZero.Nat

/-!
# Values on a link

All that the typed transfers carry, with the bytes it is sent as.

* `Link.Item`, `Link.Form`   a value, and what a reader has to know of it;
* `Item.send`, `Form.receive`  the transfers; `send_eq`, `receive_eq`: each is one write or one read;
* `decode_encode`, `encode_decode`  values and byte strings of their width are the same thing;
* `eq_of_flatMap_encode`       values that follow each other are known from their bytes.
-/

namespace FlashRescue

theorem Response.encode_decode (bytes : Vector UInt8 Response.width) :
    (Response.decode bytes).encode = bytes.toList :=
  Command.encode_decode bytes

theorem Response.decode_encode {bytes : Vector UInt8 Response.width} {r : Response}
    (h : bytes.toList = r.encode) : Response.decode bytes = r := by
  have packet : bytes = #v[r.acknowledge, UInt8.ofNat r.size.toNat, UInt8.ofNat (r.size.toNat / 256)] :=
    Vector.toList_inj.mp h
  have same := Command.decode_encode ⟨r.acknowledge, r.size⟩
  rw [packet]
  exact congrArg (fun c : Command => (⟨c.opcode, c.block⟩ : Response)) same

namespace Link

/-! ## Numbers -/

theorem decode_number {order : ByteOrder} {n x : Nat} {digits : Vector UInt8 n} (fits : x < ByteOrder.range n)
    (h : digits.toList = order.encode n x) : order.decode digits.toList = x := by
  rw [h, ByteOrder.decode_encode, Nat.mod_eq_of_lt fits]

theorem range_positive (n : Nat) : 0 < ByteOrder.range n := by
  induction n with
  | zero => exact Nat.one_pos
  | succ n ih => exact Nat.mul_pos (by decide) ih

theorem encode_number (order : ByteOrder) {n : Nat} (digits : Vector UInt8 n) :
    order.encode n (order.decode digits.toList) = digits.toList := by
  have back := order.encode_decode digits.toList
  rwa [Vector.length_toList] at back

theorem number_lt (order : ByteOrder) {n : Nat} (digits : Vector UInt8 n) :
    order.decode digits.toList < ByteOrder.range n := by
  have small := order.decode_encode n (order.decode digits.toList)
  rw [encode_number] at small
  rw [small]
  exact Nat.mod_lt _ (range_positive n)

/-! ## Checksums -/

/-- the four bytes of a checksum are those that it was read from -/
theorem digits_eq (digits : Vector UInt8 4) : digits.toList =
    ByteOrder.little.encode 4 (UInt32.ofNat (ByteOrder.little.decode digits.toList)).toNat := by
  have whole : (UInt32.ofNat (ByteOrder.little.decode digits.toList)).toNat =
      ByteOrder.little.decode digits.toList := by
    rw [UInt32.toNat_ofNat']
    exact Nat.mod_eq_of_lt (number_lt .little digits)
  rw [whole, encode_number]

theorem ofNat_digits {digits : Vector UInt8 4} {crc : UInt32}
    (h : digits.toList = ByteOrder.little.encode 4 crc.toNat) :
    UInt32.ofNat (ByteOrder.little.decode digits.toList) = crc := by
  have fits : crc.toNat % ByteOrder.range 4 = crc.toNat := Nat.mod_eq_of_lt crc.toNat_lt
  rw [h, ByteOrder.decode_encode, fits, UInt32.ofNat_toNat]

/-! ## Items -/

/-- what a reader has to know of a value -/
inductive Form where
  | command
  | response
  | checksum
  | raw (length : Nat)
  | number (order : ByteOrder) (width : Nat)
  deriving DecidableEq, Repr

inductive Item where
  | command (c : Command)
  | response (r : Response)
  | checksum (crc : UInt32)
  | raw (bytes : List UInt8)
  /-- a number of so many bytes -/
  | number (order : ByteOrder) (width value : Nat)
  deriving DecidableEq, Repr

def Form.width : Form → Nat
  | command => Command.size
  | response => Response.width
  | checksum => 4
  | raw length => length
  | number _ width => width

/-- the value that is read from these bytes -/
def Form.decode : (f : Form) → Vector UInt8 f.width → Item
  | command, bytes => .command (Command.decode bytes)
  | response, bytes => .response (Response.decode bytes)
  | checksum, bytes => .checksum (UInt32.ofNat (ByteOrder.little.decode bytes.toList))
  | raw _, bytes => .raw bytes.toList
  | number order width, bytes => .number order width (order.decode bytes.toList)

namespace Item

def form : Item → Form
  | command _ => .command
  | response _ => .response
  | checksum _ => .checksum
  | raw bytes => .raw bytes.length
  | number order width _ => .number order width

/-- a number has to fit its width -/
def Fits : Item → Prop
  | number _ width value => value < ByteOrder.range width
  | _ => True

instance : (i : Item) → Decidable i.Fits
  | number _ width value => inferInstanceAs (Decidable (value < ByteOrder.range width))
  | command _ | response _ | checksum _ | raw _ => .isTrue trivial

/-- the bytes that a value is sent as -/
def encode : Item → List UInt8
  | command c => c.encode
  | response r => r.encode
  | checksum crc => ByteOrder.little.encode 4 crc.toNat
  | raw bytes => bytes
  | number order width value => order.encode width value

theorem length_encode (i : Item) : i.encode.length = i.form.width := by
  cases i with
  | command c => exact Command.length_encode c
  | response r => exact Response.length_encode r
  | checksum crc => exact ByteOrder.length_encode .little 4 crc.toNat
  | raw bytes => rfl
  | number order width value => exact ByteOrder.length_encode order width value

theorem decode_encode {i : Item} (fits : i.Fits) {f : Form} (form : i.form = f) {bytes : Vector UInt8 f.width}
    (h : bytes.toList = i.encode) : f.decode bytes = i := by
  subst form
  cases i with
  | command c =>
    have packet : bytes = #v[c.opcode, UInt8.ofNat c.block.toNat, UInt8.ofNat (c.block.toNat / 256)] :=
      Vector.toList_inj.mp h
    rw [packet]
    exact congrArg command (Command.decode_encode c)
  | response r => exact congrArg response (Response.decode_encode h)
  | checksum crc => exact congrArg checksum (ofNat_digits h)
  | raw content => exact congrArg raw h
  | number order width value => exact congrArg (number order width) (decode_number fits h)

theorem eq_of_encode {i i' : Item} (fits : i.Fits) (fits' : i'.Fits) (form : i.form = i'.form)
    (same : i.encode = i'.encode) : i = i' := by
  have whole : i.encode.toArray.size = i'.form.width := by
    rw [List.size_toArray, length_encode, form]
  have back : i'.form.decode ⟨i.encode.toArray, whole⟩ = i := decode_encode fits form rfl
  have back' : i'.form.decode ⟨i.encode.toArray, whole⟩ = i' := decode_encode fits' rfl same
  rw [← back, back']

theorem length_flatMap_encode (items : List Item) :
    (items.flatMap encode).length = ((items.map form).map Form.width).sum := by
  rw [List.length_flatMap, List.map_map]
  exact congrArg List.sum (List.map_congr_left fun i _ => i.length_encode)

/-- the forms tell where each value ends, so the bytes are those of one list of values only -/
theorem eq_of_flatMap_encode {items items' : List Item} (fits : ∀ i ∈ items, i.Fits)
    (fits' : ∀ i ∈ items', i.Fits) (forms : items.map form = items'.map form)
    (same : items.flatMap encode = items'.flatMap encode) : items = items' := by
  induction items generalizing items' with
  | nil => exact (List.map_eq_nil_iff.mp forms.symm).symm
  | cons i items ih =>
    obtain _ | ⟨i', items'⟩ := items'
    · exact absurd forms (List.cons_ne_nil _ _)
    · obtain ⟨form, forms⟩ := List.cons.inj forms
      obtain ⟨head, tail⟩ := List.append_inj same (by rw [length_encode, length_encode, form])
      obtain ⟨fit, fits⟩ := List.forall_mem_cons.mp fits
      obtain ⟨fit', fits'⟩ := List.forall_mem_cons.mp fits'
      rw [eq_of_encode fit fit' form head, ih fits fits' forms tail]

end Item

namespace Form

theorem form_decode (f : Form) (bytes : Vector UInt8 f.width) : (f.decode bytes).form = f := by
  cases f with
  | raw length => exact congrArg raw bytes.length_toList
  | _ => rfl

theorem encode_decode (f : Form) (bytes : Vector UInt8 f.width) : (f.decode bytes).encode = bytes.toList := by
  cases f with
  | command => exact Command.encode_decode bytes
  | response => exact Response.encode_decode bytes
  | checksum => exact (digits_eq bytes).symm
  | raw length => rfl
  | number order width => exact encode_number order bytes

theorem fits_decode (f : Form) (bytes : Vector UInt8 f.width) : (f.decode bytes).Fits := by
  cases f with
  | number order width => exact number_lt order bytes
  | _ => trivial

end Form

/-! ## Transfers -/

section
variable {m : Type → Type} [Functor m] [MonadLink m]

def Item.send : Item → m (Except LinkError Unit)
  | command c => sendCommand c
  | response r => sendResponse r
  | checksum crc => sendChecksum crc
  | raw bytes => write bytes
  | number order width value => sendNumber order width value

def Form.receive : Form → m (Except LinkError Item)
  | command => Except.map .command <$> readCommand
  | response => Except.map .response <$> readResponse
  | checksum => Except.map .checksum <$> readChecksum
  | raw length => Except.map (fun bytes => .raw bytes.toList) <$> read length
  | number order width => Except.map (.number order width) <$> readNumber order width

end

theorem Item.send_eq {m : Type → Type} [MonadLink m] (i : Item) : (i.send : m _) = write i.encode := by
  cases i <;> rfl

theorem Form.receive_eq {m : Type → Type} [Functor m] [LawfulFunctor m] [MonadLink m] (f : Form) :
    (f.receive : m _) = Except.map f.decode <$> read f.width := by
  have map_map {α β γ : Type} (g : β → γ) (h : α → β) :
      (Except.map g ∘ Except.map h : Except LinkError α → _) = Except.map (g ∘ h) := by
    funext reply
    cases reply <;> rfl
  cases f with
  | command =>
    rw [receive, readCommand, ← comp_map, map_map]
    rfl
  | response =>
    rw [receive, readResponse, ← comp_map, map_map]
    rfl
  | checksum =>
    rw [receive, readChecksum, readNumber, ← comp_map, ← comp_map, map_map, map_map]
    rfl
  | raw length => rfl
  | number order width =>
    rw [receive, readNumber, ← comp_map, map_map]
    rfl

end Link

end FlashRescue
