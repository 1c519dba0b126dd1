/-!
# Byte order

Numbers as byte strings of a fixed length, least or most significant byte first.

* `ByteOrder.encode order n x`    the `n` bytes of `x`, which is cut to `n` bytes;
* `ByteOrder.decode order bytes`  the number that a byte string stands for;
* `ByteOrder.range n`             how many numbers there are of `n` bytes.

`decode_encode` and `encode_decode`: the two undo each other, for either order and every length.
-/

namespace FlashRescue

/-- which byte of a number comes first -/
inductive ByteOrder where
  | little
  | big
  deriving DecidableEq, Repr

namespace ByteOrder

/-- the `n` lowest digits to base 256, lowest first -/
def digits : Nat → Nat → List UInt8
  | 0, _ => []
  | n + 1, x => UInt8.ofNat x :: digits n (x / 256)

/-- the number whose digits to base 256 these are, lowest first -/
def value : List UInt8 → Nat
  | [] => 0
  | digit :: rest => digit.toNat + 256 * value rest

def encode : ByteOrder → Nat → Nat → List UInt8
  | little, n, x => digits n x
  | big, n, x => (digits n x).reverse

def decode : ByteOrder → List UInt8 → Nat
  | little, bytes => value bytes
  | big, bytes => value bytes.reverse

def range : Nat → Nat
  | 0 => 1
  | n + 1 => 256 * range n

/-! ## The two undo each other -/

theorem length_digits (n x : Nat) : (digits n x).length = n := by
  induction n generalizing x with
  | zero => rfl
  | succ n ih => rw [digits, List.length_cons, ih]

theorem value_digits (n x : Nat) : value (digits n x) = x % range n := by
  induction n generalizing x with
  | zero => rw [digits, value, range, Nat.mod_one]
  | succ n ih =>
    have lowest : (UInt8.ofNat x).toNat = x % 256 := UInt8.toNat_ofNat'
    rw [digits, value, ih, lowest, range, Nat.mod_mul]

theorem digits_value (bytes : List UInt8) : digits bytes.length (value bytes) = bytes := by
  induction bytes with
  | nil => rfl
  | cons b rest ih =>
    have low : b.toNat < 256 := b.toNat_lt
    have head : UInt8.ofNat (b.toNat + 256 * value rest) = b := by
      apply UInt8.toNat_inj.mp
      rw [UInt8.toNat_ofNat']
      omega
    have tail : (b.toNat + 256 * value rest) / 256 = value rest := by omega
    rw [List.length_cons, value, digits, head, tail, ih]

theorem length_encode (order : ByteOrder) (n x : Nat) : (order.encode n x).length = n := by
  cases order with
  | little => exact length_digits n x
  | big => rw [encode, List.length_reverse, length_digits]

theorem decode_encode (order : ByteOrder) (n x : Nat) :
    order.decode (order.encode n x) = x % range n := by
  cases order with
  | little => exact value_digits n x
  | big => rw [encode, decode, List.reverse_reverse, value_digits]

theorem encode_decode (order : ByteOrder) (bytes : List UInt8) :
    order.encode bytes.length (order.decode bytes) = bytes := by
  cases order with
  | little => exact digits_value bytes
  | big =>
    have h := digits_value bytes.reverse
    rw [List.length_reverse] at h
    rw [encode, decode, h, List.reverse_reverse]

end ByteOrder

end FlashRescue
