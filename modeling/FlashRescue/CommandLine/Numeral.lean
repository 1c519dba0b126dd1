/-!
# Numbers in arguments

* `Numeral.digits?`   digits of a base, and nothing else;
* `Numeral.below?`    a number below a bound, after an optional plus sign;
* `Numeral.signed?`   the same, where zero may also have a minus sign;
* `Numeral.block?`    a 16-bit number, in hexadecimal after `0x` or `0X`.
-/

namespace FlashRescue.CommandLine.Numeral

def digit? (c : Char) : Option Nat :=
  if '0' ≤ c ∧ c ≤ '9' then some (c.toNat - '0'.toNat)
  else if 'a' ≤ c ∧ c ≤ 'f' then some (c.toNat - 'a'.toNat + 10)
  else if 'A' ≤ c ∧ c ≤ 'F' then some (c.toNat - 'A'.toNat + 10)
  else none

def digits? (base : Nat) : List Char → Option Nat
  | [] => none
  | cs => cs.foldlM (fun value c => do
      let d ← digit? c
      if d < base then some (value * base + d) else none) 0

/-- a number to `base` below `bound`, which may have a plus sign -/
def below? (base bound : Nat) (cs : List Char) : Option Nat :=
  let digits := match cs with
    | '+' :: rest => rest
    | cs => cs
  (digits? base digits).filter (· < bound)

/-- a decimal number below `bound`; a minus sign is only good for zero -/
def signed? (bound : Nat) : List Char → Option Nat
  | '-' :: rest => (digits? 10 rest).filter (· = 0)
  | cs => below? 10 bound cs

/-- a 16-bit number, hexadecimal after `0x` or `0X` and decimal otherwise -/
def block? : List Char → Option Nat
  | '0' :: 'x' :: rest | '0' :: 'X' :: rest => below? 16 UInt16.size rest
  | cs => below? 10 UInt16.size cs

end FlashRescue.CommandLine.Numeral
