/-!
# Hexadecimal text

* `hexDigits n x`  `x` in lower case, filled up with zeros to at least `n` digits;
* `hexText n x`    the same after a `0x`.
-/

namespace FlashRescue

def hexDigits (n x : Nat) : String :=
  let digits := Nat.toDigits 16 x
  String.ofList (List.replicate (n - digits.length) '0' ++ digits)

def hexText (n x : Nat) : String :=
  "0x" ++ hexDigits n x

end FlashRescue
