import FlashRescue.CommandLine.Grammar
import FlashRescue.CommandLine.Numeral
import FlashRescue.Host.Console

/-!
# The command line of the host tool

* `CommandLine.order`  the order that a command line gives.
-/

namespace FlashRescue.CommandLine

open Host

/-! ## Forms of values -/

/-- a value that is read as a number -/
def numeral (read : List Char → Option Nat) : Kind :=
  .value fun text => if (read text.toList).isSome then .ok () else .error .valueValidation

def word16 : List Char → Option Nat := Numeral.signed? UInt16.size
def word32 : List Char → Option Nat := Numeral.signed? UInt32.size

def word64 : List Char → Option Nat := Numeral.below? 10 UInt64.size

def text : Kind := .value fun _ => .ok ()

/-- the name of a file, which is not empty -/
def path : Kind := .value fun name => if name.isEmpty then .error .invalidValue else .ok ()

/-! ## Arguments -/

def image : Argument := { id := "image", kind := path, required := true }

def tool : Grammar where
  arguments := [
    { id := "port", short := some 'p', long := some "port", kind := text, required := true },
    { id := "baud", short := some 'b', long := some "baud", kind := numeral word32 },
    { id := "timeout", short := some 't', long := some "timeout", kind := numeral word64 },
    { id := "wait", short := some 'w', long := some "wait", kind := numeral word64 },
    { id := "retries", short := some 'r', long := some "retries", kind := numeral word32 },
    { id := "chunk-size", long := some "chunk-size", kind := numeral word64 },
    { id := "nack", long := some "nack", kind := .flag },
    .help,
    .version]
  subcommands := ["wait", "checksum", "write", "flash", "reset", "exit", "help"]

def ofJob (name : String) : Grammar where
  arguments := (match name with
    | "checksum" => [
      { id := "block", kind := numeral Numeral.block?, required := true },
      { id := "count", short := some 'c', long := some "count", kind := numeral word16 }]
    | "write" => [
      image,
      { id := "start", short := some 's', long := some "start", kind := numeral Numeral.block? },
      { id := "count", short := some 'c', long := some "count", kind := numeral word16 }]
    | "flash" => [image]
    | _ => []) ++ [.help]

/-! ## Orders -/

def number? (r : Reading) (id : String) (read : List Char → Option Nat) : Option Nat :=
  (r.value? id).bind fun text => read text.toList

/-- the number an argument was given, or a default -/
def number (r : Reading) (id : String) (read : List Char → Option Nat) (default : Nat) : Nat :=
  (number? r id read).getD default

/-- the job with this name and the values of its arguments -/
def jobOf (name : String) (r : Reading) : Job :=
  let image := (r.value? "image").getD ""
  let block := UInt16.ofNat (number r "block" Numeral.block? 0)
  let start := UInt16.ofNat (number r "start" Numeral.block? 0)
  let count := (number? r "count" word16).map UInt16.ofNat
  match name with
  | "checksum" => .checksum block (count.getD 1)
  | "write" => .write image start count
  | "flash" => .flash image
  | "reset" => .reset
  | "exit" => .exit
  | _ => .wait

/-- the job with this name and these arguments -/
def job (name : String) (words : List String) : Except Usage Job :=
  (jobOf name) <$> (ofJob name).read words

def order (words : List String) : Except Usage Order := do
  let (r, job) ← tool.readWith job words
  let serialPort := (r.value? "port").getD ""
  let defaults : Order := { serialPort, job }
  return {
    serialPort
    baud := UInt32.ofNat (number r "baud" word32 defaults.baud.toNat)
    timeout := UInt64.ofNat (number r "timeout" word64 defaults.timeout.toNat)
    wait := UInt64.ofNat (number r "wait" word64 defaults.wait.toNat)
    retries := UInt32.ofNat (number r "retries" word32 defaults.retries.toNat)
    chunkSize := UInt64.ofNat (number r "chunk-size" word64 defaults.chunkSize.toNat)
    nack := (r.value? "nack").isSome
    job }

end FlashRescue.CommandLine
