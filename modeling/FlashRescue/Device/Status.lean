import FlashRescue.ByteOrder

/-!
# Firmware statuses and identifiers

* `Status`  the words in which firmware services tell how they ended;
* `Guid`    the identifiers of the capabilities they publish.
-/

namespace FlashRescue

/-- how a firmware service ended; errors have the highest bit set -/
abbrev Status : Type := UInt64

namespace Status

def error (code : UInt64) : Status := 0x8000000000000000 ||| code

def success : Status := 0
def loadError : Status := error 1
def invalidParameter : Status := error 2
def bufferTooSmall : Status := error 5
def deviceError : Status := error 7
def outOfResources : Status := error 9
def notFound : Status := error 14
def timeout : Status := error 18
def alreadyStarted : Status := error 20

def describe (s : Status) : String := "Status(" ++ toString s.toNat ++ ")"

end Status

structure Guid where
  data1 : UInt32
  data2 : UInt16
  data3 : UInt16
  data4 : List UInt8
  deriving DecidableEq, Repr

/-- its sixteen bytes in memory: the three numbers have their lowest byte first -/
def Guid.bytes (g : Guid) : List UInt8 :=
  ByteOrder.little.encode 4 g.data1.toNat ++ ByteOrder.little.encode 2 g.data2.toNat ++
    ByteOrder.little.encode 2 g.data3.toNat ++ g.data4

end FlashRescue
