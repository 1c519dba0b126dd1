/-!
# Pacing of the rescue link

Delays that both ends of the link agree on, and the two facts they share besides: the revision of
the protocol and the size of a flash block.
-/

namespace FlashRescue

/-- the revision of the protocol -/
def protocolVersion : String := "0.50"

/-- bytes in an addressable flash block -/
def blockSize : Nat := 4096

namespace Timing

/-- pause before the first HELLO, in which an operator can attach the host -/
def settleMs : UInt64 := 3000

/-- from one HELLO to the next -/
def helloRetryMs : UInt64 := 250

/-- how long HELLO is repeated -/
def helloTimeoutMs : UInt64 := 10000

/-- how long the host may be silent in a session -/
def livenessTimeoutMs : UInt64 := 10000

/-- pause before each chunk of a WRITE, long enough for 64 bytes at 115200 baud -/
def chunkPacingMs : UInt64 := 33

/-- pause after the first byte of a command, in which the others arrive -/
def pollSettleMs : UInt64 := 10

/-- bytes in a chunk of a WRITE -/
def chunkSize : UInt64 := 64

/-- microseconds in a millisecond -/
def usPerMs : UInt64 := 1000

/-- nanoseconds in a millisecond -/
def nsPerMs : UInt64 := 1000000

end Timing

end FlashRescue
