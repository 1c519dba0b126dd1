import FlashRescue.Device.Error
import FlashRescue.Timing

/-!
# Settings of a board

* `Device.Config`           delays, budgets and the chunk size, with the values of the link's pacing
                            as defaults;
* `Device.Config.validate`  refuses settings under which the device would not work.
-/

namespace FlashRescue.Device

structure Config where
  settleMs : UInt64 := Timing.settleMs
  helloRetryMs : UInt64 := Timing.helloRetryMs
  helloTimeoutMs : UInt64 := Timing.helloTimeoutMs
  livenessTimeoutMs : UInt64 := Timing.livenessTimeoutMs
  chunkPacingMs : UInt64 := Timing.chunkPacingMs
  pollSettleMs : UInt64 := Timing.pollSettleMs
  chunkSize : UInt64 := Timing.chunkSize
  /-- answer a failed command with NACK before the host has asked for it -/
  nackOnFailure : Bool := false
  deriving DecidableEq, Repr

/-- whether chunks of this size make up a block -/
def chunksFit (chunkSize : UInt64) : Bool :=
  chunkSize != 0 && blockSize % chunkSize.toNat == 0

/-- refuses a chunk size that does not divide a block and intervals of zero, in this order -/
def Config.validate (c : Config) : Except Error Unit :=
  if !chunksFit c.chunkSize then .error (.invalidConfig "chunk size must divide the block size")
  else if c.helloRetryMs = 0 then .error (.invalidConfig "hello retry interval is zero")
  else if c.livenessTimeoutMs = 0 then .error (.invalidConfig "liveness timeout is zero")
  else .ok ()

end FlashRescue.Device
