import FlashRescue.Device.Status
import FlashRescue.Link.Basic

/-!
# How a boot attempt ends

* `Device.Outcome`   the ways in which it ends well;
* `Device.Error`     the ways in which it fails, with wording and status;
* `Device.entryStatus`  the status the firmware gets for either.
-/

namespace FlashRescue.Device

inductive Outcome where
  /-- no host answered HELLO -/
  | normalBoot
  /-- the host sent EXIT -/
  | exited
  /-- the host sent RESET, and the reset came back -/
  | reset
  deriving DecidableEq, Repr

inductive Error where
  /-- the flash service could not be initialised -/
  | flash
  /-- the host fell silent during a session -/
  | livenessTimeout
  /-- there are no pages for the copy of the image -/
  | outOfResources
  /-- the image was not found, not loaded or not given back -/
  | load (status : Status)
  /-- the relocation marker was not published -/
  | registry (status : Status)
  /-- the board brings settings that cannot be used -/
  | invalidConfig (reason : String)
  /-- a packet was not transferred -/
  | link (error : LinkError)
  deriving DecidableEq, Repr

namespace Error

def message : Error → String
  | flash => "flash service initialisation failed"
  | livenessTimeout => "host timed out, flash content may be inconsistent"
  | outOfResources => "out of memory for the relocated image"
  | load status => "image load failed: " ++ status.describe
  | registry status => "service registry error: " ++ status.describe
  | invalidConfig reason => "invalid configuration: " ++ reason
  | link error => "protocol error: " ++ error.packetMessage

def status : Error → Status
  | flash | link _ => .deviceError
  | livenessTimeout => .timeout
  | outOfResources => .outOfResources
  | load status | registry status => status
  | invalidConfig _ => .invalidParameter

end Error

def entryStatus : Except Error Outcome → Status
  | .ok _ => .success
  | .error e => e.status

end FlashRescue.Device
