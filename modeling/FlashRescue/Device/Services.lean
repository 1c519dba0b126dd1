import FlashRescue.Device.Config
import FlashRescue.Dialogue
import FlashRescue.Flash.Basic
import FlashRescue.Link.Typed
import FlashRescue.Memory.Pages

/-!
# What the device asks of its board

* `Device.Query`, `Device.Reply`  the services of a board, one group of queries for each;
* `Device.board`                  the interface they make up;
* `Device.Action`                 what the device does: dialogues with its board;
* one function for each query.
-/

namespace FlashRescue.Device

/-! ## Services -/

/-- size of an image and where it is entered -/
structure ImageInfo where
  size : UInt64
  entryOffset : UInt64
  deriving DecidableEq, Repr

/-- how a jump into the copy of the image came out -/
inductive Landing where
  /-- the copy starts from its own entry -/
  | entered
  /-- it has run already, with this result -/
  | returned (result : Except Error Outcome)

/-- the severities of log records, after the level that lets none pass -/
inductive LogLevel where
  | off
  | error
  | warn
  | info
  | debug
  | trace
  deriving DecidableEq, Repr

/-- whether records of severity `record` pass under a level -/
def LogLevel.passes (level record : LogLevel) : Bool := record.ctorIdx ≤ level.ctorIdx

/-- what a service can refuse with: a status, or a fault that breaks the run off -/
abbrev Service (α : Type) : Type := Except (Status ⊕ Fault) α

inductive Query where
  | link (query : Link.Query)
  | flash (query : Flash.Query)
  /-- the time in nanoseconds -/
  | now
  | delay (us : UInt64)
  /-- a cold reset of the whole board -/
  | reset
  | config
  | isInstalled (marker : Guid)
  | install (marker : Guid)
  /-- where the device's own image is -/
  | locate
  | allocate (pages : UInt64)
  | free (range : PageRange)
  /-- copies the image into pages; the reply is the address of its entry -/
  | load (image : ImageInfo) (range : PageRange)
  /-- pushes the image in flash out of the code cache -/
  | evict
  | jump (entry : UInt64)
  | logLevel
  | setLogLevel (level : LogLevel)
  | log (level : LogLevel) (text : String)

@[reducible] def Reply : Query → Type
  | .link query => Link.Reply query
  | .flash query => Flash.Reply query
  | .now => UInt64
  | .config => Config
  | .isInstalled _ => Bool
  | .install _ => Except Status Unit
  | .locate => Except Status ImageInfo
  | .allocate _ => Except Status PageRange
  | .free _ => Service Unit
  | .load _ _ => Service UInt64
  | .jump _ => Except Fault Landing
  | .logLevel => LogLevel
  | _ => Unit

@[reducible] def board : Interface := ⟨Query, Reply⟩

abbrev Action (α : Type) : Type := Dialogue board Error α

instance : MonadLink Action where
  exchange query := .ask (.link query) .done

/-! ## Queries -/

def demand {α : Type} (transfer : Action (Except LinkError α)) : Action α := do
  match ← transfer with
  | .ok value => return value
  | .error e => throw (.link e)

/-- what a service replied; a fault breaks the run off -/
def settle {α : Type} : Service α → Action (Except Status α)
  | .ok value => return .ok value
  | .error (.inl status) => return .error status
  | .error (.inr fault) => .stop (.broken fault)

/-- the time in nanoseconds -/
def now : Action UInt64 := .ask .now .done

/-- lets milliseconds pass -/
def pause (ms : UInt64) : Action Unit := .ask (.delay (Word.mulSat ms Timing.usPerMs)) .done

def flash (query : Flash.Query) : Action (Flash.Reply query) := .ask (.flash query) .done

def inform (text : String) : Action Unit := .ask (.log .info text) .done

/-- does something with the log switched off: debug output would share the line with the protocol.
The level is back in place afterwards, however that ended -/
def quietly {α : Type} (action : Action α) : Action α :=
  .ask .logLevel fun level =>
  .ask (.setLogLevel .off) fun _ =>
  action.attempt.bind fun ended =>
  .ask (.setLogLevel level) fun _ =>
  .resume ended

end FlashRescue.Device
