import FlashRescue.Dialogue
import FlashRescue.Host.Error
import FlashRescue.Link.Typed

/-!
# What the host asks of its machine

* `Host.Query`, `Host.Reply`  the serial port, the clock, the terminal and the files;
* `Host.machine`              the interface they make up;
* `Host.Talk`                 what the host does: dialogues with its machine.
-/

namespace FlashRescue.Host

inductive Query where
  | link (query : Link.Query)
  /-- the time in nanoseconds -/
  | now
  | sleep (ms : UInt64)
  | print (text : String)
  /-- opens the serial port, whose reads give up after `timeoutMs` -/
  | openPort (path : String) (baud : UInt32) (timeoutMs : UInt64)
  | readFile (path : String)
  deriving DecidableEq, Repr

@[reducible] def Reply : Query → Type
  | .link query => Link.Reply query
  | .now => Nat
  | .sleep _ | .print _ => Unit
  | .openPort _ _ _ => Except String Unit
  | .readFile _ => Except IoError ByteArray

@[reducible] def machine : Interface := ⟨Query, Reply⟩

abbrev Talk (α : Type) : Type := Dialogue machine Error α

instance : MonadLink Talk where
  exchange query := .ask (.link query) .done

def demand {α : Type} (transfer : Talk (Except LinkError α)) : Talk α := do
  match ← transfer with
  | .ok value => return value
  | .error e => throw (.packet e)

/-- the time in nanoseconds -/
def now : Talk Nat := .ask .now .done

def print (text : String) : Talk Unit := .ask (.print text) .done

end FlashRescue.Host
