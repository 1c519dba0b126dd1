/-!
# Input and output errors

* `IoKind`   the kinds of them, with the wording of each;
* `IoError`  an error of some kind, which may bring a text of its own.
-/

namespace FlashRescue

inductive IoKind where
  | timedOut
  | brokenPipe
  | unexpectedEof
  | wouldBlock
  | permissionDenied
  | notFound
  | notDirectory
  | isDirectory
  | invalidFilename
  | invalidInput
  | connectionReset
  | other
  deriving DecidableEq, Repr

def IoKind.message : IoKind → String
  | timedOut => "timed out"
  | brokenPipe => "broken pipe"
  | unexpectedEof => "unexpected end of file"
  | wouldBlock => "operation would block"
  | permissionDenied => "permission denied"
  | notFound => "entity not found"
  | notDirectory => "not a directory"
  | isDirectory => "is a directory"
  | invalidFilename => "invalid filename"
  | invalidInput => "invalid input parameter"
  | connectionReset => "connection reset"
  | other => "other error"

/-- an input or output error, worded by its kind unless it brings a text of its own -/
structure IoError where
  kind : IoKind
  detail : Option String := none
  deriving DecidableEq, Repr

namespace IoError

def message (e : IoError) : String := e.detail.getD e.kind.message

/-- an error that the system reports by its number -/
def ofSystem (kind : IoKind) (text : String) (number : Nat) : IoError :=
  ⟨kind, some (text ++ " (os error " ++ toString number ++ ")")⟩

end IoError

end FlashRescue
