import FlashRescue.IoError

/-!
# Paths

A path leads to a file in steps, one for each part between its slashes.  An empty part, before a
leading slash, between two slashes or behind a trailing one, is a step on the spot, just as a dot is;
and like every step it needs a folder to start from.

* `PathError`   why a path does not lead to the content of a file, with the system's wording;
* `Path.parse`  where a path starts, and its steps.
-/

namespace FlashRescue

/-! ## Errors -/

/-- why a path does not lead to the content of a file -/
inductive PathError where
  /-- nothing has the name -/
  | missing
  /-- a file is where a folder should be -/
  | notFolder
  /-- a folder is where the file should be -/
  | isFolder
  /-- the path or a name in it is too long -/
  | tooLong
  /-- the path has a NUL in it, which no path can have -/
  | nul
  deriving DecidableEq, Repr

def PathError.ioError : PathError → IoError
  | missing => .ofSystem .notFound "No such file or directory" 2
  | notFolder => .ofSystem .notDirectory "Not a directory" 20
  | isFolder => .ofSystem .isDirectory "Is a directory" 21
  | tooLong => .ofSystem .invalidFilename "File name too long" 36
  | nul => ⟨.invalidInput, some "file name contained an unexpected NUL byte"⟩

/-! ## Steps -/

/-- a step on the way to a file -/
inductive Step where
  | stay
  /-- to the folder that this one lies in -/
  | up
  /-- to what has this name -/
  | to (name : String)
  deriving DecidableEq, Repr

/-- the step that a part between two slashes stands for -/
def Step.ofPart (part : String) : Step :=
  if part = "" ∨ part = "." then .stay
  else if part = ".." then .up
  else .to part

/-- a way to a file, from the root or from a working folder -/
structure Path where
  fromRoot : Bool
  steps : List Step
  deriving DecidableEq, Repr

namespace Path

def maxBytes : Nat := 4095

def maxNameBytes : Nat := 255

/-- the way that a text describes; an empty text describes none -/
def parse (text : String) : Except PathError Path :=
  let letters := text.toList
  if letters.contains '\x00' then .error .nul
  else if text.utf8ByteSize > maxBytes then .error .tooLong
  else if text.isEmpty then .error .missing
  else .ok
    { fromRoot := letters.head? = some '/'
      steps := (letters.splitOn '/').map fun part => Step.ofPart (String.ofList part) }

end Path

end FlashRescue
