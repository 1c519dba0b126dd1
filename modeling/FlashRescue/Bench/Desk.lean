import FlashRescue.Bench.Cable
import FlashRescue.Files.Tree
import FlashRescue.Host.Services

/-!
# A host's machine in memory

* `Desk`          a cable, a terminal and files;
* `Desk.working`  a working folder with files, on a machine with nothing else to read;
* `Desk.answer`   replies to the queries of a host;
* `Desk.play`     lets a host do something.
-/

namespace FlashRescue

open Host

structure Desk where
  cable : Cable
  terminal : String := ""
  folder : Place
  openError : Option String := none

namespace Desk

/-! ## Files -/

/-- the folders that the root of every machine has -/
def rootNames : List String :=
  ["bin", "boot", "dev", "etc", "home", "lib", "media", "mnt", "opt", "proc", "root", "run", "sbin",
    "srv", "sys", "tmp", "usr", "var"]

/-- the root of a machine: of its files only the null device, which is empty, is there -/
def root : Folder :=
  rootNames.map fun name =>
    (name, .folder (if name = "dev" then [("null", .file .empty)] else []))

/-- a working folder with files, in a folder of its own below the root -/
def working (files : List (String × ByteArray)) : Place where
  here := files.map fun (name, content) => (name, .file content)
  around := [[], root]

/-! ## Services -/

/-- lets milliseconds pass -/
def sleep (ms : UInt64) (d : Desk) : Desk :=
  { d with cable.now := d.cable.now + ms.toNat * Timing.nsPerMs.toNat }

def answer : machine.Answerer Desk
  | .link query => fun d =>
    let (reply, cable) := Cable.answer query d.cable
    (reply, { d with cable })
  | .now => fun d => (d.cable.now, d)
  | .sleep ms => fun d => ((), d.sleep ms)
  | .print text => fun d => ((), { d with terminal := d.terminal ++ text })
  | .openPort _ _ timeoutMs => fun d =>
    match d.openError with
    | some text => (.error text, d)
    | none => (.ok (), { d with cable.timeoutMs := timeoutMs.toNat })
  | .readFile path => fun d =>
    ((d.folder.read path).mapError PathError.ioError, d)

def play {α : Type} (talk : Talk α) (d : Desk) : Except (Stop Error) α × Desk :=
  talk.run answer d

end Desk

end FlashRescue
