import FlashRescue.Device.Session

/-!
# A boot attempt

The device is entered twice.  The first entry runs in place, from the flash that a host may be about
to overwrite; once a host has answered HELLO the device loads a copy of itself into fresh pages, publishes
a marker and jumps into the copy.  The second entry finds the marker and serves the host.

* `Boot.announce`   sends HELLO until a host answers or the budget is used up;
* `Boot.relocate`   loads the copy, runs it and cleans up after it;
* `Boot.enter`      a boot attempt.
-/

namespace FlashRescue.Device.Boot

/-- published once the device runs from its copy -/
def marker : Guid :=
  ⟨0xe5147285, 0x4d34, 0x415e, [0x8e, 0xa8, 0x85, 0xbd, 0xd8, 0xc6, 0x5b, 0xde]⟩

/-! ## Finding a host -/

/-- whether a response is there and acknowledges HELLO -/
def answered : Action Bool := do
  if ← Link.poll then
    let response ← demand Link.readResponse
    return response.isAck
  else return false

/-- sends HELLO in intervals while `elapsed` is within the budget; tells whether a host answered -/
def announceFrom (config : Config) : (rounds : Nat) → (elapsed : UInt64) → Action Bool
  | 0, _ => .stop .unfinished
  | rounds + 1, elapsed =>
    if elapsed < config.helloTimeoutMs then do
      demand (Link.sendCommand (.of .hello 0))
      if ← answered then return true
      else
        pause config.helloRetryMs
        announceFrom config rounds (Word.addSat elapsed config.helloRetryMs)
    else return false

/-- makes the device known until a host answers or the budget is used up; tells which -/
def announce (config : Config) (rounds : Nat) : Action Bool := announceFrom config rounds 0

/-! ## Relocation -/

/-- jumps to an address of the copy; `reenter` is what the device does when it is entered -/
def jumpTo (reenter : Action Outcome) (entry : UInt64) : Action Outcome :=
  .ask (.jump entry) fun
    | .ok .entered => reenter
    | .ok (.returned (.ok outcome)) => return outcome
    | .ok (.returned (.error e)) => throw e
    | .error fault => .stop (.broken fault)

/-- loads the image into pages, publishes the marker and enters the copy -/
def runCopy (reenter : Action Outcome) (image : ImageInfo) (pages : PageRange) :
    Action Outcome := do
  match ← settle (← .ask (.load image pages) .done) with
  | .error status => throw (.load status)
  | .ok entry =>
    .ask .evict fun _ =>
    .ask (.install marker) fun
      | .error status => throw (.registry status)
      | .ok () => jumpTo reenter entry

/-- what comes of a copy that has run: the flash service is initialised anew, since nothing may point
into the pages of the copy, and then the pages are given back.  The first error counts -/
def leaveCopy (pages : PageRange) (result : Except Error Outcome) : Action Outcome := do
  let restored ← flash .init
  let freed ← settle (← .ask (.free pages) .done)
  match result, restored, freed with
  | .error e, _, _ => throw e
  | .ok _, .error _, _ => throw .flash
  | .ok _, .ok (), .error status => throw (.load status)
  | .ok outcome, .ok (), .ok () => return outcome

/-- runs the rest of the attempt from a copy of the image -/
def relocate (reenter : Action Outcome) : Action Outcome := do
  match ← .ask .locate .done with
  | .error status => throw (.load status)
  | .ok image =>
    match ← .ask (.allocate (pagesFor image.size)) .done with
    | .error _ => throw .outOfResources
    | .ok pages => (runCopy reenter image pages).trial.bind (leaveCopy pages)

/-! ## Entry -/

def coldStart (config : Config) (rounds : Nat) (reenter : Action Outcome) : Action Outcome := do
  inform "HELLO begins. Re-connect with the host tool now"
  pause config.settleMs
  if ← announce config rounds then
    inform "Rescue host attached, relocating"
    quietly (relocate reenter)
  else
    inform "No rescue host, continuing boot"
    return .normalBoot

/-- a boot attempt; `depth` bounds how often it enters itself anew, `rounds` each of its loops -/
def enter (rounds : Nat) : (depth : Nat) → Action Outcome
  | 0 => .stop .unfinished
  | depth + 1 => do
    let config ← .ask .config .done
    match config.validate with
    | .error e => throw e
    | .ok () =>
      if ← .ask (.isInstalled marker) .done then Session.run config rounds
      else coldStart config rounds (enter rounds depth)

/-- which copy of the device is running -/
inductive Stage where
  | inPlace
  | relocated
  deriving DecidableEq, Repr

/-- the copy that an entry with these markers published runs from -/
def Stage.of (markers : List Guid) : Stage :=
  if marker ∈ markers then .relocated else .inPlace

end FlashRescue.Device.Boot
