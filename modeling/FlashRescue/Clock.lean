import FlashRescue.Word

/-!
# Clocks

Time in nanoseconds, on 64-bit words that wrap around.  A virtual clock moves by a fixed tick at
every reading and by the whole of every delay, so that waiting takes no time.  A wall clock reads
the time of the process it runs in, which a delay lets pass.

* `Clock.virtual`, `Clock.wall`  the two kinds;
* `Clock.peek`       the time, without a tick;
* `Clock.read`       the time, and then a tick;
* `Clock.delay`      lets microseconds pass and adds them to the total `delayedUs`;
* `Clock.advanceTo`  moves a virtual clock forward to a moment, never back.
-/

namespace FlashRescue

/-- the time of a process: every look at it takes `step` nanoseconds -/
structure ProcessTime where
  now : Nat := 0
  step : Nat := 0
  deriving DecidableEq, Repr

namespace ProcessTime

/-- the time, after which a step has passed -/
def look (t : ProcessTime) : Nat × ProcessTime := (t.now, { t with now := t.now + t.step })

/-- lets nanoseconds pass -/
def sleep (ns : Nat) (t : ProcessTime) : ProcessTime := { t with now := t.now + ns }

end ProcessTime

/-- a clock that is virtual unless it follows a process, whose time counts from `start` on -/
structure Clock where
  now : UInt64 := 0
  tick : UInt64
  delayedUs : UInt64 := 0
  process : Option (Nat × ProcessTime) := none
  deriving DecidableEq, Repr

namespace Clock

def virtual (tick : UInt64) : Clock := { tick }

def wall (time : ProcessTime) : Clock := { tick := 0, process := some time.look }

def peek (c : Clock) : UInt64 × Clock :=
  match c.process with
  | none => (c.now, c)
  | some (start, time) =>
    let (now, time) := time.look
    (UInt64.ofNat (now - start), { c with process := some (start, time) })

def read (c : Clock) : UInt64 × Clock :=
  match c.process with
  | none => (c.now, { c with now := c.now + c.tick })
  | some _ => c.peek

def delay (us : UInt64) (c : Clock) : Clock :=
  let c := { c with delayedUs := c.delayedUs + us }
  match c.process with
  | none => { c with now := c.now + Word.mulSat us 1000 }
  | some (start, time) => { c with process := some (start, time.sleep (us.toNat * 1000)) }

def advanceTo (ns : UInt64) (c : Clock) : Clock :=
  match c.process with
  | none => { c with now := max c.now ns }
  | some _ => c

end Clock

end FlashRescue
