import FlashRescue.Proofs.Boot.Announcement
import FlashRescue.Proofs.Boot.Relocation

/-!
# A boot attempt from its first entry on

What a device that was not entered before calls upon, from the first entry to the end of the attempt.

* `Board.Entered`     the ways in which an attempt can go;
* `entered_of_cold`   on a board without the marker there are no others;
* `enter_hot`         a device that finds the marker serves the host and does nothing else.
-/

namespace FlashRescue

open Device Device.Boot Dialogue

namespace Device.Boot

/-- the log of an attempt: it begins, a host was found, there is none -/
def beginning : Call := ⟨.log .info "HELLO begins. Re-connect with the host tool now", ()⟩
def attached : Call := ⟨.log .info "Rescue host attached, relocating", ()⟩
def unattended : Call := ⟨.log .info "No rescue host, continuing boot", ()⟩

theorem coldStart_eq (config : Config) (rounds : Nat) (reenter : Action Outcome) :
    coldStart config rounds reenter = (do
      inform "HELLO begins. Re-connect with the host tool now"
      if ← search config rounds then
        inform "Rescue host attached, relocating"
        quietly (relocate reenter)
      else
        inform "No rescue host, continuing boot"
        return .normalBoot) := rfl

end Device.Boot

namespace Board

variable {b b' p : Board} {rounds depth : Nat} {calls : List Call}
  {ended : Except (Stop Error) Outcome}

/-! ## The second entry -/

theorem enter_hot (rounds depth : Nat) (hot : marker ∈ b.registry) (valid : b.config.validate = .ok ()) :
    (Boot.enter rounds (depth + 1)).run answer b = (Session.run b.config rounds).run answer b :=
  (enter_again hot valid (recorded rfl)).run

/-! ## The first entry -/

/-- the ways in which an attempt can go -/
inductive Entered (rounds : Nat) (b : Board) :
    List Call → Except (Stop Error) Outcome → Board → Prop
  | refused {e : Error} (invalid : b.config.validate = .error e) :
      Entered rounds b [⟨.config, b.config⟩] (.error (.failed e)) b
  | cut {calls : List Call} {why : Stop Error} {p : Board} (valid : b.config.validate = .ok ())
      (sought : Recorded answer (search b.config rounds) b calls (.error why) p) :
      Entered rounds b (⟨.config, b.config⟩ :: ⟨.isInstalled marker, false⟩ :: beginning :: calls)
        (.error why) p
  | alone {calls : List Call} {p : Board} (valid : b.config.validate = .ok ())
      (sought : Recorded answer (search b.config rounds) b calls (.ok false) p) :
      Entered rounds b
        (⟨.config, b.config⟩ :: ⟨.isInstalled marker, false⟩ :: beginning :: (calls ++ [unattended]))
        (.ok .normalBoot) p
  | hosted {calls calls' : List Call} {p b' : Board} {ended : Except (Stop Error) Outcome}
      (valid : b.config.validate = .ok ())
      (sought : Recorded answer (search b.config rounds) b calls (.ok true) p)
      (relocated : Relocated rounds { p with logLevel := .off } calls' ended b') :
      Entered rounds b
        (⟨.config, b.config⟩ :: ⟨.isInstalled marker, false⟩ :: beginning :: (calls ++
          attached :: ⟨.logLevel, b.logLevel⟩ :: ⟨.setLogLevel .off, ()⟩ ::
            (calls' ++ [⟨.setLogLevel b.logLevel, ()⟩])))
        ended { b' with logLevel := b.logLevel }

theorem recorded_enter (cold : marker ∉ b.registry) (valid : b.config.validate = .ok ())
    (h : Recorded answer (coldStart b.config rounds (Boot.enter rounds depth)) b calls ended b') :
    Recorded answer (Boot.enter rounds (depth + 1)) b
      (⟨.config, b.config⟩ :: ⟨.isInstalled marker, false⟩ :: calls) ended b' := by
  refine .ask rfl ?_
  rw [Dialogue.pure_bind, valid]
  exact .ask (Prod.ext (decide_eq_false cold) rfl) h

theorem entered_of_cold (rounds depth : Nat) (cold : marker ∉ b.registry) :
    ∃ calls ended b', Recorded answer (Boot.enter rounds (depth + 2)) b calls ended b' ∧
      Entered rounds b calls ended b' := by
  cases valid : b.config.validate with
  | error e =>
    refine ⟨_, _, b, .ask rfl ?_, .refused valid⟩
    rw [Dialogue.pure_bind, valid]
    exact recorded_stop _ b
  | ok =>
    obtain ⟨found, p, ran⟩ : ∃ found p, (search b.config rounds).run answer b = (found, p) :=
      ⟨_, _, rfl⟩
    have sought := recorded ran
    cases found with
    | error why =>
      refine ⟨_, _, p, recorded_enter cold valid ?_, .cut valid sought⟩
      rw [coldStart_eq]
      exact .ask rfl sought.bind_error
    | ok found =>
      cases found with
      | false =>
        refine ⟨_, _, p, recorded_enter cold valid ?_, .alone valid sought⟩
        rw [coldStart_eq]
        exact .ask rfl (sought.bind_ok (.ask rfl (recorded_done Outcome.normalBoot p)))
      | true =>
        obtain ⟨line, rfl⟩ : ∃ line, p = { b with line } := ⟨_, (searched sought).others⟩
        obtain ⟨calls', ended, b', went, relocated⟩ :=
          relocated_of_cold (b := { b with line, logLevel := .off }) rounds depth cold valid
        refine ⟨_, _, _, recorded_enter cold valid ?_, .hosted valid sought relocated⟩
        rw [coldStart_eq]
        exact .ask rfl (sought.bind_ok (.ask rfl (recorded_quietly went)))

/-- a board with a host that answers HELLO and then sends EXIT; its image is a single byte -/
def attended : Board :=
  { standard 1 with
    line := ({ clock := .virtual standardTick } : Line).push 0
      (Response.ack.encode ++ (Command.of .exit 0).encode)
    image := { bytes := [0xc3], length_le := by decide, entryOffset := 0, arena := standardArena } }

end Board

end FlashRescue
