import FlashRescue.Proofs.Boot.Memory
import FlashRescue.Proofs.Session.Frame

/-!
# The way into the copy and back

What a device that has found a host calls upon, and what it makes of its board.

* `leaving`              how an attempt ends whose copy has run;
* `Board.relocated`      a board as the copy finds it;
* `Board.Copied`         the image is loaded and entered, or refused;
* `Board.Relocated`      the ways in which a relocation can go;
* `relocated_of_cold`    on a board without the marker there are no others.
-/

namespace FlashRescue

open Device Device.Boot Dialogue

namespace Device.Boot

/-! ## The way back -/

/-- how an attempt ends whose copy has run: the first error counts -/
def leaving : Except Error Outcome → Except Flash.Error Unit → Except Status Unit →
    Except Error Outcome
  | .error e, _, _ => .error e
  | .ok _, .error _, _ => .error .flash
  | .ok _, .ok (), .error status => .error (.load status)
  | .ok outcome, .ok (), .ok () => .ok outcome

/-- the flash service is set up again first, and then the pages are given back -/
theorem recorded_leaveCopy {σ : Type} {answer : board.Answerer σ} {s s₁ s₂ : σ} {range : PageRange}
    {restored : Except Flash.Error Unit} {freed : Except Status Unit}
    (setUp : answer (.flash .init) s = (restored, s₁))
    (free : answer (.free range) s₁ = (freed.mapError .inl, s₂)) (result : Except Error Outcome) :
    Recorded answer (leaveCopy range result) s
      [⟨.flash .init, restored⟩, ⟨.free range, freed.mapError .inl⟩]
      ((leaving result restored freed).mapError .failed) s₂ := by
  have settled : settle (freed.mapError .inl) = pure freed := by cases freed <;> rfl
  refine (recorded_ask setUp).bind_ok ((recorded_ask free).bind_ok ?_)
  rw [settled]
  cases result <;> cases restored <;> cases freed <;> exact ⟨rfl, rfl⟩

/-- the log is off while something is done, and back on its level then -/
theorem recorded_quietly {α : Type} {action : Action α} {b b' : Board} {calls : List Call}
    {ended : Except (Stop Error) α}
    (h : Recorded Board.answer action { b with logLevel := .off } calls ended b') :
    Recorded Board.answer (quietly action) b
      (⟨.logLevel, b.logLevel⟩ :: ⟨.setLogLevel .off, ()⟩ ::
        (calls ++ [⟨.setLogLevel b.logLevel, ()⟩]))
      ended { b' with logLevel := b.logLevel } := by
  refine .ask rfl (.ask rfl (h.attempt.bind_ok (.ask rfl ?_)))
  cases ended with
  | ok value => exact recorded_done value _
  | error why => exact recorded_stop why _

end Device.Boot

/-! ## The way there -/

/-- an image store whose copy was entered -/
def ImageStore.entered (m : ImageStore) (range : PageRange) (content : List UInt8) (entry : UInt64) :
    ImageStore :=
  { m with
    copy := some (range, content)
    jumps := m.jumps ++ [entry]
    evictions := m.evictions + 1
    lastSweep := some (CodeCache.sweep content) }

namespace Board

/-- a board as the copy finds it when it is entered -/
def relocated (b : Board) (range : PageRange) (content : List UInt8) (entry : UInt64) : Board :=
  { b with
    registry := b.registry ++ [marker]
    image := b.image.entered range content entry }

variable {b b' : Board} {image : ImageInfo} {range : PageRange} {reenter : Action Outcome}
  {rounds depth : Nat} {calls : List Call} {ended : Except (Stop Error) Outcome}

theorem answer_image {α : Type} {f : ImageStore → α × ImageStore} {reply : α} {m : ImageStore}
    (h : f b.image = (reply, m)) : b.onImage f = (reply, { b with image := m }) := by
  rw [onImage, h]

theorem answer_jump {entry : UInt64} {content : List UInt8}
    (copy : b.image.copy = some (range, content)) (inside : range.Contains entry) :
    answer (.jump entry) b =
      (.ok .entered, { b with image := { b.image with jumps := b.image.jumps ++ [entry] } }) :=
  answer_image (ImageStore.jump_contains copy inside)

theorem recorded_runCopy_refused {status : Status}
    (refused : b.image.load image range = (.error (.inl status), b.image)) :
    Recorded answer (runCopy reenter image range) b [⟨.load image range, .error (.inl status)⟩]
      (.error (.failed (.load status))) b := by
  have load : answer (.load image range) b = (.error (.inl status), b) := answer_image refused
  have settled : settle (.error (.inl status) : Service UInt64) = pure (.error status) := rfl
  refine (recorded_ask load).bind_ok ?_
  rw [settled]
  exact (recorded_done _ b).bind_ok (recorded_stop _ b)

theorem recorded_runCopy {entry : UInt64} {content : List UInt8} (cold : marker ∉ b.registry)
    (loaded : b.image.load image range =
      (.ok entry, { b.image with copy := some (range, content) }))
    (inside : range.Contains entry)
    (h : Recorded answer reenter (b.relocated range content entry) calls ended b') :
    Recorded answer (runCopy reenter image range) b
      (⟨.load image range, .ok entry⟩ :: ⟨.evict, ()⟩ :: ⟨.install marker, .ok ()⟩ ::
        ⟨.jump entry, .ok .entered⟩ :: calls) ended b' := by
  have load : answer (.load image range) b =
      (.ok entry, { b with image := { b.image with copy := some (range, content) } }) :=
    answer_image loaded
  have settled : settle (.ok entry : Service UInt64) = pure (.ok entry) := rfl
  refine (recorded_ask load).bind_ok ?_
  rw [settled]
  refine (recorded_done _ _).bind_ok (.ask rfl (.ask (if_neg cold) (.ask ?_ h)))
  exact answer_jump rfl inside

/-- the second entry finds the marker and serves the host -/
theorem enter_again (hot : marker ∈ b.registry) (valid : b.config.validate = .ok ())
    (h : Recorded answer (Session.run b.config rounds) b calls ended b') :
    Recorded answer (Boot.enter rounds (depth + 1)) b
      (⟨.config, b.config⟩ :: ⟨.isInstalled marker, true⟩ :: calls) ended b' := by
  refine .ask rfl ?_
  rw [Dialogue.pure_bind, valid]
  exact .ask (Prod.ext (decide_eq_true hot) rfl) h

/-! ## Relocations -/

/-- the image was refused by its pages, or it was loaded and has served the host -/
inductive Copied (rounds : Nat) (b : Board) (image : ImageInfo) (range : PageRange) :
    List Call → Except (Stop Error) Outcome → Board → Prop
  | refused {status : Status} (refused : b.image.load image range = (.error (.inl status), b.image)) :
      Copied rounds b image range [⟨.load image range, .error (.inl status)⟩]
        (.error (.failed (.load status))) b
  | served {entry : UInt64} {calls : List Call} {ended : Except (Stop Error) Outcome} {b' : Board}
      (before : image.entryOffset < image.size)
      (place : Word.add? range.base image.entryOffset = some entry) (inside : range.Contains entry)
      (loaded : b.image.load image range =
        (.ok entry, { b.image with copy := some (range, b.image.filled range) }))
      (session : Recorded answer (Session.run b.config rounds)
        (b.relocated range (b.image.filled range) entry) calls ended b') :
      Copied rounds b image range
        (⟨.load image range, .ok entry⟩ :: ⟨.evict, ()⟩ :: ⟨.install marker, .ok ()⟩ ::
          ⟨.jump entry, .ok .entered⟩ :: ⟨.config, b.config⟩ :: ⟨.isInstalled marker, true⟩ :: calls)
        ended b'

theorem Copied.recorded (h : Copied rounds b image range calls ended b') (depth : Nat)
    (cold : marker ∉ b.registry) (valid : b.config.validate = .ok ()) :
    Recorded answer (runCopy (Boot.enter rounds (depth + 1)) image range) b calls ended b' := by
  cases h with
  | refused refused => exact recorded_runCopy_refused refused
  | @served entry _ _ _ before place inside loaded session =>
    have hot : marker ∈ (b.relocated range (b.image.filled range) entry).registry :=
      List.mem_append_right _ (List.mem_singleton_self _)
    exact recorded_runCopy cold loaded inside (enter_again hot valid session)

/-- an image that has its pages -/
theorem copied_of_allocated (rounds : Nat) {m : ImageStore} (located : m.locate = .ok image)
    (allocated : m.allocate (pagesFor image.size) = (.ok range, b.image)) :
    ∃ calls ended b', Copied rounds b image range calls ended b' := by
  rcases ImageStore.load_allocated located allocated with ⟨status, refused⟩ |
    ⟨before, entry, place, inside, loaded⟩
  · exact ⟨_, _, b, .refused refused⟩
  · have same : m.filled range = b.image.filled range := by
      obtain ⟨arena, -, after⟩ := ImageStore.allocate_ok allocated
      rw [after]
      rfl
    rw [same] at loaded
    have session := recorded
      (Prod.eta ((Session.run b.config rounds).run answer
        (b.relocated range (b.image.filled range) entry))).symm
    exact ⟨_, _, _, .served before place inside loaded session⟩

/-- what the copy leaves of its board -/
theorem Copied.arena (h : Copied rounds b image range calls ended b') :
    b'.image.arena = b.image.arena := by
  cases h with
  | refused => rfl
  | served before place inside loaded session =>
    exact (congrArg (fun b : Board => b.image.arena) (within_of_session session)).symm

/-- the ways in which a relocation can go -/
inductive Relocated (rounds : Nat) (b : Board) :
    List Call → Except (Stop Error) Outcome → Board → Prop
  | lost {status : Status} (lost : b.image.locate = .error status) :
      Relocated rounds b [⟨.locate, .error status⟩] (.error (.failed (.load status))) b
  | crowded {image : ImageInfo} {status : Status} (located : b.image.locate = .ok image)
      (crowded : b.image.allocate (pagesFor image.size) = (.error status, b.image)) :
      Relocated rounds b
        [⟨.locate, .ok image⟩, ⟨.allocate (pagesFor image.size), .error status⟩]
        (.error (.failed .outOfResources)) b
  | returned {image : ImageInfo} {range : PageRange} {m : ImageStore} {calls : List Call}
      {result : Except Error Outcome} {b' : Board} {restored : Except Flash.Error Unit} {flash : Nor}
      (located : b.image.locate = .ok image)
      (allocated : b.image.allocate (pagesFor image.size) = (.ok range, m))
      (copied : Copied rounds { b with image := m } image range calls (result.mapError .failed) b')
      (setUp : b'.flash.init = (restored, flash)) :
      Relocated rounds b
        (⟨.locate, .ok image⟩ :: ⟨.allocate (pagesFor image.size), .ok range⟩ ::
          (calls ++ [⟨.flash .init, restored⟩, ⟨.free range, .ok ()⟩]))
        ((leaving result restored (.ok ())).mapError .failed)
        { b' with flash, image.arena := b.image.arena }
  | stopped {image : ImageInfo} {range : PageRange} {m : ImageStore} {calls : List Call}
      {why : Stop Error} {b' : Board} (located : b.image.locate = .ok image)
      (allocated : b.image.allocate (pagesFor image.size) = (.ok range, m))
      (copied : Copied rounds { b with image := m } image range calls (.error why) b')
      (unreported : ∀ e, why ≠ .failed e) :
      Relocated rounds b
        (⟨.locate, .ok image⟩ :: ⟨.allocate (pagesFor image.size), .ok range⟩ :: calls)
        (.error why) b'

/-- how something ended that has reported its result, or else why it was broken off -/
theorem reported_or_not {α : Type} (ended : Except (Stop Error) α) :
    (∃ result : Except Error α, ended = result.mapError .failed) ∨
      ∃ why, ended = .error why ∧ ∀ e, why ≠ .failed e := by
  cases ended with
  | ok value => exact .inl ⟨.ok value, rfl⟩
  | error why =>
    cases why with
    | failed e => exact .inl ⟨.error e, rfl⟩
    | broken fault => exact .inr ⟨_, rfl, nofun⟩
    | unfinished => exact .inr ⟨_, rfl, nofun⟩

/-- what was broken off has reported nothing -/
theorem ne_reported {α : Type} {why : Stop Error} (unreported : ∀ e, why ≠ .failed e) (result : Except Error α) :
    (.error why : Except (Stop Error) α) ≠ result.mapError .failed := by
  intro reported
  cases result with
  | ok value => cases reported
  | error e =>
    injection reported with failed
    exact unreported e failed

theorem relocated_of_cold (rounds depth : Nat) (cold : marker ∉ b.registry)
    (valid : b.config.validate = .ok ()) :
    ∃ calls ended b',
      Recorded answer (relocate (Boot.enter rounds (depth + 1))) b calls ended b' ∧
        Relocated rounds b calls ended b' := by
  cases located : b.image.locate with
  | error status =>
    have locate : answer .locate b = (.error status, b) := Prod.ext located rfl
    exact ⟨_, _, b, (recorded_ask locate).bind_ok (recorded_stop _ b), .lost located⟩
  | ok image =>
    have locate : answer .locate b = (.ok image, b) := Prod.ext located rfl
    cases allocated : b.image.allocate (pagesFor image.size) with
    | mk reply m =>
      cases reply with
      | error status =>
        cases ImageStore.allocate_error allocated
        have allocate : answer (.allocate (pagesFor image.size)) b = (.error status, b) :=
          answer_image allocated
        exact ⟨_, _, b, (recorded_ask locate).bind_ok ((recorded_ask allocate).bind_ok
          (recorded_stop _ b)), .crowded located allocated⟩
      | ok range =>
        have allocate : answer (.allocate (pagesFor image.size)) b =
            (.ok range, { b with image := m }) := answer_image allocated
        obtain ⟨calls, ended, b', copied⟩ :
            ∃ calls ended b', Copied rounds { b with image := m } image range calls ended b' :=
          copied_of_allocated rounds located allocated
        have ran := copied.recorded depth cold valid
        rcases reported_or_not ended with ⟨result, rfl⟩ | ⟨why, rfl, unreported⟩
        · have tried : Recorded answer (runCopy (Boot.enter rounds (depth + 1)) image range).trial
              { b with image := m } calls (.ok result) b' := by
            have tried := ran.trial
            cases result <;> exact tried
          obtain ⟨restored, flash, setUp⟩ : ∃ restored flash, b'.flash.init = (restored, flash) :=
            ⟨_, _, rfl⟩
          have init : answer (.flash .init) b' = (restored, { b' with flash }) := by
            show b'.onFlash Nor.init = _
            rw [onFlash, setUp]
          have free : answer (.free range) { b' with flash } =
              ((.ok () : Except Status Unit).mapError .inl,
                { b' with flash, image.arena := b.image.arena }) :=
            answer_image (b := { b' with flash }) (ImageStore.free_allocated allocated copied.arena)
          exact ⟨_, _, _, (recorded_ask locate).bind_ok ((recorded_ask allocate).bind_ok
            (tried.bind_ok (recorded_leaveCopy init free result))),
            .returned located allocated copied setUp⟩
        · have tried : Recorded answer (runCopy (Boot.enter rounds (depth + 1)) image range).trial
              { b with image := m } calls (.error why) b' := by
            have tried := ran.trial
            cases why with
            | failed e => exact absurd rfl (unreported e)
            | broken fault => exact tried
            | unfinished => exact tried
          exact ⟨_, _, _, (recorded_ask locate).bind_ok ((recorded_ask allocate).bind_ok
            tried.bind_error), .stopped located allocated copied unreported⟩

end Board

end FlashRescue
