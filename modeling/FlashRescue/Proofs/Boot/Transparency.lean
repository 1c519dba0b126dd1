import FlashRescue.Proofs.Boot.Entry

/-!
# A session in the copy

A host that talks to the copy of a device cannot tell it from a device that serves it at once.

* `Copied.session`     the copy serves the host as the board itself would;
* `Served.leaving`     what follows the copy does not change how the session has ended;
* `Board.revisited`    a board after a session, with the traces of the copy;
* `enter_transparent`  an attempt that finds a host and has room for its copy comes to a session on the board
                       that has found the host, but for the traces of the copy.
-/

namespace FlashRescue

open Device Device.Boot Dialogue

namespace Board

variable {b b' p : Board} {image : ImageInfo} {range : PageRange} {entry : UInt64} {m : ImageStore}
  {rounds depth : Nat} {calls : List Call} {ended : Except (Stop Error) Outcome}

/-- the copy was loaded, and so it was entered -/
theorem Copied.session (h : Copied rounds b image range calls ended b')
    (loaded : (b.image.load image range).1 = .ok entry) :
    (Session.run b.config rounds).run answer (b.relocated range (b.image.filled range) entry) =
      (ended, b') := by
  cases h with
  | refused refused =>
    rw [refused] at loaded
    cases loaded
  | served before place inside loaded' session =>
    rw [loaded'] at loaded
    cases loaded
    exact session.run

/-- setting the flash service up again after a session fails only if the session has failed at that -/
theorem Served.leaving {result : Except Error Outcome} (h : b.Served (result.mapError .failed) b') :
    leaving result (if b'.flash.failing.init then .error .device else .ok ()) (.ok ()) = result := by
  cases result with
  | error e => rfl
  | ok outcome =>
    cases fails : b.flash.failing.init with
    | true => cases h.refused fails
    | false =>
      rw [h.failing, fails]
      rfl

/-- the copy does what the board that loads it would have done -/
theorem Copied.session_within (h : Copied rounds { b with image := m } image range calls ended b')
    (loaded : (m.load image range).1 = .ok entry) :
    ended = ((Session.run b.config rounds).run answer b).1 ∧
      b' = ((Session.run b.config rounds).run answer b).2.within
        (({ b with image := m } : Board).relocated range (m.filled range) entry) := by
  have session := h.session loaded
  generalize copy : ({ b with image := m } : Board).relocated range (m.filled range) entry = c
    at session
  have same : c = b.within c := by
    rw [← copy]
    rfl
  rw [same] at session
  injection (run_within b.config rounds c b).symm.trans session with ended_ left
  exact ⟨ended_.symm, left.symm⟩

/-- a board after a session from a copy, when the copy was left -/
def revisited (b : Board) (range : PageRange) (entry : UInt64) : Board :=
  { b with
    flash.count.inits := b.flash.count.inits + 1
    registry := b.registry ++ [marker]
    image := b.image.entered range (b.image.filled range) entry }

theorem Relocated.session (h : Relocated rounds b calls ended b') (located : b.image.locate = .ok image)
    (allocated : b.image.allocate (pagesFor image.size) = (.ok range, m))
    (loaded : (m.load image range).1 = .ok entry) :
    ∃ q, (Session.run b.config rounds).run answer b = (ended, q) ∧
      ∀ result : Except Error Outcome, ended = result.mapError .failed →
        b' = q.revisited range entry := by
  have served := Board.served b.config rounds b
  have others := within_run b.config rounds b
  cases h with
  | lost lost => cases located.symm.trans lost
  | crowded located' crowded =>
    cases located.symm.trans located'
    cases allocated.symm.trans crowded
  | returned located' allocated' copied setUp =>
    cases located.symm.trans located'
    cases allocated.symm.trans allocated'
    obtain ⟨ended_, left⟩ := copied.session_within loaded
    generalize went : (Session.run b.config rounds).run answer b = q at *
    obtain ⟨ended, q⟩ := q
    subst ended_ left
    have again := q.flash.init_again fun works => served.ready (served.failing ▸ works)
    cases setUp.symm.trans again
    rw [served.leaving]
    refine ⟨q, rfl, fun _ _ => ?_⟩
    obtain ⟨arena, -, rfl⟩ := ImageStore.allocate_ok allocated
    obtain ⟨line, flash, image, registry, resets, config, logLevel⟩ := q
    cases others
    rfl
  | stopped located' allocated' copied unreported =>
    cases located.symm.trans located'
    cases allocated.symm.trans allocated'
    obtain ⟨ended_, left⟩ := copied.session_within loaded
    refine ⟨_, Prod.ext ended_.symm rfl, fun result reported => ?_⟩
    exact absurd reported (ne_reported unreported result)

/-- an attempt that finds a host, and has room for its copy, ends as a session would on the board that has
found the host.  What it leaves behind differs in that the flash service was set up once more, the marker was
published, and there is a copy, which was entered once after one sweep.  A device that finds the marker does
nothing else than serve the host -/
theorem enter_transparent (cold : marker ∉ b.registry) (valid : b.config.validate = .ok ())
    (sought : (search b.config rounds).run answer b = (.ok true, p))
    (located : b.image.locate = .ok image)
    (allocated : b.image.allocate (pagesFor image.size) = (.ok range, m))
    (loaded : (m.load image range).1 = .ok entry) (depth : Nat) :
    (∃ ended q b', (Session.run b.config rounds).run answer p = (ended, q) ∧
      (Boot.enter rounds (depth + 2)).run answer b = (ended, b') ∧
      ∀ result : Except Error Outcome, ended = result.mapError .failed →
        b' = q.revisited range entry) ∧
    ∀ hot : Board, marker ∈ hot.registry → hot.config.validate = .ok () →
      (Boot.enter rounds (depth + 1)).run answer hot =
        (Session.run hot.config rounds).run answer hot := by
  refine ⟨?_, fun hot marked valid => enter_hot rounds depth marked valid⟩
  obtain ⟨calls, ended, b', record, entered⟩ := entered_of_cold rounds depth cold
  cases entered with
  | refused invalid => cases valid.symm.trans invalid
  | cut valid sought' => cases sought.symm.trans sought'.run
  | alone valid sought' => cases sought.symm.trans sought'.run
  | @hosted heard calls' p' left _ valid sought' relocated =>
    cases sought.symm.trans sought'.run
    obtain ⟨line, rfl⟩ : ∃ line, p = { b with line } := ⟨_, (searched sought').others⟩
    obtain ⟨q, quiet, leaves⟩ := relocated.session located allocated loaded
    have unseen := run_quiet b.config rounds { b with line } .off
    have rest := within_run b.config rounds { b with line }
    generalize (Session.run b.config rounds).run answer { b with line } = served at unseen rest ⊢
    obtain ⟨ended', q'⟩ := served
    cases quiet.symm.trans unseen
    refine ⟨_, q', _, rfl, record.run, fun result reported => ?_⟩
    rw [leaves result reported]
    obtain ⟨line, flash, image, registry, resets, config, logLevel⟩ := q'
    cases rest
    rfl

/-- the host lets the device go -/
theorem enter_transparent_attended :
    ∃ p m, (marker ∉ attended.registry ∧ attended.config.validate = .ok () ∧
        (search attended.config 2).run answer attended = (.ok true, p) ∧
        attended.image.locate = .ok ⟨1, 0⟩ ∧
        attended.image.allocate (pagesFor 1) = (.ok ⟨0x80000000, 1⟩, m) ∧
        (m.load ⟨1, 0⟩ ⟨0x80000000, 1⟩).1 = .ok 0x80000000) ∧
      ∃ q b', (Session.run attended.config 2).run answer p = (.ok .exited, q) ∧
        (Boot.enter 2 2).run answer attended = (.ok .exited, b') ∧
        b' = q.revisited ⟨0x80000000, 1⟩ 0x80000000 := by
  have cold : marker ∉ attended.registry := List.not_mem_nil
  have valid : attended.config.validate = .ok () := by rfl
  obtain ⟨p, sought, ends⟩ : ∃ p, (search attended.config 2).run answer attended = (.ok true, p) ∧
      ((Session.run attended.config 2).run answer p).1 = .ok .exited :=
    ⟨((search attended.config 2).run answer attended).2, Prod.ext (by rfl) rfl, by rfl⟩
  have located : attended.image.locate = .ok ⟨1, 0⟩ := by rfl
  have pages : pagesFor 1 = 1 := by rfl
  obtain ⟨m, allocated, loaded⟩ : ∃ m,
      attended.image.allocate (pagesFor 1) = (.ok ⟨0x80000000, 1⟩, m) ∧
        (m.load ⟨1, 0⟩ ⟨0x80000000, 1⟩).1 = .ok 0x80000000 := by
    rw [pages]
    exact ⟨(attended.image.allocate 1).2, Prod.ext (by rfl) rfl, by rfl⟩
  obtain ⟨⟨ended, q, b', session, entered, leaves⟩, -⟩ :=
    enter_transparent cold valid sought located allocated loaded 0
  rw [session] at ends
  cases ends
  exact ⟨p, m, ⟨cold, valid, sought, located, allocated, loaded⟩, q, b', session, entered,
    leaves (.ok .exited) rfl⟩

end Board

end FlashRescue
