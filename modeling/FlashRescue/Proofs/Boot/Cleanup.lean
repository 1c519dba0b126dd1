import FlashRescue.Proofs.Boot.Entry

/-!
# What an attempt leaves behind

However an attempt ends that was made from the flash, the pages for its copy are given back and the log is
on its level again.

* `Boot.Allocated`   a call that was given pages;
* `Boot.Jumped`      among some calls the copy was entered;
* `Board.Ran`        the copy was run, the flash service was set up anew, and the pages were given back;
* `enter_cleans_up`  an attempt either was given no pages and has not set the flash service up, or it went
                     on like that.
-/

namespace FlashRescue

open Device Device.Boot Dialogue

namespace Device.Boot

/-- pages were asked for, and given -/
def Allocated : Call → Prop
  | ⟨.allocate _, .ok _⟩ => True
  | _ => False

theorem not_allocated_of_calling {call : Call} (h : Calling call.query) : ¬ Allocated call := by
  obtain ⟨query, reply⟩ := call
  cases query with
  | allocate pages => exact h.elim
  | _ => exact id

/-- the copy was entered -/
def Jumped (calls : List Call) : Prop := ∃ entry, ⟨.jump entry, .ok .entered⟩ ∈ calls

end Device.Boot

namespace Board

variable {b b' : Board} {image : ImageInfo} {range : PageRange} {rounds depth : Nat}
  {calls : List Call}

/-- the copy was run from `start` on; then the flash service was set up anew, and then the pages were
given back.  The first error counts.  If the copy was entered it had set the service up before, and if it
was not then loading it has failed -/
inductive Ran (reenter : Action Outcome) (start : Board) (image : ImageInfo) (range : PageRange) :
    List Call → Except Error Outcome → (setUps : Nat) → Prop
  | intro {working : List Call} {copied : Except Error Outcome} {left : Board}
      {restored : Except Flash.Error Unit} {freed : Except Status Unit} {setUps : Nat}
      (ran : Recorded answer (runCopy reenter image range) start working (copied.mapError .failed) left)
      (often : (Jumped working ∧ setUps = 2) ∨ setUps = 1 ∧ ∃ status,
        copied = .error (.load status) ∧ ⟨.load image range, .error (.inl status)⟩ ∈ working) :
      Ran reenter start image range
        (working ++ [⟨.flash .init, restored⟩, ⟨.free range, freed.mapError .inl⟩])
        (leaving copied restored freed) setUps

/-- a copy that was entered has set the flash service up, and one that was refused has not -/
theorem Copied.setUps {ended : Except (Stop Error) Outcome}
    (h : Copied rounds b image range calls ended b') :
    (Jumped calls ∧ b'.flash.count.inits = b.flash.count.inits + 1) ∨
      b'.flash.count.inits = b.flash.count.inits ∧ ∃ status,
        ended = .error (.failed (.load status)) ∧
        ⟨.load image range, .error (.inl status)⟩ ∈ calls := by
  cases h with
  | @refused status refused => exact .inr ⟨rfl, status, rfl, .head _⟩
  | @served entry _ _ _ before place inside loaded session =>
    have after := Board.served b.config rounds (b.relocated range (b.image.filled range) entry)
    rw [session.run] at after
    exact .inl ⟨⟨entry, .tail _ (.tail _ (.tail _ (.head _)))⟩, after.inits⟩

theorem mapError_failed_inj {α : Type} {first second : Except Error α}
    (h : (first.mapError .failed : Except (Stop Error) α) = second.mapError .failed) :
    first = second := by
  cases first <;> cases second <;> cases h <;> rfl

/-- a relocation that has reported its result has given back the pages it was given -/
theorem Relocated.cleans_up {ended : Except (Stop Error) Outcome}
    (h : Relocated rounds b calls ended b') (depth : Nat) (cold : marker ∉ b.registry)
    (valid : b.config.validate = .ok ()) {result : Except Error Outcome}
    (reported : ended = result.mapError .failed) :
    b'.image.arena = b.image.arena ∧
      ((∀ call ∈ calls, ¬ Allocated call) ∧ b'.flash.count.inits = b.flash.count.inits ∨
        ∃ image range m after setUps, b.image.locate = .ok image ∧
          b.image.allocate (pagesFor image.size) = (.ok range, m) ∧
          calls = ⟨.locate, .ok image⟩ :: ⟨.allocate (pagesFor image.size), .ok range⟩ :: after ∧
          Ran (Boot.enter rounds (depth + 1)) { b with image := m } image range after result setUps ∧
          b'.flash.count.inits = b.flash.count.inits + setUps) := by
  cases h with
  | lost lost =>
    refine ⟨rfl, .inl ⟨?_, rfl⟩⟩
    simp only [List.forall_mem_cons]
    exact ⟨id, List.forall_mem_nil _⟩
  | crowded located crowded =>
    refine ⟨rfl, .inl ⟨?_, rfl⟩⟩
    simp only [List.forall_mem_cons]
    exact ⟨id, id, List.forall_mem_nil _⟩
  | @returned image range m working copied left restored flash located allocated copy setUp =>
    obtain rfl := mapError_failed_inj reported
    have ran := copy.recorded depth cold valid
    have counted : flash.count.inits = left.flash.count.inits + 1 := by
      have counted := left.flash.inits_init
      rwa [setUp] at counted
    have cleaned {setUps : Nat} (often : (Jumped working ∧ setUps = 2) ∨ setUps = 1 ∧ ∃ status,
        copied = .error (.load status) ∧ ⟨.load image range, .error (.inl status)⟩ ∈ working) :
        Ran (Boot.enter rounds (depth + 1)) { b with image := m } image range
          (working ++ [⟨.flash .init, restored⟩,
            ⟨.free range, (.ok () : Except Status Unit).mapError .inl⟩])
          (leaving copied restored (.ok ())) setUps := .intro ran often
    rcases copy.setUps with ⟨jumped, inits⟩ | ⟨inits, status, failed, refused⟩
    · refine ⟨rfl, .inr ⟨image, range, m, _, 2, located, allocated, rfl,
        cleaned (.inl ⟨jumped, rfl⟩), ?_⟩⟩
      show flash.count.inits = _
      rw [counted, inits]
    · refine ⟨rfl, .inr ⟨image, range, m, _, 1, located, allocated, rfl,
        cleaned (.inr ⟨rfl, status, mapError_failed_inj failed, refused⟩), ?_⟩⟩
      show flash.count.inits = _
      rw [counted, inits]
  | stopped located allocated copied unreported =>
    exact absurd reported (ne_reported unreported result)

/-- an attempt that has returned has given back the pages it was given, so that as many bytes are in use as
before, and put the log back to its level -/
theorem enter_cleans_up (cold : marker ∉ b.registry) {result : Except Error Outcome}
    (returned : Recorded answer (Boot.enter rounds (depth + 2)) b calls (result.mapError .failed) b') :
    b'.image.arena = b.image.arena ∧ b'.logLevel = b.logLevel ∧
      ((∀ call ∈ calls, ¬ Allocated call) ∧ b'.flash.count.inits = b.flash.count.inits ∨
        ∃ p image range m before after setUps,
          (search b.config rounds).run answer b = (.ok true, p) ∧
          b.image.locate = .ok image ∧ b.image.allocate (pagesFor image.size) = (.ok range, m) ∧
          calls = before ++ ⟨.allocate (pagesFor image.size), .ok range⟩ ::
            (after ++ [⟨.setLogLevel b.logLevel, ()⟩]) ∧
          Ran (Boot.enter rounds (depth + 1)) { p with logLevel := .off, image := m } image range
            after result setUps ∧
          b'.flash.count.inits = b.flash.count.inits + setUps) := by
  obtain ⟨calls, ended, b'', record, entered⟩ := entered_of_cold rounds depth cold
  obtain ⟨rfl, reported, rfl⟩ := returned.unique record
  cases entered with
  | refused invalid =>
    refine ⟨rfl, rfl, .inl ⟨?_, rfl⟩⟩
    simp only [List.forall_mem_singleton]
    exact id
  | cut valid sought =>
    have went := searched sought
    have quiet := fun call mem => not_allocated_of_calling (went.calling call mem)
    rw [went.others]
    refine ⟨rfl, rfl, .inl ⟨?_, rfl⟩⟩
    simp only [List.forall_mem_cons]
    exact ⟨id, id, id, quiet⟩
  | alone valid sought =>
    have went := searched sought
    have quiet := fun call mem => not_allocated_of_calling (went.calling call mem)
    rw [went.others]
    refine ⟨rfl, rfl, .inl ⟨?_, rfl⟩⟩
    simp only [List.forall_mem_cons, List.forall_mem_append]
    exact ⟨id, id, id, quiet, id, List.forall_mem_nil _⟩
  | @hosted heard calls' p left _ valid sought relocated =>
    have went := searched sought
    have quiet := fun call mem => not_allocated_of_calling (went.calling call mem)
    obtain ⟨line, rfl⟩ : ∃ line, p = { b with line } := ⟨_, went.others⟩
    obtain ⟨arena, none_ | ⟨image, range, m, after, setUps, located, allocated, rfl, ran, total⟩⟩ :=
      relocated.cleans_up depth cold valid reported.symm
    · refine ⟨arena, rfl, .inl ⟨?_, none_.2⟩⟩
      simp only [List.forall_mem_cons, List.forall_mem_append]
      exact ⟨id, id, id, quiet, id, id, id, none_.1, id, List.forall_mem_nil _⟩
    · refine ⟨arena, rfl, .inr ⟨{ b with line }, image, range, m,
        ⟨.config, b.config⟩ :: ⟨.isInstalled marker, false⟩ :: beginning :: (heard ++
          [attached, ⟨.logLevel, b.logLevel⟩, ⟨.setLogLevel .off, ()⟩, ⟨.locate, .ok image⟩]),
        after, setUps, sought.run, located, allocated, ?_, ran, total⟩⟩
      simp only [List.cons_append, List.append_assoc, List.nil_append]

/-- the host lets the device go -/
theorem enter_cleans_up_attended :
    marker ∉ attended.registry ∧
      ∃ calls b', Recorded answer (Boot.enter 2 2) attended calls (.ok .exited) b' ∧
        b'.image.arena = attended.image.arena ∧ b'.logLevel = attended.logLevel ∧
        ∃ start image range after, Ran (Boot.enter 2 1) start image range after (.ok .exited) 2 := by
  have cold : marker ∉ attended.registry := List.not_mem_nil
  obtain ⟨b', ended, inits⟩ : ∃ b', (Boot.enter 2 2).run answer attended = (.ok .exited, b') ∧
      b'.flash.count.inits = 2 :=
    ⟨((Boot.enter 2 2).run answer attended).2, Prod.ext (by rfl) rfl, by rfl⟩
  obtain ⟨calls, returned⟩ : ∃ calls, Recorded answer (Boot.enter 2 (0 + 2)) attended calls
      ((.ok .exited : Except Error Outcome).mapError .failed) b' := ⟨_, recorded ended⟩
  obtain ⟨arena, level, ⟨-, unset⟩ | ⟨p, image, range, m, before, after, setUps, -, -, -, -, ran, total⟩⟩ :=
    enter_cleans_up cold returned
  · cases unset.symm.trans inits
  · have twice : setUps = 2 := by
      have sum : 2 = 0 + setUps := inits.symm.trans total
      omega
    rw [twice] at ran
    exact ⟨cold, calls, b', returned, arena, level, _, image, range, after, ran⟩

end Board

end FlashRescue
