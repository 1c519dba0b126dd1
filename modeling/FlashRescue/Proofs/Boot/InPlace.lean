import FlashRescue.Proofs.Boot.Entry

/-!
# The flash is left alone in place

A device that runs from the flash does nothing to it.  Whatever is read from it or written to it in an attempt
is so from the copy, once a host has answered and every step on the way into the copy has worked.

* `Boot.Touches`, `Boot.Jumps`  queries that read or write the flash, and queries that enter the copy;
* `Board.Moved`        a board with a copy that holds the whole image and was entered inside its pages;
* `Relocated.moves`    a relocation leaves the flash alone, or it has gone into the copy before;
* `Entered.moves`      so does an attempt, and then a host has answered before;
* `normalBoot_iff`     an attempt ends as a normal boot just if nobody has answered;
* `flash_alone_in_place`  the three of them, for every attempt.
-/

namespace FlashRescue

open Device Device.Boot Device.Session Dialogue

namespace Device.Boot

/-- the flash is read, erased or programmed -/
def Touches : Query → Prop
  | .flash query => query ≠ .init
  | _ => False

/-- the copy is entered -/
def Jumps : Query → Prop
  | .jump _ => True
  | _ => False

/-- neither of the two -/
def Idle (query : Query) : Prop := ¬ Touches query ∧ ¬ Jumps query

theorem idle_of_calling {query : Query} (h : Calling query) : Idle query := by
  cases query with
  | flash query => exact h.elim
  | jump entry => exact h.elim
  | _ => exact ⟨id, id⟩

theorem idle_init : Idle (.flash .init) := ⟨fun touches => touches rfl, id⟩

theorem not_jumps_of_session {query : Query} (h : Serving query ∨ query = .flash .init) :
    ¬ Jumps query := by
  cases query with
  | jump entry =>
    rcases h with serving | init
    · exact serving.elim
    · cases init
  | _ => exact id

end Device.Boot

namespace Board

variable {b b' : Board} {image : ImageInfo} {range : PageRange} {rounds depth : Nat}
  {calls : List Call} {ended : Except (Stop Error) Outcome}

/-- after `b` the image was copied in full to pages of its own, the marker was published, and the copy was
entered once, at the entry of the image -/
structure Moved (b : Board) (image : ImageInfo) (range : PageRange) (entry : UInt64) (b' : Board) :
    Prop where
  located : b.image.locate = .ok image
  pages : range = ⟨b.image.arena.next, pagesFor image.size⟩
  length : (b.image.filled range).length = range.pages.toNat * pageSize.toNat
  before : image.entryOffset < image.size
  place : Word.add? range.base image.entryOffset = some entry
  inside : range.Contains entry
  copy : b'.image.copy = some (range, b.image.filled range)
  jumps : b'.image.jumps = b.image.jumps ++ [entry]
  registry : b'.registry = b.registry ++ [marker]

/-- the calls that lead into the copy, each of which has worked -/
def wayIn (image : ImageInfo) (range : PageRange) (entry : UInt64) : List Call :=
  [⟨.locate, .ok image⟩, ⟨.allocate (pagesFor image.size), .ok range⟩,
    ⟨.load image range, .ok entry⟩, ⟨.evict, ()⟩, ⟨.install marker, .ok ()⟩]

theorem idle_wayIn (image : ImageInfo) (range : PageRange) (entry : UInt64) :
    ∀ call ∈ wayIn image range entry, Idle call.query := by
  simp only [wayIn, List.forall_mem_cons]
  exact ⟨⟨id, id⟩, ⟨id, id⟩, ⟨id, id⟩, ⟨id, id⟩, ⟨id, id⟩, List.forall_mem_nil _⟩

/-- of the copy: it was refused, or it was entered, and then once -/
theorem Copied.moves {m : ImageStore} (located : b.image.locate = .ok image)
    (allocated : b.image.allocate (pagesFor image.size) = (.ok range, m))
    (h : Copied rounds { b with image := m } image range calls ended b') :
    ((∀ call ∈ calls, Idle call.query) ∧ b'.flash = b.flash) ∨
      ∃ entry after, ⟨.locate, .ok image⟩ :: ⟨.allocate (pagesFor image.size), .ok range⟩ :: calls =
          wayIn image range entry ++ ⟨.jump entry, .ok .entered⟩ :: after ∧
        (∀ call ∈ after, ¬ Jumps call.query) ∧ b.Moved image range entry b' := by
  have length := ImageStore.length_filled located allocated
  obtain ⟨arena, given, rfl⟩ := ImageStore.allocate_ok allocated
  obtain ⟨-, pages, -⟩ := Arena.allocate_some given
  cases h with
  | refused refused =>
    refine .inl ⟨?_, rfl⟩
    simp only [List.forall_mem_singleton]
    exact ⟨id, id⟩
  | @served entry session _ _ before place inside loaded served =>
    have serving := (only_run b.config rounds).recorded served
    have rest := within_of_session served
    refine .inr ⟨entry, _, rfl, ?_, ⟨located, pages, length, before, place, inside, ?_, ?_, ?_⟩⟩
    · simp only [List.forall_mem_cons]
      exact ⟨id, id, fun call mem => not_jumps_of_session (serving call mem)⟩
    · rw [← rest]
      rfl
    · rw [← rest]
      rfl
    · rw [← rest]
      rfl

/-- a relocation leaves the flash alone, or it has gone into the copy before -/
theorem Relocated.moves (h : Relocated rounds b calls ended b') :
    ((∀ call ∈ calls, Idle call.query) ∧ b'.flash.content = b.flash.content) ∨
      ∃ image range entry after,
        calls = wayIn image range entry ++ ⟨.jump entry, .ok .entered⟩ :: after ∧
        (∀ call ∈ after, ¬ Jumps call.query) ∧ b.Moved image range entry b' := by
  cases h with
  | lost lost =>
    refine .inl ⟨?_, rfl⟩
    simp only [List.forall_mem_singleton]
    exact ⟨id, id⟩
  | crowded located crowded =>
    refine .inl ⟨?_, rfl⟩
    simp only [List.forall_mem_cons]
    exact ⟨⟨id, id⟩, ⟨id, id⟩, List.forall_mem_nil _⟩
  | @returned image range m working result left restored flash located allocated copied setUp =>
    have content : flash.content = left.flash.content := by
      have content := left.flash.content_init
      rwa [setUp] at content
    rcases copied.moves located allocated with ⟨idle, same⟩ | ⟨entry, after, way, once, moved⟩
    · refine .inl ⟨?_, content.trans (congrArg Nor.content same)⟩
      simp only [List.forall_mem_cons, List.forall_mem_append]
      exact ⟨⟨id, id⟩, ⟨id, id⟩, idle, idle_init, ⟨id, id⟩, List.forall_mem_nil _⟩
    · refine .inr ⟨image, range, entry, after ++ [⟨.flash .init, restored⟩, ⟨.free range, .ok ()⟩],
        ?_, ?_, { moved with }⟩
      · have longer := congrArg (· ++ [⟨.flash .init, restored⟩, ⟨.free range, .ok ()⟩]) way
        simpa only [List.cons_append, List.append_assoc] using longer
      · simp only [List.forall_mem_append, List.forall_mem_cons]
        exact ⟨once, id, id, List.forall_mem_nil _⟩
  | stopped located allocated copied unreported =>
    rcases copied.moves located allocated with ⟨idle, same⟩ | ⟨entry, after, way, once, moved⟩
    · refine .inl ⟨?_, congrArg Nor.content same⟩
      simp only [List.forall_mem_cons]
      exact ⟨⟨id, id⟩, ⟨id, id⟩, idle⟩
    · exact .inr ⟨_, _, entry, after, way, once, moved⟩

/-- whoever has found a host does not boot on as if there were none -/
theorem Copied.outcome (h : Copied rounds b image range calls ended b') : ended ≠ .ok .normalBoot := by
  cases h with
  | refused refused => nofun
  | @served entry _ _ _ before place inside loaded session =>
    have after := Board.served b.config rounds (b.relocated range (b.image.filled range) entry)
    rw [session.run] at after
    exact after.outcome

theorem Relocated.outcome (h : Relocated rounds b calls ended b') : ended ≠ .ok .normalBoot := by
  cases h with
  | lost lost => nofun
  | crowded located crowded => nofun
  | @returned image range m working result left restored flash located allocated copied setUp =>
    have other := copied.outcome
    intro normal
    cases result with
    | error e => cases normal
    | ok outcome =>
      cases restored with
      | error e => cases normal
      | ok =>
        cases normal
        exact other rfl
  | stopped located allocated copied unreported => nofun

/-! ## Attempts -/

/-- an attempt leaves the flash alone, or it has gone into the copy before, with a host that has answered -/
theorem Entered.moves (h : Entered rounds b calls ended b') :
    ((∀ call ∈ calls, Idle call.query) ∧ b'.flash.content = b.flash.content) ∨
      ∃ image range entry heard between after,
        calls = heard ++ between ++ wayIn image range entry ++ ⟨.jump entry, .ok .entered⟩ :: after ∧
        Acknowledged heard ∧ (∀ call ∈ heard ++ between ++ wayIn image range entry, Idle call.query) ∧
        (∀ call ∈ after, ¬ Jumps call.query) ∧ b.Moved image range entry b' := by
  cases h with
  | refused invalid =>
    refine .inl ⟨?_, rfl⟩
    simp only [List.forall_mem_singleton]
    exact ⟨id, id⟩
  | cut valid sought =>
    have search := searched sought
    have found := fun call mem => idle_of_calling (search.calling call mem)
    refine .inl ⟨?_, by rw [search.others]⟩
    simp only [List.forall_mem_cons]
    exact ⟨⟨id, id⟩, ⟨id, id⟩, ⟨id, id⟩, found⟩
  | alone valid sought =>
    have search := searched sought
    have found := fun call mem => idle_of_calling (search.calling call mem)
    refine .inl ⟨?_, by rw [search.others]⟩
    simp only [List.forall_mem_cons, List.forall_mem_append]
    exact ⟨⟨id, id⟩, ⟨id, id⟩, ⟨id, id⟩, found, ⟨id, id⟩, List.forall_mem_nil _⟩
  | @hosted sent calls p b' ended valid sought relocated =>
    have search := searched sought
    have found := fun call mem => idle_of_calling (search.calling call mem)
    obtain ⟨line, rfl⟩ : ∃ line, p = { b with line } := ⟨_, search.others⟩
    rcases relocated.moves with ⟨idle, same⟩ | ⟨image, range, entry, after, way, once, moved⟩
    · refine .inl ⟨?_, same⟩
      simp only [List.forall_mem_cons, List.forall_mem_append]
      exact ⟨⟨id, id⟩, ⟨id, id⟩, ⟨id, id⟩, found, ⟨id, id⟩, ⟨id, id⟩, ⟨id, id⟩, idle, ⟨id, id⟩,
        List.forall_mem_nil _⟩
    · refine .inr ⟨image, range, entry,
        ⟨.config, b.config⟩ :: ⟨.isInstalled marker, false⟩ :: beginning :: sent,
        [attached, ⟨.logLevel, b.logLevel⟩, ⟨.setLogLevel .off, ()⟩],
        after ++ [⟨.setLogLevel b.logLevel, ()⟩], ?_, ?_, ?_, ?_, { moved with }⟩
      · rw [way]
        simp only [List.cons_append, List.nil_append, List.append_assoc]
      · exact (search.acknowledged rfl).append [_, _, _]
      · simp only [List.forall_mem_cons, List.forall_mem_append]
        exact ⟨⟨⟨⟨id, id⟩, ⟨id, id⟩, ⟨id, id⟩, found⟩, ⟨id, id⟩, ⟨id, id⟩, ⟨id, id⟩,
          List.forall_mem_nil _⟩, idle_wayIn image range entry⟩
      · simp only [List.forall_mem_append, List.forall_mem_cons]
        exact ⟨once, id, List.forall_mem_nil _⟩

/-- a device boots on just if it has searched and nobody has answered -/
theorem Entered.normalBoot_iff (h : Entered rounds b calls ended b') :
    ended = .ok .normalBoot ↔
      b.config.validate = .ok () ∧ ((search b.config rounds).run answer b).1 = .ok false := by
  cases h with
  | refused invalid =>
    refine ⟨nofun, fun ⟨valid, _⟩ => ?_⟩
    cases valid.symm.trans invalid
  | cut valid sought =>
    refine ⟨nofun, fun ⟨_, nobody⟩ => ?_⟩
    rw [sought.run] at nobody
    cases nobody
  | alone valid sought => exact ⟨fun _ => ⟨valid, congrArg Prod.fst sought.run⟩, fun _ => rfl⟩
  | hosted valid sought relocated =>
    refine ⟨fun normal => absurd normal relocated.outcome, fun ⟨_, nobody⟩ => ?_⟩
    rw [sought.run] at nobody
    cases nobody

/-- and then its HELLOs are all that it leaves behind -/
theorem Entered.normalBoot (h : Entered rounds b calls (.ok .normalBoot) b') :
    ∃ k, b'.line.outgoing = b.line.outgoing ++ (List.replicate k helloBytes).flatten ∧
      b' = { b with line := b'.line } := by
  cases h with
  | alone valid sought =>
    obtain ⟨n, k, trade⟩ := (searched sought).trades
    exact ⟨k, trade.outgoing, trade.others⟩
  | hosted valid sought relocated => exact absurd rfl relocated.outcome

/-- whatever is read from the flash or written to it in an attempt is so from the copy, after a host has
answered HELLO and every step on the way into the copy has worked; and the copy is entered once.  An attempt
ends as a normal boot just if its search has found nobody, and then HELLO was sent and nothing else has
happened -/
theorem flash_alone_in_place (cold : marker ∉ b.registry)
    (record : Recorded answer (Boot.enter rounds (depth + 2)) b calls ended b') :
    ((∃ call ∈ calls, Touches call.query) ∨ b'.flash.content ≠ b.flash.content →
      ∃ image range entry heard between after,
        calls = heard ++ between ++ wayIn image range entry ++ ⟨.jump entry, .ok .entered⟩ :: after ∧
        Acknowledged heard ∧ (∀ call ∈ heard ++ between ++ wayIn image range entry, Idle call.query) ∧
        (∀ call ∈ after, ¬ Jumps call.query) ∧ b.Moved image range entry b') ∧
    (ended = .ok .normalBoot ↔
      b.config.validate = .ok () ∧ ((search b.config rounds).run answer b).1 = .ok false) ∧
    (ended = .ok .normalBoot →
      ∃ k, b'.line.outgoing = b.line.outgoing ++ (List.replicate k helloBytes).flatten ∧
        b' = { b with line := b'.line }) := by
  obtain ⟨calls, ended, b'', record', entered⟩ := entered_of_cold rounds depth cold
  obtain ⟨rfl, rfl, rfl⟩ := record.unique record'
  refine ⟨?_, entered.normalBoot_iff, ?_⟩
  · intro reached
    rcases entered.moves with ⟨idle, same⟩ | moved
    · rcases reached with ⟨call, mem, touches⟩ | changed
      · exact absurd touches (idle call mem).1
      · exact absurd same changed
    · exact moved
  · rintro rfl
    exact entered.normalBoot

/-- a host that asks about a block which cannot be read -/
def questioned : Board :=
  { attended with
    line := ({ clock := .virtual standardTick } : Line).push 0
      (Response.ack.encode ++ (Command.of .checksum 0).encode ++ (Command.of .exit 0).encode)
    flash := { attended.flash with failing.reads := true } }

theorem flash_alone_in_place_questioned :
    marker ∉ questioned.registry ∧
      ∃ calls b', Recorded answer (Boot.enter 3 2) questioned calls (.ok .exited) b' ∧
        (∃ call ∈ calls, Touches call.query) ∧
        ∃ image range entry heard after, calls = heard ++ ⟨.jump entry, .ok .entered⟩ :: after ∧
          questioned.Moved image range entry b' := by
  have cold : marker ∉ questioned.registry := List.not_mem_nil
  have ended : (Boot.enter 3 2).run answer questioned = (.ok .exited, _) := Prod.ext (by rfl) rfl
  have asked : ((Boot.enter 3 2).transcript answer questioned)[23]? =
      some ⟨.flash (.read .bios 0 4096), .error .device⟩ := by rfl
  have record := recorded ended
  have touched : ∃ call ∈ (Boot.enter 3 2).transcript answer questioned, Touches call.query :=
    ⟨_, List.mem_of_getElem? asked, nofun⟩
  obtain ⟨reached, -, -⟩ := flash_alone_in_place cold record
  obtain ⟨image, range, entry, heard, between, after, way, -, -, -, moved⟩ := reached (.inl touched)
  exact ⟨cold, _, _, record, touched, image, range, entry, _, after, way, moved⟩

end Board

end FlashRescue
