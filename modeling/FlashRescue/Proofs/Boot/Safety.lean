import FlashRescue.Proofs.Boot.Termination

/-!
# A boot attempt is not broken off

No range is left on the way through an attempt, whatever its board replies.

* `Device.InBounds`    the flash is accessed in whole blocks, and only where there is flash;
* `Board.Attempt.reported`  an attempt reports its result, or all its rounds are used up;
* `enter_unbroken`     an attempt as a whole.
-/

namespace FlashRescue

open Device Device.Boot Device.Session Dialogue

/-! ## The extent of the flash -/

namespace Nor

variable {f : Nor}

theorem size_splice {offset : Nat} {bytes : ByteArray} (inside : offset + bytes.size ≤ f.size) :
    (f.splice offset bytes).size = f.size := by
  rw [← length_content] at inside
  rw [← length_content, ← length_content, content_splice, List.length_append, List.length_append,
    List.length_take, List.length_drop]
  have laid : bytes.data.toList.length = bytes.size := Array.length_toList
  omega

theorem le_of_permits {region : Flash.Region} {offset : UInt64} {length : Nat}
    (permitted : f.permits region offset length = .ok ()) : offset.toNat + length ≤ f.size := by
  rw [permits] at permitted
  split at permitted
  · cases permitted
  · split at permitted
    · rename_i inside
      exact inside.2
    · cases permitted

/-- an access is refused, or it is carried out within the region -/
theorem guarded {α : Type} {failing : Bool} {region : Flash.Region} {offset : UInt64} {length : Nat}
    {value : α} {f' : Nor} {P : Except Flash.Error α × Nor → Prop} (refused : ∀ e, P (.error e, f))
    (done : offset.toNat + length ≤ f.size → P (.ok value, f')) :
    P (if failing then (.error .device, f)
      else match f.permits region offset length with
        | .ok () => (.ok value, f')
        | .error e => (.error e, f)) := by
  split
  · exact refused _
  · split
    · rename_i permitted
      exact done (le_of_permits permitted)
    · exact refused _

/-- after an access to so many bytes from an offset on the flash has its size still, and if the access has
worked they lie within it -/
def Keeps (f : Nor) (offset : UInt64) (length : Nat) {α : Type} (after : Except Flash.Error α × Nor) :
    Prop :=
  after.2.size = f.size ∧ (after.1.isOk = true → offset.toNat + length ≤ f.size)

theorem keeps_read (region : Flash.Region) (offset : UInt64) (length : Nat) :
    f.Keeps offset length (f.read region offset length) := by
  rw [read_eq rfl]
  exact guarded (fun _ => ⟨rfl, nofun⟩) fun inside => ⟨rfl, fun _ => inside⟩

theorem keeps_erase (region : Flash.Region) (offset : UInt64) (length : Nat) :
    f.Keeps offset length (f.erase region offset length) := by
  rw [erase_eq rfl]
  refine guarded (fun _ => ⟨rfl, nofun⟩) fun inside => ⟨size_splice ?_, fun _ => inside⟩
  rwa [size_erasedCells]

theorem keeps_program (region : Flash.Region) (offset : UInt64) (bytes : List UInt8) :
    f.Keeps offset bytes.length (f.program region offset bytes) := by
  rw [program_eq rfl]
  refine guarded (fun _ => ⟨rfl, nofun⟩) fun inside => ⟨size_splice ?_, fun _ => inside⟩
  refine Nat.le_trans (Nat.add_le_add_left ?_ _) inside
  rw [List.size_toByteArray, List.length_zipWith]
  exact Nat.min_le_right ..

theorem size_answer (query : Flash.Query) (f : Nor) : (f.answer query).2.size = f.size := by
  cases query with
  | init =>
    show f.init.2.size = _
    rw [← length_content, content_init, length_content]
  | read region offset length => exact (keeps_read region offset length).1
  | erase region offset length => exact (keeps_erase region offset length).1
  | program region offset bytes => exact (keeps_program region offset bytes).1

end Nor

/-! ## Accesses within bounds -/

namespace Device

/-- an access to so many bytes from an offset on: it reaches over a block, whose offset fits a word, and it is
carried out only if all of the block lies within `size` bytes -/
structure Inside (size : Nat) (offset : UInt64) (length : Nat) (worked : Bool) : Prop where
  start : ∃ block : UInt16, offset.toNat = block.toNat * blockSize
  whole : length = blockSize
  within : worked = true → offset.toNat + length ≤ size

def InBounds (size : Nat) : Call → Prop
  | ⟨.flash (.read _ offset length), reply⟩ => Inside size offset length reply.isOk
  | ⟨.flash (.erase _ offset length), reply⟩ => Inside size offset length reply.isOk
  | ⟨.flash (.program _ offset bytes), reply⟩ => Inside size offset bytes.length reply.isOk
  | _ => True

/-- the flash is set up, or accessed in whole blocks -/
def Placed : Query → Prop
  | .flash query => query = .init ∨ AtBlock query
  | _ => True

theorem placed_aside {query : Query} (h : Aside query) : Placed query := by
  cases query with
  | flash query => exact h.elim
  | _ => trivial

theorem placed_calling {query : Query} (h : Calling query) : Placed query := by
  cases query with
  | flash query => exact h.elim
  | _ => trivial

theorem placed_closing {query : Query} (h : Closing query) : Placed query := by
  rcases h with aside | rfl
  · exact placed_aside aside
  · exact .inl rfl

theorem placed_session {query : Query} (h : Looping query ∨ query = .flash .init) : Placed query := by
  rcases h with (working | rfl | rfl) | rfl
  · cases working with
    | flash access => exact .inr access
    | _ => trivial
  · trivial
  · trivial
  · exact .inl rfl

end Device

namespace Board

variable {suits : Query → Board → Prop} {b b' : Board} {rounds depth : Nat} {calls : List Call}
  {ended : Except (Stop Error) Outcome}

theorem size_flash_answer (query : Query) (b : Board) :
    (answer query b).2.flash.size = b.flash.size := by
  cases query with
  | flash query => exact Nor.size_answer query b.flash
  | install marker =>
    show (b.install marker).2.flash.size = _
    rw [install]
    split <;> rfl
  | _ => rfl

theorem inBounds_answer {query : Query} (placed : Placed query) (b : Board) :
    InBounds b.flash.size ⟨query, (answer query b).1⟩ := by
  cases query with
  | flash query =>
    rcases placed with rfl | access
    · trivial
    · cases access with
      | read block => exact ⟨⟨block, toNat_blockOffset block⟩, rfl, (Nor.keeps_read ..).2⟩
      | erase block => exact ⟨⟨block, toNat_blockOffset block⟩, rfl, (Nor.keeps_erase ..).2⟩
      | program block full => exact ⟨⟨block, toNat_blockOffset block⟩, full, (Nor.keeps_program ..).2⟩
  | _ => trivial

theorem inBounds_of_recorded {α : Type} {d : Action α} {ended : Except (Stop Error) α}
    (h : Recorded answer d b calls ended b') (placed : ∀ call ∈ calls, Placed call.query) :
    ∀ call ∈ calls, InBounds b.flash.size call := by
  have all : d.Throughout answer (fun _ _ => True) b := throughout_of_forall (fun _ _ => trivial) d b
  refine h.along (motive := fun b calls _ => (∀ call ∈ calls, Placed call.query) →
    ∀ call ∈ calls, InBounds b.flash.size call) all (fun _ _ => List.forall_mem_nil _) ?_ placed
  intro query b calls b' _ ih placed
  rw [List.forall_mem_cons] at placed ⊢
  refine ⟨inBounds_answer placed.1 b, ?_⟩
  have rest := ih placed.2
  rwa [size_flash_answer] at rest

/-! ## Attempts -/

theorem Attempt.placed (h : Attempt suits rounds b calls ended) : ∀ call ∈ calls, Placed call.query := by
  cases h with
  | refused e => exact List.forall_mem_singleton.mpr trivial
  | cut valid aside sought =>
    have calling := (only_search ..).recorded sought
    exact List.forall_mem_append.mpr ⟨fun call mem => placed_aside (aside call mem),
      fun call mem => placed_calling (calling call mem)⟩
  | unserved valid aside sought closing result =>
    have calling := (only_search ..).recorded sought
    simp only [List.forall_mem_append]
    exact ⟨fun call mem => placed_aside (aside call mem), fun call mem => placed_calling (calling call mem),
      fun call mem => placed_closing (closing call mem)⟩
  | served entry valid aside sought kept aside' aside'' line ran all closing ends =>
    have calling := (only_search ..).recorded sought
    have session := (only_session ..).recorded ran
    simp only [List.forall_mem_append, List.forall_mem_cons]
    exact ⟨fun call mem => placed_aside (aside call mem), fun call mem => placed_calling (calling call mem),
      fun call mem => placed_aside (aside' call mem), trivial,
      fun call mem => placed_aside (aside'' call mem), fun call mem => placed_session (session call mem),
      fun call mem => placed_closing (closing call mem)⟩
  | hot valid aside ran all =>
    have session := (only_session ..).recorded ran
    exact List.forall_mem_append.mpr ⟨fun call mem => placed_aside (aside call mem),
      fun call mem => placed_session (session call mem)⟩

theorem Attempt.reported (h : Attempt suits rounds b calls ended) :
    (∃ result : Except Error Outcome, ended = result.mapError .failed) ∨
      ended = .error .unfinished ∧ rounds ≤ polls calls := by
  cases h with
  | refused e => exact .inl ⟨.error e, rfl⟩
  | cut valid aside sought =>
    rcases stopped_search sought with ⟨e, rfl⟩ | ⟨rfl, -, spent⟩
    · exact .inl ⟨.error (.link e), rfl⟩
    · refine .inr ⟨rfl, ?_⟩
      rw [polls_append]
      omega
  | unserved valid aside sought closing result => exact .inl ⟨result, rfl⟩
  | served entry valid aside sought kept aside' aside'' line ran all closing ends =>
    rcases ends with rfl | reported
    · rcases (begun ran all).reported (nonzero_of_fit (chunksFit_of_validate valid)) with
        reported | ⟨unfinished, spent⟩
      · exact .inl reported
      · refine .inr ⟨unfinished, ?_⟩
        simp only [polls_append, polls_cons]
        omega
    · exact .inl reported
  | hot valid aside ran all =>
    rcases (begun ran all).reported (nonzero_of_fit (chunksFit_of_validate valid)) with
      reported | ⟨unfinished, spent⟩
    · exact .inl reported
    · refine .inr ⟨unfinished, ?_⟩
      rw [polls_append]
      omega

/-- an attempt reports its result, and is not broken off because a word, a span or a piece of memory has left
its range, or because there is no chunk to be read; it can only go on for longer than it has rounds, and that
not on a clock that moves and does not wrap around.  The flash is accessed in whole blocks, and only where
there is flash -/
theorem enter_unbroken (rounds depth : Nat) (b : Board) :
    ∃ calls ended b', Recorded answer (Boot.enter rounds (depth + 2)) b calls ended b' ∧
      ((∃ result : Except Error Outcome, ended = result.mapError .failed) ∨
        ended = .error .unfinished ∧ rounds ≤ polls calls) ∧
      (b.line.clock.process = none → 1 ≤ b.line.clock.tick → UInt64.size ≤ rounds →
        (Boot.enter rounds (depth + 2)).Throughout answer KeepsTime b →
          ∃ result : Except Error Outcome, ended = result.mapError .failed) ∧
      ∀ call ∈ calls, InBounds b.flash.size call := by
  have went := recorded (Prod.eta ((Boot.enter rounds (depth + 2)).run answer b)).symm
  have parts : Attempt (fun _ _ => True) rounds b _ _ :=
    attempt went (throughout_of_forall (fun _ _ => trivial) _ b)
  refine ⟨_, _, _, went, parts.reported, ?_, inBounds_of_recorded went parts.placed⟩
  intro virtual moves enough timely
  exact ((attempt went timely).bounded virtual moves enough).returned

/-- with a host that lets the device go -/
theorem enter_unbroken_attended :
    (attended.line.clock.process = none ∧ 1 ≤ attended.line.clock.tick ∧
      (Boot.enter UInt64.size 2).Throughout answer KeepsTime attended) ∧
    ∃ calls ended b', Recorded answer (Boot.enter UInt64.size 2) attended calls ended b' ∧
      (∃ result : Except Error Outcome, ended = result.mapError .failed) ∧
      ∀ call ∈ calls, InBounds attended.flash.size call := by
  have timely : (Boot.enter UInt64.size 2).Throughout answer KeepsTime attended := by
    decide +kernel
  obtain ⟨calls, ended, b', went, -, returns, bounds⟩ := enter_unbroken UInt64.size 0 attended
  exact ⟨⟨rfl, by decide, timely⟩, calls, ended, b', went, returns rfl (by decide) (Nat.le_refl _) timely,
    bounds⟩

end Board

end FlashRescue
