import FlashRescue.Proofs.Boot.Budget
import FlashRescue.Proofs.Boot.InPlace

/-!
# Attempts one after the other

A board is booted again and again, with other input, other settings and other failures each time.  It is relocated
in one of the attempts at most, and in all later ones the device does nothing but serve its host.

* `Board.Altered`      whatever was done to a board, its markers, jumps and sweeps are as they were;
* `Board.Shifted`      the marker was published, and the copy was entered after a sweep;
* `Entered.traces`     an attempt from the flash leaves a board altered or shifted;
* `Board.Grown`        markers, jumps and sweeps only become more; `grown_answer`, `grown_run`;
* `Board.Trial`, `Board.History`  an attempt, and a sequence of attempts;
* `Board.Once`         a board that was relocated once at most; `Once.trial`: an attempt keeps it so;
* `relocated_once`     all of this for any sequence of attempts.
-/

namespace FlashRescue

open Device Device.Boot Device.Session Dialogue

/-! ## What only becomes more -/

namespace ImageStore

/-- jumps and sweeps are never struck from the record -/
structure Grown (m m' : ImageStore) : Prop where
  jumps : m.jumps <+: m'.jumps
  evictions : m.evictions ≤ m'.evictions

variable {m m' : ImageStore}

theorem grown_of_eq (jumps : m'.jumps = m.jumps) (evictions : m'.evictions = m.evictions) : m.Grown m' :=
  ⟨jumps ▸ List.prefix_rfl, Nat.le_of_eq evictions.symm⟩

theorem grown_allocate (pages : UInt64) (m : ImageStore) : m.Grown (m.allocate pages).2 := by
  rw [allocate]
  split <;> exact grown_of_eq rfl rfl

theorem grown_free (range : PageRange) (m : ImageStore) : m.Grown (m.free range).2 := by
  rw [free]
  split <;> exact grown_of_eq rfl rfl

theorem grown_load (image : ImageInfo) (range : PageRange) (m : ImageStore) :
    m.Grown (m.load image range).2 := by
  have same : m.Grown m := grown_of_eq rfl rfl
  rw [load]
  split
  · exact same
  · split
    · exact same
    · split
      · exact same
      · split
        · exact same
        · split
          · exact same
          · dsimp only
            split <;> exact grown_of_eq rfl rfl

theorem grown_jump (entry : UInt64) (m : ImageStore) : m.Grown (m.jump entry).2 := by
  have same : m.Grown m := grown_of_eq rfl rfl
  rw [jump]
  split
  · exact same
  · split
    · exact same
    · split
      · exact ⟨List.prefix_append _ _, Nat.le_refl _⟩
      · exact same

end ImageStore

namespace Board

variable {b b' b'' : Board} {image : ImageInfo} {range : PageRange} {m : ImageStore} {rounds depth : Nat}
  {calls : List Call} {ended : Except (Stop Error) Outcome}

/-- whatever was done to a board, its markers, jumps and sweeps are as they were -/
structure Altered (b b' : Board) : Prop where
  registry : b'.registry = b.registry
  jumps : b'.image.jumps = b.image.jumps
  evictions : b'.image.evictions = b.image.evictions

/-- markers, jumps and sweeps are never struck from the record -/
structure Grown (b b' : Board) : Prop where
  registry : b.registry <+: b'.registry
  image : b.image.Grown b'.image

theorem Altered.grown (h : b.Altered b') : b.Grown b' :=
  ⟨h.registry ▸ List.prefix_rfl, ImageStore.grown_of_eq h.jumps h.evictions⟩

theorem Grown.trans (h : b.Grown b') (h' : b'.Grown b'') : b.Grown b'' :=
  ⟨h.registry.trans h'.registry, h.image.jumps.trans h'.image.jumps,
    Nat.le_trans h.image.evictions h'.image.evictions⟩

theorem grown_answer (query : Query) (b : Board) : b.Grown (answer query b).2 := by
  cases query with
  | install marker =>
    show b.Grown (b.install marker).2
    rw [install]
    split
    · exact Altered.grown ⟨rfl, rfl, rfl⟩
    · exact ⟨List.prefix_append _ _, ImageStore.grown_of_eq rfl rfl⟩
  | allocate pages => exact ⟨List.prefix_rfl, ImageStore.grown_allocate pages b.image⟩
  | free range => exact ⟨List.prefix_rfl, ImageStore.grown_free range b.image⟩
  | load image range => exact ⟨List.prefix_rfl, ImageStore.grown_load image range b.image⟩
  | evict => exact ⟨List.prefix_rfl, List.prefix_rfl, Nat.le_succ _⟩
  | jump entry => exact ⟨List.prefix_rfl, ImageStore.grown_jump entry b.image⟩
  | _ => exact Altered.grown ⟨rfl, rfl, rfl⟩

theorem grown_run {α : Type} (d : Action α) (b : Board) : b.Grown (d.run answer b).2 := by
  induction d generalizing b with
  | done value => exact Altered.grown ⟨rfl, rfl, rfl⟩
  | stop why => exact Altered.grown ⟨rfl, rfl, rfl⟩
  | ask query next ih => exact (grown_answer query b).trans (ih _ _)

/-! ## What an attempt leaves on the record -/

/-- the marker was published, and the copy was entered after a sweep -/
structure Shifted (b b' : Board) : Prop where
  registry : b'.registry = b.registry ++ [marker]
  jumps : ∃ entry, b'.image.jumps = b.image.jumps ++ [entry]
  evictions : b'.image.evictions = b.image.evictions + 1

theorem altered_of_session {config : Config}
    (h : Recorded answer (Session.run config rounds) b calls ended b') : b.Altered b' := by
  have rest := within_of_session h
  refine ⟨?_, ?_, ?_⟩
  · rw [← rest]
    rfl
  · rw [← rest]
    rfl
  · rw [← rest]
    rfl

theorem Copied.traces (h : Copied rounds b image range calls ended b') : b.Altered b' ∨ b.Shifted b' := by
  cases h with
  | refused refused => exact .inl ⟨rfl, rfl, rfl⟩
  | @served entry _ _ _ before place inside loaded session =>
    have same := altered_of_session session
    exact .inr ⟨same.registry, ⟨entry, same.jumps⟩, same.evictions⟩

theorem Relocated.traces (h : Relocated rounds b calls ended b') : b.Altered b' ∨ b.Shifted b' := by
  cases h with
  | lost lost => exact .inl ⟨rfl, rfl, rfl⟩
  | crowded located crowded => exact .inl ⟨rfl, rfl, rfl⟩
  | returned located allocated copied setUp =>
    obtain ⟨arena, -, rfl⟩ := ImageStore.allocate_ok allocated
    rcases copied.traces with same | shifted
    · exact .inl ⟨same.registry, same.jumps, same.evictions⟩
    · exact .inr ⟨shifted.registry, shifted.jumps, shifted.evictions⟩
  | stopped located allocated copied unreported =>
    obtain ⟨arena, -, rfl⟩ := ImageStore.allocate_ok allocated
    rcases copied.traces with same | shifted
    · exact .inl ⟨same.registry, same.jumps, same.evictions⟩
    · exact .inr ⟨shifted.registry, shifted.jumps, shifted.evictions⟩

/-- an attempt from the flash leaves no traces, or those of one relocation -/
theorem Entered.traces (h : Entered rounds b calls ended b') : b.Altered b' ∨ b.Shifted b' := by
  cases h with
  | refused invalid => exact .inl ⟨rfl, rfl, rfl⟩
  | cut valid sought =>
    rw [(searched sought).others]
    exact .inl ⟨rfl, rfl, rfl⟩
  | alone valid sought =>
    rw [(searched sought).others]
    exact .inl ⟨rfl, rfl, rfl⟩
  | @hosted _ _ p _ _ valid sought relocated =>
    obtain ⟨line, rfl⟩ : ∃ line, p = { b with line } := ⟨_, (searched sought).others⟩
    rcases relocated.traces with same | shifted
    · exact .inl ⟨same.registry, same.jumps, same.evictions⟩
    · exact .inr ⟨shifted.registry, shifted.jumps, shifted.evictions⟩

/-! ## Attempts -/

/-- a boot attempt on record -/
structure Trial where
  rounds : Nat
  depth : Nat
  before : Board
  calls : List Call
  ended : Except (Stop Error) Outcome
  after : Board

namespace Trial

def entry (t : Trial) : Action Outcome := Boot.enter t.rounds (t.depth + 2)

/-- the device was entered, and it has gone like this -/
def Genuine (t : Trial) : Prop := Recorded answer t.entry t.before t.calls t.ended t.after

/-- the attempt that a device makes on a board -/
def on (rounds depth : Nat) (b : Board) : Trial where
  rounds
  depth
  before := b
  calls := (Boot.enter rounds (depth + 2)).transcript answer b
  ended := ((Boot.enter rounds (depth + 2)).run answer b).1
  after := ((Boot.enter rounds (depth + 2)).run answer b).2

theorem genuine_on (rounds depth : Nat) (b : Board) : (Trial.on rounds depth b).Genuine := ⟨rfl, rfl⟩

/-- the attempt has come by this board on its way -/
def Passes (t : Trial) (b : Board) : Prop := ∃ rest, Leads answer t.entry t.before rest b

/-- the device found its marker and served the host, as a session does.  So it has not said HELLO, asked for
pages, loaded its image or entered a copy -/
structure Serves (t : Trial) : Prop where
  session : ∃ session, t.calls = ⟨.config, t.before.config⟩ :: ⟨.isInstalled marker, true⟩ :: session ∧
    Recorded answer (Session.run t.before.config t.rounds) t.before session t.ended t.after ∧
    ∀ call ∈ session, Looping call.query ∨ call.query = .flash .init
  silent : hellos t.calls = 0
  rests : ∀ call ∈ t.calls, ¬ Jumps call.query ∧ (∀ pages, call.query ≠ .allocate pages) ∧
    ∀ image range, call.query ≠ .load image range

end Trial

/-- a board that was relocated once at most: there is no marker but the one of the device, the copy was
entered as often as it was published, and swept as often as it was entered -/
structure Once (b : Board) : Prop where
  registry : b.registry = [] ∨ b.registry = [marker]
  jumps : b.image.jumps.length = if marker ∈ b.registry then 1 else 0
  evictions : b.image.evictions = b.image.jumps.length

theorem Once.altered (h : b.Once) (same : b.Altered b') : b'.Once where
  registry := by rw [same.registry]; exact h.registry
  jumps := by rw [same.jumps, same.registry]; exact h.jumps
  evictions := by rw [same.evictions, same.jumps]; exact h.evictions

theorem Once.shifted (h : b.Once) (cold : marker ∉ b.registry) (shifted : b.Shifted b') : b'.Once := by
  obtain ⟨entry, jumps⟩ := shifted.jumps
  have none_ : b.registry = [] := by
    rcases h.registry with none_ | one
    · exact none_
    · rw [one] at cold
      exact absurd (List.mem_singleton_self _) cold
  have one : b'.registry = [marker] := by rw [shifted.registry, none_, List.nil_append]
  have before := h.jumps
  rw [if_neg cold] at before
  refine ⟨.inr one, ?_, ?_⟩
  · rw [jumps, one, if_pos (List.mem_singleton_self _), List.length_append, before]
    rfl
  · rw [shifted.evictions, h.evictions, jumps, List.length_append]
    rfl

theorem Once.jumps_le (h : b.Once) : b.image.jumps.length ≤ 1 := by
  rw [h.jumps]
  split <;> decide

/-- on the way to a board that was relocated once at most there was no more than one relocation -/
theorem Grown.limited (h : b.Grown b') (once : b'.Once) :
    (b.registry = [] ∨ b.registry = [marker]) ∧ b.image.jumps.length ≤ 1 ∧ b.image.evictions ≤ 1 := by
  refine ⟨?_, Nat.le_trans h.image.jumps.length_le once.jumps_le,
    Nat.le_trans h.image.evictions (once.evictions ▸ once.jumps_le)⟩
  rcases once.registry with none_ | one
  · exact .inl (List.prefix_nil.mp (none_ ▸ h.registry))
  · rcases List.prefix_cons_iff.mp (one ▸ h.registry) with none_ | ⟨rest, same, nothing⟩
    · exact .inl none_
    · rw [List.prefix_nil.mp nothing] at same
      exact .inr same

/-- a device that finds the marker serves the host, or refuses its settings -/
theorem Trial.hot {t : Trial} (genuine : t.Genuine) (hot : marker ∈ t.before.registry) :
    t.before.Altered t.after ∧ (t.before.config.validate = .ok () → t.Serves) := by
  cases valid : t.before.config.validate with
  | error e =>
    have refused : Recorded answer t.entry t.before [⟨.config, t.before.config⟩] (.error (.failed e))
        t.before := by
      refine .ask rfl ?_
      rw [Dialogue.pure_bind, valid]
      exact recorded_stop _ _
    obtain ⟨-, -, same⟩ := genuine.unique refused
    rw [same]
    exact ⟨⟨rfl, rfl, rfl⟩, nofun⟩
  | ok =>
    have session := recorded
      (Prod.eta ((Session.run t.before.config t.rounds).run answer t.before)).symm
    have kinds := (only_session ..).recorded session
    have served : Recorded answer t.entry t.before _ _ _ := enter_again hot valid session
    obtain ⟨calls, ended, after⟩ := genuine.unique served
    rw [← ended, ← after] at session
    refine ⟨altered_of_session session, fun _ => ⟨⟨_, calls, session, kinds⟩, ?_, ?_⟩⟩
    · rw [calls, hellos_cons, hellos_cons, hellos_session kinds]
      rfl
    · rw [calls, List.forall_mem_cons, List.forall_mem_cons]
      refine ⟨⟨id, nofun, nofun⟩, ⟨id, nofun, nofun⟩, fun call mem => ?_⟩
      have serving := (kinds call mem).imp_left Looping.serving
      refine ⟨not_jumps_of_session serving, fun pages same => ?_, fun image range same => ?_⟩
      all_goals
        rw [same] at serving
        rcases serving with serving | init
        · exact serving.elim
        · cases init

/-- an attempt that finds no marker and publishes none leaves the flash alone -/
theorem Trial.cold {t : Trial} (genuine : t.Genuine) (cold : marker ∉ t.before.registry) :
    (t.before.Altered t.after ∨ t.before.Shifted t.after) ∧
      (marker ∉ t.after.registry → (∀ call ∈ t.calls, ¬ Touches call.query) ∧
        t.after.flash.content = t.before.flash.content) := by
  obtain ⟨calls, ended, b', record, entered⟩ := entered_of_cold t.rounds t.depth cold
  obtain ⟨rfl, rfl, rfl⟩ := genuine.unique record
  refine ⟨entered.traces, fun unpublished => ?_⟩
  rcases entered.moves with ⟨idle, same⟩ | ⟨_, _, _, _, _, _, _, _, _, _, moved⟩
  · exact ⟨fun call mem => (idle call mem).1, same⟩
  · rw [moved.registry] at unpublished
    exact absurd (List.mem_append_right _ (List.mem_singleton_self _)) unpublished

/-- what one attempt preserves -/
theorem Once.trial {t : Trial} (h : t.before.Once) (genuine : t.Genuine) : t.after.Once := by
  by_cases hot : marker ∈ t.before.registry
  · exact h.altered (Trial.hot genuine hot).1
  · rcases (Trial.cold genuine hot).1 with same | shifted
    · exact h.altered same
    · exact h.shifted hot shifted

/-- a board on the way lies between the first and the last one -/
theorem Trial.Passes.grown {t : Trial} (genuine : t.Genuine) (passes : t.Passes b) : b.Grown t.after := by
  obtain ⟨rest, leads⟩ := passes
  have onward := grown_run rest b
  rwa [← leads.run_eq, Recorded.run genuine] at onward

/-! ## Sequences of attempts -/

/-- attempts one after the other, from `b` on.  In between the board is changed at will, but for what is on
its record -/
inductive History : Board → List Trial → Prop
  | nil (b : Board) : History b []
  | cons {b : Board} {t : Trial} {trials : List Trial} (altered : b.Altered t.before)
      (genuine : t.Genuine) (rest : History t.after trials) : History b (t :: trials)

theorem History.genuine {trials : List Trial} (h : History b trials) : ∀ t ∈ trials, t.Genuine := by
  induction h with
  | nil b => exact List.forall_mem_nil _
  | cons altered genuine rest ih => exact List.forall_mem_cons.mpr ⟨genuine, ih⟩

/-- what a sequence of attempts preserves -/
theorem Once.history {trials : List Trial} (h : b.Once) (history : History b trials) :
    ∀ t ∈ trials, t.before.Once ∧ t.after.Once := by
  induction history with
  | nil b => exact List.forall_mem_nil _
  | cons altered genuine rest ih =>
    have before := h.altered altered
    have after := before.trial genuine
    exact List.forall_mem_cons.mpr ⟨⟨before, after⟩, ih after⟩

theorem History.grown {trials : List Trial} (h : History b trials) :
    ∀ t ∈ trials, b.registry <+: t.before.registry := by
  induction h with
  | nil b => exact List.forall_mem_nil _
  | @cons b t trials altered genuine rest ih =>
    have published : b.registry <+: t.after.registry := by
      have onward := grown_run t.entry t.before
      rw [Recorded.run genuine] at onward
      rw [← altered.registry]
      exact onward.registry
    exact List.forall_mem_cons.mpr ⟨altered.registry ▸ List.prefix_rfl,
      fun u mem => published.trans (ih u mem)⟩

/-- a marker that was published is found in all later attempts -/
theorem History.stays {trials : List Trial} (h : History b trials) :
    trials.Pairwise fun t u => marker ∈ t.after.registry → marker ∈ u.before.registry := by
  induction h with
  | nil b => exact .nil
  | cons altered genuine rest ih =>
    exact .cons (fun u mem published => (rest.grown u mem).subset published) ih

/-- from a board that was never relocated on, any sequence of attempts relocates it once at most.  Not even in
the midst of an attempt is there another marker than that of the device, or more than one jump or sweep.  Once
the marker is published it stays, and then an attempt with settings that can be used serves the host and does
nothing else.  An attempt that ends without the marker has left the flash alone -/
theorem relocated_once {trials : List Trial} (unpublished : b.registry = []) (unentered : b.image.jumps = [])
    (unswept : b.image.evictions = 0) (history : History b trials) :
    (∀ t ∈ trials, t.before.Once ∧ t.after.Once ∧ ∀ p, t.Passes p →
      (p.registry = [] ∨ p.registry = [marker]) ∧ p.image.jumps.length ≤ 1 ∧ p.image.evictions ≤ 1) ∧
    trials.Pairwise (fun t u => marker ∈ t.after.registry → marker ∈ u.before.registry) ∧
    (∀ t ∈ trials, marker ∈ t.before.registry →
      marker ∈ t.after.registry ∧ (t.before.config.validate = .ok () → t.Serves)) ∧
    ∀ t ∈ trials, marker ∉ t.after.registry →
      (∀ call ∈ t.calls, ¬ Touches call.query) ∧ t.after.flash.content = t.before.flash.content := by
  have cold : marker ∉ b.registry := by
    rw [unpublished]
    exact List.not_mem_nil
  have once : b.Once := ⟨.inl unpublished, by rw [unentered, if_neg cold]; rfl, by rw [unswept, unentered]; rfl⟩
  have all := once.history history
  refine ⟨fun t mem => ⟨(all t mem).1, (all t mem).2, fun p passes => ?_⟩, history.stays, ?_, ?_⟩
  · exact (passes.grown (history.genuine t mem)).limited (all t mem).2
  · intro t mem hot
    obtain ⟨same, serves⟩ := Trial.hot (history.genuine t mem) hot
    exact ⟨same.registry ▸ hot, serves⟩
  · intro t mem unpublished
    have genuine := history.genuine t mem
    refine (Trial.cold genuine fun hot => ?_).2 unpublished
    rw [(Trial.hot genuine hot).1.registry] at unpublished
    exact unpublished hot

/-- a board whose host has answered, and whose image cannot be loaded -/
def unloadable : Board :=
  { attended with
    line := ({ clock := .virtual standardTick } : Line).push 0 Response.ack.encode
    image := { attended.image with failLoad := true } }

/-- what was wrong with the image is put right, and a host answers and lets the device go -/
def repaired (b : Board) : Board :=
  { b with
    line := b.line.push 0 (Response.ack.encode ++ (Command.of .exit 0).encode)
    image := { b.image with failLoad := false } }

/-- a host lets the device go, and has asked for smaller chunks -/
def recalled (b : Board) : Board :=
  { b with
    line := b.line.push 0 (Command.of .exit 0).encode
    config := { b.config with chunkSize := 1 } }

/-- the first attempt finds its image unloadable, the second one relocates the board, and the third serves the
host at once -/
theorem relocated_once_repaired :
    let first := Trial.on 2 0 unloadable
    let second := Trial.on 2 0 (repaired first.after)
    let third := Trial.on 2 0 (recalled second.after)
    (unloadable.registry = [] ∧ unloadable.image.jumps = [] ∧ unloadable.image.evictions = 0 ∧
      History unloadable [first, second, third]) ∧
    [first, second, third].map Trial.ended =
      [.error (.failed (.load .loadError)), .ok .exited, .ok .exited] ∧
    first.after.flash.content = unloadable.flash.content ∧ second.after.Once ∧
    marker ∈ second.after.registry ∧ third.Serves ∧ third.after.Once := by
  intro first second third
  have history : History unloadable [first, second, third] :=
    .cons ⟨rfl, rfl, rfl⟩ (Trial.genuine_on ..) (.cons ⟨rfl, rfl, rfl⟩ (Trial.genuine_on ..)
      (.cons ⟨rfl, rfl, rfl⟩ (Trial.genuine_on ..) (.nil _)))
  have ends : [first, second, third].map Trial.ended =
      [.error (.failed (.load .loadError)), .ok .exited, .ok .exited] := by decide +kernel
  have unpublished : first.after.registry = [] := by rfl
  have published : second.after.registry = [marker] := by decide +kernel
  obtain ⟨once, -, serve, alone⟩ := relocated_once rfl rfl rfl history
  have cold : marker ∉ first.after.registry := by
    rw [unpublished]
    exact List.not_mem_nil
  have hot : marker ∈ second.after.registry := by
    rw [published]
    exact List.mem_singleton_self _
  have there : third ∈ [first, second, third] := .tail _ (.tail _ (.head _))
  exact ⟨⟨rfl, rfl, rfl, history⟩, ends, (alone first (.head _) cold).2, (once second (.tail _ (.head _))).2.1,
    hot, (serve third there hot).2 (by decide +kernel), (once third there).2.1⟩

end Board

end FlashRescue
