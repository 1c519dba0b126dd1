import FlashRescue.Proofs.Boot.Entry

/-!
# The parts of a boot attempt

An attempt with what lies between its search and its session set aside.

* `Boot.Aside`       calls that reach neither the line nor the clock nor the flash;
* `Board.Attempt`    the ways in which an attempt can go, cold or with the marker published;
* `attempt`          there are no others, and what holds all along an attempt holds in its parts.
-/

namespace FlashRescue

open Device Device.Boot Dialogue

namespace Device.Boot

/-- neither to the line, the clock and the flash, nor into the copy -/
def Aside : Query → Prop
  | .link _ | .now | .delay _ | .flash _ | .jump _ => False
  | _ => True

/-- calls that are made after a session -/
def Closing (query : Query) : Prop := Aside query ∨ query = .flash .init

end Device.Boot

namespace Board

variable {suits : Query → Board → Prop} {b b' : Board} {rounds depth : Nat} {calls : List Call}
  {ended : Except (Stop Error) Outcome}

/-- the ways in which an attempt can go: the settings are refused; the search is stopped, or there is no
session after it; the copy is entered and has a session with the host it has found; the marker was published
before, and there is nothing but a session -/
inductive Attempt (suits : Query → Board → Prop) (rounds : Nat) (b : Board) :
    List Call → Except (Stop Error) Outcome → Prop
  | refused (e : Error) : Attempt suits rounds b [⟨.config, b.config⟩] (.error (.failed e))
  | cut {head calls : List Call} {why : Stop Error} {p : Board} (valid : b.config.validate = .ok ())
      (aside : ∀ call ∈ head, Aside call.query)
      (sought : Recorded answer (search b.config rounds) b calls (.error why) p) :
      Attempt suits rounds b (head ++ calls) (.error why)
  | unserved {head calls rest : List Call} {found : Bool} {p : Board}
      (valid : b.config.validate = .ok ()) (aside : ∀ call ∈ head, Aside call.query)
      (sought : Recorded answer (search b.config rounds) b calls (.ok found) p)
      (closing : ∀ call ∈ rest, Closing call.query) (result : Except Error Outcome) :
      Attempt suits rounds b (head ++ (calls ++ rest)) (result.mapError .failed)
  | served (entry : UInt64) {head calls way way' session rest : List Call} {p q q' : Board}
      {served ended : Except (Stop Error) Outcome} (valid : b.config.validate = .ok ())
      (aside : ∀ call ∈ head, Aside call.query)
      (sought : Recorded answer (search b.config rounds) b calls (.ok true) p)
      (kept : (search b.config rounds).Throughout answer suits b)
      (aside' : ∀ call ∈ way, Aside call.query) (aside'' : ∀ call ∈ way', Aside call.query)
      (line : q.line = p.line)
      (ran : Recorded answer (Session.run b.config rounds) q session served q')
      (all : (Session.run b.config rounds).Throughout answer suits q)
      (closing : ∀ call ∈ rest, Closing call.query)
      (ends : ended = served ∨ ∃ result : Except Error Outcome, ended = result.mapError .failed) :
      Attempt suits rounds b
        (head ++ (calls ++ (way ++ ⟨.jump entry, .ok .entered⟩ :: (way' ++ (session ++ rest))))) ended
  | hot {head session : List Call} {ended : Except (Stop Error) Outcome} {b' : Board}
      (valid : b.config.validate = .ok ()) (aside : ∀ call ∈ head, Aside call.query)
      (ran : Recorded answer (Session.run b.config rounds) b session ended b')
      (all : (Session.run b.config rounds).Throughout answer suits b) :
      Attempt suits rounds b (head ++ session) ended

/-! ## What holds all along -/

theorem leads_entry (valid : b.config.validate = .ok ()) :
    Leads answer (Boot.enter rounds (depth + 1)) b
      (if decide (marker ∈ b.registry) = true then Session.run b.config rounds
        else coldStart b.config rounds (Boot.enter rounds depth)) b := by
  refine .ask rfl ?_
  rw [Dialogue.pure_bind, valid]
  exact .ask rfl (.here _ b)

theorem leads_again (hot : marker ∈ b.registry) (valid : b.config.validate = .ok ()) :
    Leads answer (Boot.enter rounds (depth + 1)) b (Session.run b.config rounds) b := by
  have leads : Leads answer (Boot.enter rounds (depth + 1)) b _ b := leads_entry valid
  rwa [if_pos (decide_eq_true hot)] at leads

theorem leads_coldStart (cold : marker ∉ b.registry) (valid : b.config.validate = .ok ()) :
    Leads answer (Boot.enter rounds (depth + 1)) b
      (coldStart b.config rounds (Boot.enter rounds depth)) b := by
  have leads : Leads answer (Boot.enter rounds (depth + 1)) b _ b := leads_entry valid
  rwa [if_neg (by simp [cold])] at leads

theorem leads_runCopy {reenter : Action Outcome} {image : ImageInfo} {range : PageRange}
    {entry : UInt64} {content : List UInt8} (cold : marker ∉ b.registry)
    (loaded : b.image.load image range =
      (.ok entry, { b.image with copy := some (range, content) }))
    (inside : range.Contains entry) :
    Leads answer (runCopy reenter image range) b reenter (b.relocated range content entry) := by
  have load : answer (.load image range) b =
      (.ok entry, { b with image := { b.image with copy := some (range, content) } }) :=
    answer_image loaded
  have settled : settle (.ok entry : Service UInt64) = pure (.ok entry) := rfl
  refine (leads_bind (recorded_ask load).run).trans ?_
  rw [settled]
  exact .ask rfl (.ask (if_neg cold) (.ask (answer_jump rfl inside) (.here _ _)))

theorem leads_relocate {reenter : Action Outcome} {image : ImageInfo} {range : PageRange}
    {m : ImageStore} (located : b.image.locate = .ok image)
    (allocated : b.image.allocate (pagesFor image.size) = (.ok range, m)) :
    Leads answer (relocate reenter) b ((runCopy reenter image range).trial >>= leaveCopy range)
      { b with image := m } := by
  have locate : answer .locate b = (.ok image, b) := Prod.ext located rfl
  have allocate : answer (.allocate (pagesFor image.size)) b = (.ok range, { b with image := m }) :=
    answer_image allocated
  exact .ask locate (.ask allocate (.here _ _))

theorem throughout_runCopy {image : ImageInfo} {range : PageRange} {entry : UInt64}
    {content : List UInt8} (cold : marker ∉ b.registry) (valid : b.config.validate = .ok ())
    (loaded : b.image.load image range =
      (.ok entry, { b.image with copy := some (range, content) }))
    (inside : range.Contains entry)
    (all : (runCopy (Boot.enter rounds (depth + 1)) image range).Throughout answer suits b) :
    (Session.run b.config rounds).Throughout answer suits (b.relocated range content entry) := by
  have hot : marker ∈ (b.relocated range content entry).registry :=
    List.mem_append_right _ (List.mem_singleton_self _)
  exact ((leads_runCopy cold loaded inside).trans (leads_again hot valid)).throughout all

theorem throughout_quietly {action : Action Outcome}
    (all : (quietly action).Throughout answer suits b) :
    action.Throughout answer suits { b with logLevel := .off } := by
  have leads : Leads answer (quietly action) b (action.attempt >>= fun ended =>
      .ask (.setLogLevel b.logLevel) fun _ => .resume ended) { b with logLevel := .off } :=
    .ask rfl (.ask rfl (.here _ _))
  exact (leads.throughout all).of_bind.of_attempt

theorem throughout_coldStart {config : Config} {reenter : Action Outcome} {p : Board}
    (all : (coldStart config rounds reenter).Throughout answer suits b)
    (sought : Recorded answer (search config rounds) b calls (.ok true) p) :
    (search config rounds).Throughout answer suits b ∧
      (relocate reenter).Throughout answer suits { p with logLevel := .off } := by
  rw [coldStart_eq] at all
  have searching : (search config rounds >>= fun found => if found then (do
        inform "Rescue host attached, relocating"
        quietly (relocate reenter)) else (do
        inform "No rescue host, continuing boot"
        return .normalBoot)).Throughout answer suits b := (throughout_ask.mp all).2
  have found := searching.rest sought.run
  rw [if_pos rfl] at found
  exact ⟨searching.of_bind, throughout_quietly (throughout_ask.mp found).2⟩

/-! ## Relocations -/

/-- the copy was refused, or it was entered and had a session -/
theorem Copied.parts {image : ImageInfo} {range : PageRange}
    (h : Copied rounds b image range calls ended b') (cold : marker ∉ b.registry)
    (valid : b.config.validate = .ok ())
    (all : (runCopy (Boot.enter rounds (depth + 1)) image range).Throughout answer suits b) :
    (∃ e, ended = .error (.failed e) ∧ ∀ call ∈ calls, Aside call.query) ∨
    ∃ way entry way' session q, calls = way ++ ⟨.jump entry, .ok .entered⟩ :: (way' ++ session) ∧
      (∀ call ∈ way, Aside call.query) ∧ (∀ call ∈ way', Aside call.query) ∧ q.line = b.line ∧
      Recorded answer (Session.run b.config rounds) q session ended b' ∧
      (Session.run b.config rounds).Throughout answer suits q := by
  cases h with
  | @refused status refused =>
    exact .inl ⟨.load status, rfl, List.forall_mem_singleton.mpr trivial⟩
  | @served entry session _ _ before place inside loaded ran =>
    refine .inr ⟨[⟨.load image range, .ok entry⟩, ⟨.evict, ()⟩, ⟨.install marker, .ok ()⟩], entry,
      [⟨.config, b.config⟩, ⟨.isInstalled marker, true⟩], session,
      b.relocated range (b.image.filled range) entry, rfl, ?_, ?_, rfl, ran,
      throughout_runCopy cold valid loaded inside all⟩
    · simp only [List.forall_mem_cons]
      exact ⟨trivial, trivial, trivial, List.forall_mem_nil _⟩
    · simp only [List.forall_mem_cons]
      exact ⟨trivial, trivial, List.forall_mem_nil _⟩

/-- a relocation has reported its result without a session, or it had a session -/
theorem Relocated.parts (h : Relocated rounds b calls ended b') (cold : marker ∉ b.registry)
    (valid : b.config.validate = .ok ())
    (all : (relocate (Boot.enter rounds (depth + 1))).Throughout answer suits b) :
    (∃ result : Except Error Outcome, ended = result.mapError .failed ∧
      ∀ call ∈ calls, Closing call.query) ∨
    ∃ way entry way' session rest q q' served,
      calls = way ++ ⟨.jump entry, .ok .entered⟩ :: (way' ++ (session ++ rest)) ∧
      (∀ call ∈ way, Aside call.query) ∧ (∀ call ∈ way', Aside call.query) ∧ q.line = b.line ∧
      Recorded answer (Session.run b.config rounds) q session served q' ∧
      (Session.run b.config rounds).Throughout answer suits q ∧
      (∀ call ∈ rest, Closing call.query) ∧
      (ended = served ∨ ∃ result : Except Error Outcome, ended = result.mapError .failed) := by
  cases h with
  | @lost status lost =>
    exact .inl ⟨.error (.load status), rfl, List.forall_mem_singleton.mpr (.inl trivial)⟩
  | crowded located crowded =>
    refine .inl ⟨.error .outOfResources, rfl, ?_⟩
    simp only [List.forall_mem_cons]
    exact ⟨.inl trivial, .inl trivial, List.forall_mem_nil _⟩
  | @returned image range _ _ result left restored _ located allocated copied setUp =>
    have copying := ((leads_relocate located allocated).throughout all).of_bind.of_trial
    have closing : ∀ call ∈ ([⟨.flash .init, restored⟩, ⟨.free range, .ok ()⟩] : List Call),
        Closing call.query := by
      simp only [List.forall_mem_cons]
      exact ⟨.inr rfl, .inl trivial, List.forall_mem_nil _⟩
    rcases copied.parts cold valid copying with ⟨e, -, aside⟩ |
      ⟨way, entry, way', session, q, rfl, aside, aside', line, ran, all⟩
    · refine .inl ⟨leaving result restored (.ok ()), rfl, ?_⟩
      rw [List.forall_mem_cons, List.forall_mem_cons, List.forall_mem_append]
      exact ⟨.inl trivial, .inl trivial, fun call mem => .inl (aside call mem), closing⟩
    · refine .inr ⟨⟨.locate, .ok image⟩ :: ⟨.allocate (pagesFor image.size), .ok range⟩ :: way, entry,
        way', session, _, q, left, _, ?_, ?_, aside', line, ran, all, closing, .inr ⟨_, rfl⟩⟩
      · simp only [List.cons_append, List.append_assoc]
      · simp only [List.forall_mem_cons]
        exact ⟨trivial, trivial, aside⟩
  | @stopped image range _ _ _ _ located allocated copied unreported =>
    have copying := ((leads_relocate located allocated).throughout all).of_bind.of_trial
    rcases copied.parts cold valid copying with ⟨e, failed, -⟩ |
      ⟨way, entry, way', session, q, rfl, aside, aside', line, ran, all⟩
    · cases failed
      exact absurd rfl (unreported e)
    · refine .inr ⟨⟨.locate, .ok image⟩ :: ⟨.allocate (pagesFor image.size), .ok range⟩ :: way, entry,
        way', session, [], q, b', _, ?_, ?_, aside', line, ran, all, List.forall_mem_nil _, .inl rfl⟩
      · rw [List.append_nil]
        rfl
      · simp only [List.forall_mem_cons]
        exact ⟨trivial, trivial, aside⟩

/-! ## Attempts -/

theorem recorded_refused {e : Error} (invalid : b.config.validate = .error e) :
    Recorded answer (Boot.enter rounds (depth + 1)) b [⟨.config, b.config⟩] (.error (.failed e)) b := by
  refine .ask rfl ?_
  rw [Dialogue.pure_bind, invalid]
  exact recorded_stop _ b

theorem attempt_of_hot (hot : marker ∈ b.registry)
    (h : Recorded answer (Boot.enter rounds (depth + 1)) b calls ended b')
    (all : (Boot.enter rounds (depth + 1)).Throughout answer suits b) :
    Attempt suits rounds b calls ended := by
  cases valid : b.config.validate with
  | error e =>
    obtain ⟨rfl, rfl, -⟩ := h.unique (recorded_refused valid)
    exact .refused e
  | ok =>
    have ran := recorded (Prod.eta ((Session.run b.config rounds).run answer b)).symm
    obtain ⟨rfl, rfl, -⟩ := h.unique (enter_again hot valid ran)
    have aside : ∀ call ∈ ([⟨.config, b.config⟩, ⟨.isInstalled marker, true⟩] : List Call),
        Aside call.query := by
      simp only [List.forall_mem_cons]
      exact ⟨trivial, trivial, List.forall_mem_nil _⟩
    exact .hot valid aside ran ((leads_again hot valid).throughout all)

theorem attempt (h : Recorded answer (Boot.enter rounds (depth + 2)) b calls ended b')
    (all : (Boot.enter rounds (depth + 2)).Throughout answer suits b) :
    Attempt suits rounds b calls ended := by
  by_cases hot : marker ∈ b.registry
  · exact attempt_of_hot hot h all
  have aside : ∀ call ∈ ([⟨.config, b.config⟩, ⟨.isInstalled marker, false⟩, beginning] : List Call),
      Aside call.query := by
    simp only [List.forall_mem_cons]
    exact ⟨trivial, trivial, trivial, List.forall_mem_nil _⟩
  obtain ⟨calls, ended, b'', record, entered⟩ := entered_of_cold rounds depth hot
  obtain ⟨rfl, rfl, rfl⟩ := h.unique record
  cases entered with
  | refused invalid => exact .refused _
  | cut valid sought => exact .cut valid aside sought
  | alone valid sought =>
    have closing : ∀ call ∈ [unattended], Closing call.query :=
      List.forall_mem_singleton.mpr (.inl trivial)
    exact .unserved valid aside sought closing (.ok .normalBoot)
  | @hosted sent calls p left _ valid sought relocated =>
    obtain ⟨kept, relocating⟩ := throughout_coldStart ((leads_coldStart hot valid).throughout all) sought
    obtain ⟨line, rfl⟩ : ∃ line, p = { b with line } := ⟨_, (searched sought).others⟩
    have opening : ∀ call ∈ ([attached, ⟨.logLevel, b.logLevel⟩, ⟨.setLogLevel .off, ()⟩] : List Call),
        Aside call.query := by
      simp only [List.forall_mem_cons]
      exact ⟨trivial, trivial, trivial, List.forall_mem_nil _⟩
    have restored : ∀ call ∈ ([⟨.setLogLevel b.logLevel, ()⟩] : List Call), Closing call.query :=
      List.forall_mem_singleton.mpr (.inl trivial)
    rcases relocated.parts (b := { b with line, logLevel := .off }) hot valid
      relocating with ⟨result, rfl, closing⟩ |
        ⟨way, entry, way', session, rest, q, q', served, rfl, way_, way'_, line_, ran, kept', closing, ends⟩
    · refine .unserved valid aside sought ?_ result
      exact List.forall_mem_append.mpr ⟨fun call mem => .inl (opening call mem),
        List.forall_mem_append.mpr ⟨closing, restored⟩⟩
    · have whole := Attempt.served entry valid aside sought kept
        (List.forall_mem_append.mpr ⟨opening, way_⟩) way'_ line_ ran kept'
        (List.forall_mem_append.mpr ⟨closing, restored⟩) ends
      simpa only [List.cons_append, List.append_assoc, List.nil_append] using whole

end Board

end FlashRescue
