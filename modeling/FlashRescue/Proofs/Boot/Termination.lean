import FlashRescue.Proofs.Boot.Attempt
import FlashRescue.Proofs.Boot.Budget
import FlashRescue.Proofs.Session.Vigil

/-!
# How long a boot attempt lasts

On a clock that moves at every look and does not wrap around every attempt ends, whatever its host sends and
whichever of its services fail.

* `Boot.jumps`          how often the copy was entered;
* `Boot.loopOf`         the calls of the command loop, which begins as the flash service is set up;
* `session_ends`, `session_polls`  a session reports its result after so many rounds;
* `enter_terminates`    an attempt as a whole.
-/

namespace FlashRescue

open Device Device.Boot Device.Session Dialogue

namespace Device.Boot

/-! ## What is counted -/

def isJump : Call → Bool
  | ⟨.jump _, _⟩ => true
  | _ => false

/-- how often it was tried to enter the copy -/
def jumps (calls : List Call) : Nat := calls.countP isJump

theorem jumps_append (calls calls' : List Call) : jumps (calls ++ calls') = jumps calls + jumps calls' :=
  List.countP_append

def isInit : Call → Bool
  | ⟨.flash .init, _⟩ => true
  | _ => false

/-- the calls before the command loop, which begins as the flash service is set up -/
def beforeLoop (calls : List Call) : List Call := calls.takeWhile (!isInit ·)

/-- the calls from there on -/
def loopOf (calls : List Call) : List Call := calls.dropWhile (!isInit ·)

section
variable {calls calls' : List Call}

/-- calls that do not set the flash service up come before the loop -/
theorem beforeLoop_append (unset : ∀ call ∈ calls, isInit call = false) :
    beforeLoop (calls ++ calls') = calls ++ beforeLoop calls' := by
  refine List.takeWhile_append_of_pos ?_
  intro call mem
  rw [unset call mem]
  rfl

theorem loopOf_append (unset : ∀ call ∈ calls, isInit call = false) :
    loopOf (calls ++ calls') = loopOf calls' := by
  refine List.dropWhile_append_of_pos ?_
  intro call mem
  rw [unset call mem]
  rfl

theorem polls_loopOf_le (calls : List Call) : polls (loopOf calls) ≤ polls calls :=
  (List.dropWhile_sublist _).countP_le

end

/-! ## Calls that are not counted -/

/-- neither a HELLO nor a round of the loop, no jump, and nothing read -/
structure Uncounted (calls : List Call) : Prop where
  hellos : hellos calls = 0
  jumps : jumps calls = 0
  polls : polls calls = 0
  taken : taken calls = 0

theorem uncounted_nil : Uncounted [] := ⟨rfl, rfl, rfl, rfl⟩

theorem Uncounted.cons {call : Call} {calls : List Call} (first : Uncounted [call]) (h : Uncounted calls) :
    Uncounted (call :: calls) where
  hellos := by rw [← List.singleton_append, hellos_append, first.hellos, h.hellos]
  jumps := by rw [← List.singleton_append, jumps_append, first.jumps, h.jumps]
  polls := by rw [← List.singleton_append, polls_append, first.polls, h.polls]
  taken := by rw [← List.singleton_append, taken_append, first.taken, h.taken]

theorem uncounted_closing {calls : List Call} (h : ∀ call ∈ calls, Closing call.query) :
    Uncounted calls := by
  induction calls with
  | nil => exact uncounted_nil
  | cons call calls ih =>
    obtain ⟨first, rest⟩ := List.forall_mem_cons.mp h
    refine .cons ?_ (ih rest)
    obtain ⟨query, reply⟩ := call
    rcases first with aside | init
    · cases query with
      | link query => exact aside.elim
      | jump entry => exact aside.elim
      | _ => exact ⟨rfl, rfl, rfl, rfl⟩
    · cases init
      exact ⟨rfl, rfl, rfl, rfl⟩

theorem uncounted_aside {calls : List Call} (h : ∀ call ∈ calls, Aside call.query) : Uncounted calls :=
  uncounted_closing fun call mem => .inl (h call mem)

/-! ## Before the loop -/

theorem isInit_aside (call : Call) (h : Aside call.query) : isInit call = false := by
  obtain ⟨query, reply⟩ := call
  cases query with
  | flash query => exact h.elim
  | _ => rfl

theorem isInit_calling (call : Call) (h : Calling call.query) : isInit call = false := by
  obtain ⟨query, reply⟩ := call
  cases query with
  | flash query => exact h.elim
  | _ => rfl

theorem jumps_calling {calls : List Call} (h : ∀ call ∈ calls, Calling call.query) : jumps calls = 0 := by
  refine List.countP_eq_zero.mpr ?_
  intro call mem
  obtain ⟨query, reply⟩ := call
  have calling := h _ mem
  cases query with
  | jump entry => exact calling.elim
  | _ => exact Bool.false_ne_true

theorem jumps_session {calls : List Call}
    (h : ∀ call ∈ calls, Looping call.query ∨ call.query = .flash .init) : jumps calls = 0 := by
  refine List.countP_eq_zero.mpr ?_
  intro call mem
  obtain ⟨query, reply⟩ := call
  rcases h _ mem with (working | poll | now) | init
  · cases working <;> exact Bool.false_ne_true
  · cases poll
    exact Bool.false_ne_true
  · cases now
    exact Bool.false_ne_true
  · cases init
    exact Bool.false_ne_true

end Device.Boot

namespace Board

variable {config : Config} {b b' : Board} {rounds depth : Nat} {calls : List Call}
  {ended : Except (Stop Error) Outcome}

/-! ## Sessions -/

section
variable (valid : config.validate = .ok ()) (virtual : b.line.clock.process = none)
  (moves : 1 ≤ b.line.clock.tick)
  (timely : (Session.run config rounds).Throughout answer KeepsTime b)
  (h : Recorded answer (Session.run config rounds) b calls ended b')
include valid virtual moves timely h

theorem session_ends (enough : UInt64.size ≤ rounds) :
    ∃ result : Except Error Outcome, ended = result.mapError .failed := by
  have fit := nonzero_of_fit (chunksFit_of_validate valid)
  rcases (begun h timely).reported fit with reported | ⟨rfl, -⟩
  · exact reported
  · rcases vigil_of_session valid virtual moves timely h with ⟨e, -, failed⟩ |
      ⟨b₁, rest, -, -, -, -, vigil⟩
    · cases failed
    · exact absurd rfl (vigil.finished (Nat.le_add_left_of_le enough))

theorem session_polls : polls calls ≤
    (b.line.incoming.length / 3 + 1) * (patience config b.line.clock.tick + 1) := by
  rcases vigil_of_session valid virtual moves timely h with ⟨e, rfl, -⟩ |
    ⟨b₁, rest, rfl, onward, incoming, poised, vigil⟩
  · exact Nat.zero_le _
  · have bound : polls rest + 1 ≤ patience config b₁.line.clock.tick + 1 +
        b₁.line.incoming.length / 3 * patience config b₁.line.clock.tick := vigil.polls_le poised.within
    rw [onward.tick, incoming] at bound
    rw [polls_cons, polls_cons, Nat.add_mul, Nat.mul_succ, Nat.one_mul]
    show polls rest + 0 + 0 ≤ _
    omega

theorem session_begins : ∃ reply rest, calls = ⟨.flash .init, reply⟩ :: rest := by
  rcases vigil_of_session valid virtual moves timely h with ⟨e, rfl, -⟩ | ⟨b₁, rest, rfl, -⟩
  · exact ⟨_, _, rfl⟩
  · exact ⟨_, _, rfl⟩

end

/-! ## Attempts -/

theorem helloRetry_positive (valid : config.validate = .ok ()) : 0 < config.helloRetryMs.toNat := by
  rw [Nat.pos_iff_ne_zero]
  intro zero
  have zero : config.helloRetryMs = 0 := UInt64.toNat_inj.mp zero
  rw [Config.validate] at valid
  split at valid
  · cases valid
  · cases valid

theorem searched_hellos {found : Except (Stop Error) Bool} (valid : b.config.validate = .ok ())
    (sought : Recorded answer (search b.config rounds) b calls found b') :
    hellos calls ≤ b.config.helloTimeoutMs.toNat ⌈/⌉ b.config.helloRetryMs.toNat := by
  refine hellos_le sought ?_
  intro zero
  have positive := helloRetry_positive valid
  rw [zero] at positive
  exact Nat.lt_irrefl 0 positive

/-- no budget has as many intervals as a word has values -/
theorem search_unspent {why : Stop Error} (valid : b.config.validate = .ok ())
    (sought : Recorded answer (search b.config rounds) b calls (.error why) b')
    (enough : UInt64.size ≤ rounds) : Severed why := by
  rcases stopped_search sought with severed | ⟨-, spent, -⟩
  · exact severed
  · have positive := helloRetry_positive valid
    have intervals : b.config.helloTimeoutMs.toNat ⌈/⌉ b.config.helloRetryMs.toNat ≤
        b.config.helloTimeoutMs.toNat := by
      rw [ceilDiv_le_iff_le_mul positive]
      exact Nat.le_mul_of_pos_left _ positive
    have bound : hellos calls ≤ _ := searched_hellos valid sought
    have fits : b.config.helloTimeoutMs.toNat < UInt64.size := b.config.helloTimeoutMs.toNat_lt
    omega

/-- what an attempt comes to, and how far it goes until then -/
structure Bounded (b : Board) (calls : List Call) (ended : Except (Stop Error) Outcome) : Prop where
  returned : ∃ result : Except Error Outcome, ended = result.mapError .failed
  hellos : hellos calls ≤ b.config.helloTimeoutMs.toNat ⌈/⌉ b.config.helloRetryMs.toNat
  jumps : jumps calls ≤ 1
  polls : polls (loopOf calls) ≤
    ((b.line.incoming.length - taken (beforeLoop calls)) / 3 + 1) *
      (patience b.config b.line.clock.tick + 1)

/-- calls in which the loop was not entered -/
theorem bounded_unserved {head rest : List Call} (result : Except Error Outcome)
    (aside : ∀ call ∈ head, Aside call.query) (calling : ∀ call ∈ calls, Calling call.query)
    (greeted : Boot.hellos calls ≤ b.config.helloTimeoutMs.toNat ⌈/⌉ b.config.helloRetryMs.toNat)
    (closing : ∀ call ∈ rest, Closing call.query) :
    b.Bounded (head ++ (calls ++ rest)) (result.mapError .failed) where
  returned := ⟨result, rfl⟩
  hellos := by
    rw [hellos_append, hellos_append, (uncounted_aside aside).hellos, (uncounted_closing closing).hellos]
    simpa using greeted
  jumps := by
    rw [jumps_append, jumps_append, (uncounted_aside aside).jumps, (uncounted_closing closing).jumps,
      jumps_calling calling]
    exact Nat.zero_le 1
  polls := by
    rw [loopOf_append fun call mem => isInit_aside call (aside call mem),
      loopOf_append fun call mem => isInit_calling call (calling call mem)]
    refine Nat.le_trans (polls_loopOf_le rest) ?_
    rw [(uncounted_closing closing).polls]
    exact Nat.zero_le _

/-- calls in front of a session: of what counts they have what those of the search have, and at most a jump -/
structure Front (searched front : List Call) : Prop where
  taken : taken front = taken searched
  hellos : Boot.hellos front = Boot.hellos searched
  jumps : Boot.jumps front ≤ 1
  unset : ∀ call ∈ front, isInit call = false

theorem front_aside {front : List Call} (aside : ∀ call ∈ front, Aside call.query) : Front [] front where
  taken := (uncounted_aside aside).taken
  hellos := (uncounted_aside aside).hellos
  jumps := by
    rw [(uncounted_aside aside).jumps]
    exact Nat.zero_le 1
  unset := fun call mem => isInit_aside call (aside call mem)

theorem front_searched {head searched way way' : List Call} (entry : UInt64)
    (aside : ∀ call ∈ head, Aside call.query) (calling : ∀ call ∈ searched, Calling call.query)
    (aside' : ∀ call ∈ way, Aside call.query) (aside'' : ∀ call ∈ way', Aside call.query) :
    Front searched (head ++ (searched ++ (way ++ ⟨.jump entry, .ok .entered⟩ :: way'))) where
  taken := by
    rw [taken_append, taken_append, taken_append, taken_cons, (uncounted_aside aside).taken,
      (uncounted_aside aside').taken, (uncounted_aside aside'').taken, Nat.zero_add]
    rfl
  hellos := by
    rw [hellos_append, hellos_append, hellos_append, hellos_cons, (uncounted_aside aside).hellos,
      (uncounted_aside aside').hellos, (uncounted_aside aside'').hellos, Nat.zero_add]
    rfl
  jumps := by
    rw [jumps_append, jumps_append, jumps_append, ← List.singleton_append, jumps_append,
      (uncounted_aside aside).jumps, (uncounted_aside aside').jumps, (uncounted_aside aside'').jumps,
      jumps_calling calling]
    exact Nat.le_refl 1
  unset := by
    simp only [List.forall_mem_append, List.forall_mem_cons]
    exact ⟨fun call mem => isInit_aside call (aside call mem),
      fun call mem => isInit_calling call (calling call mem),
      fun call mem => isInit_aside call (aside' call mem), rfl,
      fun call mem => isInit_aside call (aside'' call mem)⟩

/-- calls of which the last are those of a session -/
theorem bounded_served {searched front session rest : List Call} {q q' : Board}
    {served : Except (Stop Error) Outcome} (valid : b.config.validate = .ok ()) (way : Front searched front)
    (greeted : Boot.hellos searched ≤ b.config.helloTimeoutMs.toNat ⌈/⌉ b.config.helloRetryMs.toNat)
    (onward : b.Onward q) (incoming : q.line.incoming = b.line.incoming.drop (taken searched))
    (moves : 1 ≤ b.line.clock.tick) (enough : UInt64.size ≤ rounds)
    (ran : Recorded answer (Session.run b.config rounds) q session served q')
    (timely : (Session.run b.config rounds).Throughout answer KeepsTime q)
    (closing : ∀ call ∈ rest, Closing call.query)
    (ends : ended = served ∨ ∃ result : Except Error Outcome, ended = result.mapError .failed) :
    b.Bounded (front ++ (session ++ rest)) ended := by
  have moves : 1 ≤ q.line.clock.tick := onward.tick ▸ moves
  have kinds := (only_session b.config rounds).recorded ran
  have silent := uncounted_closing closing
  refine ⟨?_, ?_, ?_, ?_⟩
  · rcases ends with rfl | reported
    · exact session_ends valid onward.virtual moves timely ran enough
    · exact reported
  · rw [hellos_append, hellos_append, hellos_session kinds, silent.hellos, way.hellos]
    simpa using greeted
  · rw [jumps_append, jumps_append, jumps_session kinds, silent.jumps]
    simpa using way.jumps
  · obtain ⟨reply, opened, rfl⟩ := session_begins valid onward.virtual moves timely ran
    have bound := session_polls valid onward.virtual moves timely ran
    rw [incoming, List.length_drop, onward.tick] at bound
    have entered : beforeLoop (⟨.flash .init, reply⟩ :: opened ++ rest) = [] := rfl
    rw [beforeLoop_append way.unset, entered, List.append_nil, way.taken, loopOf_append way.unset]
    refine Nat.le_trans (polls_loopOf_le _) ?_
    rwa [polls_append, silent.polls, Nat.add_zero]

theorem Attempt.bounded (virtual : b.line.clock.process = none) (moves : 1 ≤ b.line.clock.tick)
    (enough : UInt64.size ≤ rounds) (h : Attempt KeepsTime rounds b calls ended) :
    b.Bounded calls ended := by
  cases h with
  | refused e =>
    have aside : ∀ call ∈ ([⟨.config, b.config⟩] : List Call), Aside call.query :=
      List.forall_mem_singleton.mpr trivial
    exact bounded_unserved (.error e) aside (List.forall_mem_nil _) (Nat.zero_le _) (List.forall_mem_nil _)
  | @cut head calls why p valid aside sought =>
    obtain ⟨e, rfl⟩ := search_unspent valid sought enough
    have whole := bounded_unserved (.error (.link e)) aside ((only_search ..).recorded sought)
      (searched_hellos valid sought) (List.forall_mem_nil _)
    rwa [List.append_nil] at whole
  | @unserved head calls rest found p valid aside sought closing result =>
    exact bounded_unserved result aside ((only_search ..).recorded sought)
      (searched_hellos valid sought) closing
  | @served entry head calls way way' session rest p q q' _ _ valid aside sought kept aside' aside''
      line ran all closing ends =>
    have calling := (only_search ..).recorded sought
    have onward : b.Onward p := onward_of_recorded sought kept virtual
    have whole := bounded_served valid (front_searched entry aside calling aside' aside'')
      (searched_hellos valid sought) ⟨line ▸ onward.virtual, line ▸ onward.tick, line ▸ onward.now⟩
      (by rw [line, incoming_of_recorded sought]) moves enough ran all closing ends
    simpa only [List.append_assoc, List.cons_append] using whole
  | @hot head session _ b' valid aside ran all =>
    have whole := bounded_served valid (front_aside aside) (Nat.zero_le _) ⟨virtual, rfl, Nat.le_refl _⟩ rfl
      moves enough ran all (List.forall_mem_nil _) (.inl rfl)
    rwa [List.append_nil] at whole

/-- an attempt returns, after no more HELLOs than there are intervals in its budget; the copy of the device
is entered once at most; and its command loop takes no more rounds than its commands, each with the silence
that may follow it -/
theorem enter_terminates (virtual : b.line.clock.process = none) (moves : 1 ≤ b.line.clock.tick)
    (enough : UInt64.size ≤ rounds)
    (timely : (Boot.enter rounds (depth + 2)).Throughout answer KeepsTime b) :
    ∃ calls ended b', Recorded answer (Boot.enter rounds (depth + 2)) b calls ended b' ∧
      (∃ result : Except Error Outcome, ended = result.mapError .failed) ∧
      hellos calls ≤ b.config.helloTimeoutMs.toNat ⌈/⌉ b.config.helloRetryMs.toNat ∧
      jumps calls ≤ 1 ∧
      polls (loopOf calls) ≤ ((b.line.incoming.length - taken (beforeLoop calls)) / 3 + 1) *
        (silence b.config ⌈/⌉ b.line.clock.tick.toNat + 1) := by
  have went := recorded (Prod.eta ((Boot.enter rounds (depth + 2)).run answer b)).symm
  have bounded := (attempt went timely).bounded virtual moves enough
  exact ⟨_, _, _, went, bounded.returned, bounded.hellos, bounded.jumps, bounded.polls⟩

/-- with a host that lets the device go -/
theorem enter_terminates_attended :
    (attended.line.clock.process = none ∧ 1 ≤ attended.line.clock.tick ∧
      (Boot.enter UInt64.size 2).Throughout answer KeepsTime attended) ∧
    ∃ calls b', Recorded answer (Boot.enter UInt64.size 2) attended calls (.ok .exited) b' ∧
      hellos calls ≤ 40 ∧ jumps calls ≤ 1 ∧
      polls (loopOf calls) ≤ ((6 - taken (beforeLoop calls)) / 3 + 1) * 100001 := by
  have timely : (Boot.enter UInt64.size 2).Throughout answer KeepsTime attended := by
    decide +kernel
  obtain ⟨calls, ended, b', went, -, greeted, jumped, polled⟩ :=
    enter_terminates rfl (by decide) (Nat.le_refl _) timely
  have exited : ((Boot.enter UInt64.size 2).run answer attended).1 = .ok .exited := by rfl
  rw [went.run] at exited
  cases exited
  exact ⟨⟨rfl, by decide, timely⟩, calls, b', went, greeted, jumped, polled⟩

end Board

end FlashRescue
