import FlashRescue.Proofs.Session.Vigil

/-!
# When a session times out

The host's time starts anew with the first reading of the clock after the flash service was set up, and after
each command that was seen, whatever became of it.

* `Session.Due`       the next reading is such a one;
* `Session.Awaited`   what follows it: a command is seen in time and read, or the session times out on time;
* `Session.Punctual`  so it is, or the session is over with this reading;
* `Vigil.spots`       it is so at every such reading;
* `Vigil.silenced`    and no session times out otherwise;
* `times_out_exactly` a session with its host.
-/

namespace FlashRescue

open Device Device.Session Dialogue

namespace Device.Session

/-! ## Marks -/

/-- whether the reading to come is one from which on the host is silent, after one more call -/
def mark (due : Bool) : Call → Bool
  | ⟨.flash .init, .ok ()⟩ | ⟨.link .poll, true⟩ => true
  | ⟨.now, _⟩ => false
  | _ => due

/-- since the flash service was set up or a command was seen the clock was not looked at -/
def Due (calls : List Call) : Bool := calls.foldl mark false

/-- nothing is seen on the line, or the clock is read -/
def Idling : Call → Prop
  | ⟨.link .poll, false⟩ | ⟨.now, _⟩ => True
  | _ => False

theorem mark_working {call : Call} (h : Working call.query) (due : Bool) : mark due call = due := by
  obtain ⟨query, reply⟩ := call
  cases h with
  | flash access => cases access <;> rfl
  | _ => rfl

theorem foldl_mark_working {calls : List Call} (h : ∀ call ∈ calls, Working call.query) (due : Bool) :
    calls.foldl mark due = due := by
  induction calls with
  | nil => rfl
  | cons call calls ih =>
    obtain ⟨first, rest⟩ := List.forall_mem_cons.mp h
    rw [List.foldl_cons, mark_working first, ih rest]

/-! ## Readings -/

/-- `P` holds of each reading from which on the host is silent, with the bytes read before and the calls after
it; `due` and `used` are what the calls before the list have come to -/
def Spots (P : (used : Nat) → UInt64 → (after : List Call) → Prop) :
    (due : Bool) → (used : Nat) → List Call → Prop
  | _, _, [] => True
  | due, used, call :: calls =>
    (∀ time, due = true → call = ⟨.now, time⟩ → P used time calls) ∧
      Spots P (mark due call) (used + took call) calls

section
variable {P : (used : Nat) → UInt64 → (after : List Call) → Prop} {due : Bool} {used : Nat}
  {calls : List Call}

theorem Spots.apply (h : Spots P due used calls) {before after : List Call} {time : UInt64}
    (split : calls = before ++ ⟨.now, time⟩ :: after) (marked : before.foldl mark due = true) :
    P (used + taken before) time after := by
  induction before generalizing due used calls with
  | nil =>
    subst split
    exact h.1 time marked rfl
  | cons call before ih =>
    subst split
    have rest := ih h.2 rfl marked
    rwa [Nat.add_assoc, ← taken_cons] at rest

/-- the work on a command has no such readings -/
theorem spots_working (working : ∀ call ∈ calls, Working call.query) {rest : List Call}
    (h : Spots P due (used + taken calls) rest) : Spots P due used (calls ++ rest) := by
  induction calls generalizing used with
  | nil => exact h
  | cons call calls ih =>
    obtain ⟨first, others⟩ := List.forall_mem_cons.mp working
    refine ⟨?_, ?_⟩
    · rintro time - rfl
      cases first
    · rw [mark_working first]
      apply ih others
      rwa [Nat.add_assoc, ← taken_cons]

end

/-! ## What follows -/

/-- what follows the reading `last`, from which on the host is silent, with some input unread.  A command is
seen and read, if its first byte could be seen by the tick at which the time is over; or else, at this tick and
with the input as it was, the session times out -/
inductive Awaited (config : Config) (tick last : UInt64) (unread : List (UInt64 × UInt8)) :
    List Call → Except (Stop Error) Outcome → List (UInt64 × UInt8) → Prop
  | heard (idle : List Call) {rest : List Call} {entry : UInt64 × UInt8}
      {reply : Except LinkError (Vector UInt8 Command.size)} {ended : Except (Stop Error) Outcome}
      {left : List (UInt64 × UInt8)}
      (idling : ∀ call ∈ idle, Idling call) (front : unread.head? = some entry)
      (intime : entry.1.toNat ≤ last.toNat + patience config tick * tick.toNat) :
      Awaited config tick last unread
        (idle ++ ⟨.link .poll, true⟩ :: ⟨.delay (Word.mulSat config.pollSettleMs Timing.usPerMs), ()⟩ ::
          ⟨.link (.read Command.size), reply⟩ :: rest) ended left
  | silent (idle : List Call) {time : UInt64} (idling : ∀ call ∈ idle, Idling call)
      (late : ∀ entry ∈ unread.head?, last.toNat + patience config tick * tick.toNat < entry.1.toNat)
      (elapsed : last.toNat + silence config ≤ time.toNat)
      (soon : time.toNat < last.toNat + silence config + tick.toNat) :
      Awaited config tick last unread (idle ++ [⟨.now, time⟩]) (.error (.failed .livenessTimeout)) unread

/-- what is so after the reading `time`, from which on the host is silent, when `used` bytes of the input were
read: the session is over with it, or its host is awaited -/
def Punctual (config : Config) (tick : UInt64) (input : List (UInt64 × UInt8))
    (ended : Except (Stop Error) Outcome) (left : List (UInt64 × UInt8)) (used : Nat) (time : UInt64)
    (after : List Call) : Prop :=
  (after = [] ∧ ∃ outcome, ended = .ok outcome) ∨
    Awaited config tick time (input.drop used) after ended left

theorem Awaited.idle {config : Config} {tick last : UInt64} {unread left : List (UInt64 × UInt8)}
    {calls : List Call} {ended : Except (Stop Error) Outcome} {call : Call} (idle : Idling call)
    (h : Awaited config tick last unread calls ended left) :
    Awaited config tick last unread (call :: calls) ended left := by
  cases h with
  | heard calls idling front intime =>
    exact .heard (call :: calls) (List.forall_mem_cons.mpr ⟨idle, idling⟩) front intime
  | silent calls idling late elapsed soon =>
    exact .silent (call :: calls) (List.forall_mem_cons.mpr ⟨idle, idling⟩) late elapsed soon

theorem Punctual.awaited {config : Config} {tick time : UInt64} {input left : List (UInt64 × UInt8)} {used : Nat}
    {call : Call} {calls : List Call} {ended : Except (Stop Error) Outcome}
    (h : Punctual config tick input ended left used time (call :: calls)) :
    Awaited config tick time (input.drop used) (call :: calls) ended left :=
  h.resolve_left fun empty => List.cons_ne_nil _ _ empty.1

end Device.Session

namespace Board

variable {config : Config} {b b' b₁ : Board} {last : UInt64} {k rounds : Nat} {nacks : Bool}
  {calls : List Call} {ended : Except (Stop Error) Outcome}

theorem seen_iff : b.seen = true ↔ ∃ entry, b.line.incoming.head? = some entry ∧
    entry.1.toNat ≤ b.line.clock.now.toNat := by
  rw [seen]
  cases b.line.incoming.head? with
  | none => simp
  | some entry => simp [UInt64.le_iff_toNat_le]

/-- a command that is seen at the `k`-th tick was there in time -/
theorem Poised.heard {step : Except (Stop Error) Session.Step} (h : b.Poised config last k)
    (seen : b.seen = true) (heeded : Recorded answer (heed config nacks) b calls step b₁)
    (rest : List Call) {left : List (UInt64 × UInt8)} :
    Awaited config b.line.clock.tick last b.line.incoming (⟨.link .poll, true⟩ :: (calls ++ rest)) ended
      left := by
  obtain ⟨entry, front, visible⟩ := seen_iff.mp seen
  obtain ⟨reply, rest', rfl, -⟩ := heed_asks heeded
  have within := Nat.mul_le_mul_right b.line.clock.tick.toNat h.within
  have intime : entry.1.toNat ≤
      last.toNat + patience config b.line.clock.tick * b.line.clock.tick.toNat := by
    rw [h.at_] at visible
    omega
  exact .heard [] (List.forall_mem_nil _) front intime

theorem Vigil.awaited (h : Vigil config rounds k last b calls ended b')
    (finished : ended ≠ .error .unfinished) (long : 1 < patience config b.line.clock.tick)
    (some_ : 0 < silence config) :
    Awaited config b.line.clock.tick last b.line.incoming calls ended b'.line.incoming := by
  induction h with
  | spent => exact absurd rfl finished
  | @cut _ _ _ _ _ _ calls _ poised seen heeded severed =>
    rw [← List.append_nil calls]
    exact poised.heard seen heeded []
  | left poised seen heeded => exact poised.heard seen heeded _
  | @expired _ last b poised unseen fits =>
    have at_ := poised.at_
    have least : silence config ≤ patience config b.line.clock.tick * b.line.clock.tick.toNat :=
      silence_le poised.moves
    have most := patience_mul_lt poised.moves some_
    refine .silent [⟨.link .poll, false⟩] ?_ ?_ ?_ ?_
    · exact List.forall_mem_singleton.mpr trivial
    · intro entry front
      rw [← at_]
      apply Nat.lt_of_not_le
      intro visible
      have seen := seen_iff.mpr ⟨entry, front, visible⟩
      rw [unseen] at seen
      cases seen
    · omega
    · omega
  | idle poised unseen fits soon rest ih =>
    exact .idle trivial (.idle trivial (ih finished long))
  | @hasty _ _ _ _ _ _ b₁ _ poised seen heeded onward hasty =>
    rw [onward.tick] at hasty
    omega
  | heeded poised seen heeded onward fits fits' soon rest ih => exact poised.heard seen heeded _

/-- each reading from which on the host is silent -/
theorem Vigil.spots (h : Vigil config rounds k last b calls ended b')
    (finished : ended ≠ .error .unfinished) (long : 1 < patience config b.line.clock.tick)
    (some_ : 0 < silence config) {input : List (UInt64 × UInt8)} {used : Nat}
    (unread : b.line.incoming = input.drop used) :
    Spots (Punctual config b.line.clock.tick input ended b'.line.incoming) false used calls := by
  induction h generalizing used with
  | spent => trivial
  | @cut _ _ _ _ _ _ calls _ poised seen heeded severed =>
    refine ⟨nofun, ?_⟩
    rw [← List.append_nil calls]
    exact spots_working ((only_heed ..).recorded heeded) trivial
  | @left _ _ _ _ _ _ _ outcome poised seen heeded =>
    refine ⟨nofun, spots_working ((only_heed ..).recorded heeded) ⟨?_, trivial⟩⟩
    rintro time - -
    exact .inl ⟨rfl, outcome, rfl⟩
  | expired => exact ⟨nofun, nofun, trivial⟩
  | idle poised unseen fits soon rest ih => exact ⟨nofun, nofun, ih finished long unread⟩
  | @hasty _ _ _ _ _ _ b₁ _ poised seen heeded onward hasty =>
    rw [onward.tick] at hasty
    omega
  | @heeded _ _ _ _ _ b b₁ b' calls calls' ended poised seen heeded onward fits fits' soon rest ih =>
    have unread₁ : b₁.line.incoming = input.drop (used + taken calls) := by
      rw [incoming_of_recorded heeded, unread, List.drop_drop]
    have awaited : Awaited config b₁.line.clock.tick b₁.line.clock.now b₁.line.incoming calls' ended
        b'.line.incoming := rest.awaited finished soon some_
    rw [onward.tick, unread₁] at awaited
    refine ⟨nofun, spots_working ((only_heed ..).recorded heeded) ⟨?_, nofun, ?_⟩⟩
    · rintro time - same
      cases same
      exact .inr (.idle trivial awaited)
    · have spots := ih finished soon unread₁
      rw [show b₁.ticked.ticked.line.clock.tick = _ from onward.tick] at spots
      exact spots

/-- a loop that times out does so after readings and polls that find nothing, counted from where it began or
from a reading within it -/
theorem Vigil.silenced (h : Vigil config rounds k last b calls ended b')
    (silent : ended = .error (.failed .livenessTimeout)) :
    (∃ idle time, calls = idle ++ [⟨.now, time⟩] ∧ ∀ call ∈ idle, Idling call) ∨
      ∃ before since idle time, calls = before ++ ⟨.now, since⟩ :: (idle ++ [⟨.now, time⟩]) ∧
        before.foldl mark false = true ∧ ∀ call ∈ idle, Idling call := by
  induction h with
  | spent => cases silent
  | cut poised seen heeded severed =>
    obtain ⟨e, rfl⟩ := severed
    cases silent
  | left => cases silent
  | expired =>
    exact .inl ⟨[⟨.link .poll, false⟩], _, rfl, List.forall_mem_singleton.mpr trivial⟩
  | idle poised unseen fits soon rest ih =>
    rcases ih silent with ⟨idle, time, rfl, idling⟩ | ⟨before, since, idle, time, rfl, due, idling⟩
    · exact .inl ⟨⟨.link .poll, false⟩ :: ⟨.now, _⟩ :: idle, time, rfl,
        List.forall_mem_cons.mpr ⟨trivial, List.forall_mem_cons.mpr ⟨trivial, idling⟩⟩⟩
    · exact .inr ⟨⟨.link .poll, false⟩ :: ⟨.now, _⟩ :: before, since, idle, time, rfl, due, idling⟩
  | @hasty _ _ _ _ _ _ _ calls poised seen heeded onward hasty =>
    refine .inr ⟨⟨.link .poll, true⟩ :: calls, _, [], _, rfl, ?_, List.forall_mem_nil _⟩
    exact foldl_mark_working ((only_heed ..).recorded heeded) true
  | @heeded _ _ _ _ _ _ b₁ _ calls calls' _ poised seen heeded onward fits fits' soon rest ih =>
    have due := foldl_mark_working ((only_heed ..).recorded heeded) true
    rcases ih silent with ⟨idle, time, rfl, idling⟩ | ⟨before, since, idle, time, rfl, due', idling⟩
    · exact .inr ⟨⟨.link .poll, true⟩ :: calls, _, ⟨.now, _⟩ :: idle, time, rfl, due,
        List.forall_mem_cons.mpr ⟨trivial, idling⟩⟩
    · refine .inr ⟨⟨.link .poll, true⟩ :: (calls ++ ⟨.now, b₁.line.clock.now⟩ ::
        ⟨.now, b₁.ticked.line.clock.now⟩ :: before), since, idle, time, ?_, ?_, idling⟩
      · simp only [List.cons_append, List.append_assoc]
      · rw [List.foldl_cons, List.foldl_append]
        exact due'

/-! ## Sessions -/

/-- on a clock that moves by less than the timeout and does not wrap around, a session times out exactly when
it should.  After every reading `time` from which on the host is silent, unless the session is over with it, the
next command is read if its first byte could be seen within `patience` ticks, which is so if it could be seen
within the timeout; or else the session times out at that tick, and the input is as it was.  No other session
times out -/
theorem times_out_exactly (valid : config.validate = .ok ()) (virtual : b.line.clock.process = none)
    (moves : 1 ≤ b.line.clock.tick) (long : b.line.clock.tick.toNat < silence config)
    (enough : UInt64.size ≤ rounds)
    (timely : (Session.run config rounds).Throughout answer KeepsTime b)
    (h : Recorded answer (Session.run config rounds) b calls ended b') :
    (∀ before time after, calls = before ++ ⟨.now, time⟩ :: after → Due before = true →
      Punctual config b.line.clock.tick b.line.incoming ended b'.line.incoming (taken before) time
        after) ∧
    silence config ≤ patience config b.line.clock.tick * b.line.clock.tick.toNat ∧
    (ended = .error (.failed .livenessTimeout) → ∃ before since idle time,
      calls = before ++ ⟨.now, since⟩ :: (idle ++ [⟨.now, time⟩]) ∧ Due before = true ∧
        ∀ call ∈ idle, Idling call) := by
  have some_ := silence_positive valid
  have long : 1 < patience config b.line.clock.tick := by
    apply Nat.lt_of_not_le
    rw [patience_le_iff moves, Nat.one_mul]
    omega
  rcases vigil_of_session valid virtual moves timely h with ⟨e, rfl, rfl⟩ |
    ⟨b₁, rest, rfl, onward, unread, poised, vigil⟩
  · refine ⟨?_, silence_le moves, nofun⟩
    intro before time after split
    cases before with
    | nil => cases split
    | cons call before => cases before <;> cases split
  have tick : b₁.ticked.line.clock.tick = b.line.clock.tick := onward.tick
  have enough : UInt64.size ≤ b₁.ticked.line.clock.now.toNat + rounds := Nat.le_add_left_of_le enough
  have finished := vigil.finished enough
  have unread : b₁.ticked.line.incoming = b.line.incoming.drop 0 := unread
  have long : 1 < patience config b₁.ticked.line.clock.tick := by rwa [tick]
  have awaited := vigil.awaited finished long some_
  have spots := vigil.spots finished long some_ unread
  rw [tick] at awaited spots
  rw [unread] at awaited
  refine ⟨?_, silence_le moves, fun silent => ?_⟩
  · have all : Spots (Punctual config b.line.clock.tick b.line.incoming ended b'.line.incoming)
        false 0 (⟨.flash .init, .ok ()⟩ :: ⟨.now, b₁.line.clock.now⟩ :: rest : List Call) := by
      refine ⟨nofun, ?_, spots⟩
      rintro time - same
      cases same
      exact .inr awaited
    intro before time after split due
    have spot := all.apply split due
    rwa [Nat.zero_add] at spot
  · rcases vigil.silenced silent with ⟨idle, time, rfl, idling⟩ |
      ⟨before, since, idle, time, rfl, due, idling⟩
    · exact ⟨[⟨.flash .init, .ok ()⟩], _, idle, time, rfl, rfl, idling⟩
    · exact ⟨⟨.flash .init, .ok ()⟩ :: ⟨.now, _⟩ :: before, since, idle, time, rfl, due, idling⟩

/-! ## A host that takes its time -/

/-- the timeout is over at the second tick of the clock below -/
def impatient : Config := { livenessTimeoutMs := 1 }

/-- a host is heard after the timeout, but by that tick, and lets the device go at some moment -/
def hesitant (moment : UInt64) : Board :=
  { standard 1 with
    line := (({ clock := .virtual 600000 } : Line).push 1100000 (Command.of .nackMode 0).encode).push moment
      (Command.of .exit 0).encode }

def heardOnce : List Call :=
  [⟨.link .poll, false⟩, ⟨.now, (600000 : UInt64)⟩, ⟨.link .poll, true⟩, ⟨.delay 10000, ()⟩,
    ⟨.link (.read Command.size), .ok #v[0x16, 0, 0]⟩, ⟨.link (.write Response.ack.encode), .ok ()⟩]

def heardTwice : List Call :=
  [⟨.now, (11800000 : UInt64)⟩, ⟨.link .poll, true⟩, ⟨.delay 10000, ()⟩,
    ⟨.link (.read Command.size), .ok #v[0x15, 0, 0]⟩]

def unheard : List Call := [⟨.now, (11800000 : UInt64)⟩, ⟨.link .poll, false⟩, ⟨.now, (12400000 : UInt64)⟩]

/-- the host's time starts anew with the first command -/
def fromFirst (rest : List Call) : List Call :=
  ⟨.flash .init, .ok ()⟩ :: ⟨.now, (0 : UInt64)⟩ :: (heardOnce ++ ⟨.now, (11200000 : UInt64)⟩ :: rest)

/-- the second command is read if it comes with the tick, and not if it comes a nanosecond later -/
theorem times_out_exactly_hesitant :
    (impatient.validate = .ok () ∧ (1 : UInt64) ≤ 600000 ∧ (600000 : UInt64).toNat < silence impatient ∧
      ∀ moment ∈ [12400000, 12400001], (hesitant moment).line.clock = .virtual 600000 ∧
        (Session.run impatient UInt64.size).Throughout answer KeepsTime (hesitant moment)) ∧
    (∃ b', Recorded answer (Session.run impatient UInt64.size) (hesitant 12400000)
        (fromFirst (heardTwice ++ [⟨.now, (22400000 : UInt64)⟩])) (.ok .exited) b' ∧
      Awaited impatient 600000 11200000 ((hesitant 12400000).line.incoming.drop 3)
        (heardTwice ++ [⟨.now, (22400000 : UInt64)⟩]) (.ok .exited) b'.line.incoming ∧
      Punctual impatient 600000 (hesitant 12400000).line.incoming (.ok .exited) b'.line.incoming 6 22400000 []) ∧
    ∃ b', Recorded answer (Session.run impatient UInt64.size) (hesitant 12400001) (fromFirst unheard)
        (.error (.failed .livenessTimeout)) b' ∧
      Awaited impatient 600000 0 (hesitant 12400001).line.incoming
        (heardOnce ++ ⟨.now, (11200000 : UInt64)⟩ :: unheard) (.error (.failed .livenessTimeout))
        b'.line.incoming ∧
      Awaited impatient 600000 11200000 ((hesitant 12400001).line.incoming.drop 3) unheard
        (.error (.failed .livenessTimeout)) b'.line.incoming := by
  have timely : ∀ moment ∈ [12400000, 12400001], (hesitant moment).line.clock = .virtual 600000 ∧
      (Session.run impatient UInt64.size).Throughout answer KeepsTime (hesitant moment) :=
    List.forall_mem_cons.mpr ⟨⟨rfl, by decide +kernel⟩, List.forall_mem_singleton.mpr ⟨rfl, by decide +kernel⟩⟩
  obtain ⟨b₁, went₁⟩ : ∃ b', Recorded answer (Session.run impatient UInt64.size) (hesitant 12400000)
      (fromFirst (heardTwice ++ [⟨.now, (22400000 : UInt64)⟩])) (.ok .exited) b' := ⟨_, recorded rfl⟩
  obtain ⟨b₂, went₂⟩ : ∃ b', Recorded answer (Session.run impatient UInt64.size) (hesitant 12400001)
      (fromFirst unheard) (.error (.failed .livenessTimeout)) b' := ⟨_, recorded rfl⟩
  have punctual₁ := (times_out_exactly rfl rfl (by decide) (by decide) (Nat.le_refl _)
    (timely 12400000 (by decide)).2 went₁).1
  have punctual₂ := (times_out_exactly rfl rfl (by decide) (by decide) (Nat.le_refl _)
    (timely 12400001 (by decide)).2 went₂).1
  let first : List Call := ⟨.flash .init, .ok ()⟩ :: ⟨.now, (0 : UInt64)⟩ :: heardOnce
  refine ⟨⟨rfl, by decide, by decide, timely⟩, ⟨b₁, went₁, ?_, ?_⟩, b₂, went₂, ?_, ?_⟩
  · exact (punctual₁ first 11200000 _ rfl rfl).awaited
  · exact punctual₁ (first ++ ⟨.now, (11200000 : UInt64)⟩ :: heardTwice) 22400000 [] rfl rfl
  · exact (punctual₂ [⟨.flash .init, .ok ()⟩] 0 _ rfl rfl).awaited
  · exact (punctual₂ first 11200000 _ rfl rfl).awaited

end Board

end FlashRescue
