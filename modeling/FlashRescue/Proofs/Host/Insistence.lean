import FlashRescue.Proofs.Host.Speech

/-!
# Requests that are made again

What is on the line while a client waits for an answer, whatever its machine replies.

* `Host.packets`      what was to be written, piece by piece;
* `Host.Says`         all that a query may write; `forall_packets`;
* `Host.Drained`      bytes were thrown away until none was left; `recorded_discard`;
* `Client.Insisted`   the ways in which a request can go that is made again; `insisted`: there are no others;
* `Insisted.packets`  it is made once more than it may be made again at most.
-/

namespace FlashRescue.Host

open Dialogue

variable {σ α : Type} {answer : machine.Answerer σ} {s s' : σ} {calls calls' : List Call} {c : Client}

/-! ## Packets -/

/-- what a call would put on the line, if it is a write -/
def packet? : Call → Option (List UInt8)
  | ⟨.link (.write bytes), _⟩ => some bytes
  | _ => none

/-- what was to be written, piece by piece -/
def packets (calls : List Call) : List (List UInt8) := calls.filterMap packet?

theorem packets_append (calls calls' : List Call) : packets (calls ++ calls') = packets calls ++ packets calls' :=
  List.filterMap_append

theorem packet?_quiet {call : Call} (quiet : isWrite call.query = false) : packet? call = none := by
  obtain ⟨query, reply⟩ := call
  cases query with
  | link query =>
    cases query with
    | write bytes => cases quiet
    | _ => rfl
  | _ => rfl

theorem packets_quiet (quiet : ∀ call ∈ calls, isWrite call.query = false) : packets calls = [] :=
  List.filterMap_eq_nil_iff.mpr fun call mem => packet?_quiet (quiet call mem)

/-- a query that writes such bytes as are allowed, or none -/
def Says (allowed : List UInt8 → Prop) : machine.Query → Prop
  | .link (.write bytes) => allowed bytes
  | _ => True

theorem says_of_quiet {allowed : List UInt8 → Prop} (query : machine.Query) (quiet : isWrite query = false) :
    Says allowed query := by
  cases query with
  | link query =>
    cases query with
    | write _ => cases quiet
    | read _ | poll => trivial
  | now | sleep _ | print _ | openPort _ _ _ | readFile _ => trivial

theorem says_of_writes {allowed : List UInt8 → Prop} {bytes : List UInt8} (good : allowed bytes)
    (query : machine.Query) (writes : Writes bytes query) : Says allowed query := by
  cases query with
  | link query =>
    cases query with
    | write written =>
      cases writes
      exact good
    | read _ | poll => trivial
  | now | sleep _ | print _ | openPort _ _ _ | readFile _ => trivial

theorem forall_packets {allowed : List UInt8 → Prop} (kept : ∀ call ∈ calls, Says allowed call.query) :
    ∀ bytes ∈ packets calls, allowed bytes := by
  intro bytes mem
  obtain ⟨⟨query, reply⟩, among, same⟩ := List.mem_filterMap.mp mem
  have good := kept _ among
  cases query with
  | link query =>
    cases query with
    | write written =>
      cases same
      exact good
    | read _ | poll => cases same
  | now | sleep _ | print _ | openPort _ _ _ | readFile _ => cases same

theorem packets_demand {bytes : List UInt8} {ended : Except (Stop Error) Unit}
    (h : Recorded answer (demand (Link.write bytes) : Talk Unit) s calls ended s') : packets calls = [bytes] := by
  obtain ⟨rfl, -, -⟩ := h.unique (recorded_write bytes s)
  rfl

/-! ## What is thrown away -/

/-- a byte was there, and was thrown away -/
def thrown (byte : Vector UInt8 1) : List Call := [⟨.link .poll, true⟩, ⟨.link (.read 1), .ok byte⟩]

/-- bytes were thrown away until none was left -/
def Drained (calls : List Call) : Prop :=
  ∃ bytes : List (Vector UInt8 1), calls = bytes.flatMap thrown ++ [⟨.link .poll, false⟩]

/-- what holds of a poll and of a byte holds of all that was asked for while bytes were thrown away -/
theorem forall_mem_thrown {p : Call → Prop} (polled : p ⟨.link .poll, true⟩)
    (read : ∀ byte, p ⟨.link (.read 1), .ok byte⟩) (bytes : List (Vector UInt8 1)) :
    ∀ call ∈ bytes.flatMap thrown, p call := by
  intro call mem
  obtain ⟨byte, -, among⟩ := List.mem_flatMap.mp mem
  rcases List.mem_cons.mp among with rfl | among
  · exact polled
  · cases List.mem_singleton.mp among
    exact read byte

theorem Drained.forall_mem {p : Call → Prop} (h : Drained calls) (polled : ∀ queued, p ⟨.link .poll, queued⟩)
    (read : ∀ byte, p ⟨.link (.read 1), .ok byte⟩) : ∀ call ∈ calls, p call := by
  obtain ⟨bytes, rfl⟩ := h
  exact List.forall_mem_append.mpr
    ⟨forall_mem_thrown (polled true) read bytes, List.forall_mem_singleton.mpr (polled false)⟩

theorem Drained.silent (h : Drained calls) : packets calls = [] :=
  packets_quiet (h.forall_mem (fun _ => rfl) fun _ => rfl)

namespace Client

theorem recorded_discard (h : Recorded answer c.discard s calls (.ok ()) s') : Drained calls := by
  obtain ⟨bytes, rest, rfl, ⟨-, rfl⟩ | ⟨e, same, -⟩ | ⟨same, -⟩⟩ := recorded_discardFor c.rounds h
  · exact ⟨bytes, rfl⟩
  · cases same
  · cases same

theorem packets_discard {ended : Except (Stop Error) Unit} (h : Recorded answer c.discard s calls ended s') :
    packets calls = [] :=
  packets_quiet (c.only_discard.recorded h)

/-! ## Insisting -/

/-- the ways in which a request can go that is made again when no answer comes, so many times at most -/
inductive Insisted (answer : machine.Answerer σ) (c : Client) (request : Talk α) :
    (again : Nat) → List Call → Except (Stop Error) α → Prop
  /-- what was there cannot be thrown away -/
  | stuck {again : Nat} {calls : List Call} {why : Stop Error} {s s' : σ}
      (drain : Recorded answer c.discard s calls (.error why) s') :
      Insisted answer c request again calls (.error why)
  /-- the request is made for the last time -/
  | last {again : Nat} {before calls : List Call} {ended : Except (Stop Error) α} {s s₁ s' : σ}
      (drain : Recorded answer c.discard s before (.ok ()) s₁)
      (asked : Recorded answer request s₁ calls ended s')
      (final : ∀ e, ended = .error (.failed e) → e.isTimeout = true → again = 0) :
      Insisted answer c request again (before ++ calls) ended
  /-- no answer comes -/
  | late {again : Nat} {before calls rest : List Call} {e : Error} {ended : Except (Stop Error) α}
      {s s₁ s' : σ} (drain : Recorded answer c.discard s before (.ok ()) s₁)
      (asked : Recorded answer request s₁ calls (.error (.failed e)) s') (late : e.isTimeout = true)
      (more : Insisted answer c request again rest ended) :
      Insisted answer c request (again + 1) (before ++ (calls ++ rest)) ended

theorem insisted {request : Talk α} {ended : Except (Stop Error) α} {again : Nat}
    (h : Recorded answer (c.insist request again) s calls ended s') :
    Insisted answer c request again calls ended := by
  induction again generalizing s calls with
  | zero =>
    rcases h.of_bind with ⟨why, rfl, stopped⟩ | ⟨before, _, s₁, rest, rfl, drain, asked⟩
    · exact .stuck stopped
    · exact .last drain asked fun _ _ _ => rfl
  | succ again ih =>
    rcases h.of_bind with ⟨why, rfl, stopped⟩ | ⟨before, _, s₁, rest, rfl, drain, trying⟩
    · exact .stuck stopped
    rcases trying.of_bind with ⟨why, rfl, stopped⟩ | ⟨tries, tried_, s₂, rest, rfl, tries_, further⟩
    · obtain ⟨asked, other⟩ := stopped.of_trial_stopped
      exact .last drain asked fun e same => absurd (Except.error.inj same) (other e)
    · cases tried_ with
      | ok value =>
        obtain ⟨rfl, rfl, -⟩ := further.unique (recorded_done value s₂)
        rw [List.append_nil]
        exact .last drain tries_.of_trial_ok nofun
      | error e =>
        have asked := tries_.of_trial_failed
        have further : Recorded answer (if e.isTimeout then c.insist request again else throw e) s₂ rest
          ended s' := further
        by_cases late : e.isTimeout = true
        · rw [if_pos late] at further
          exact .late drain asked late (ih further)
        · rw [if_neg late] at further
          obtain ⟨rfl, rfl, -⟩ := further.unique (recorded_stop (.failed e) s₂)
          rw [List.append_nil]
          refine .last drain asked fun e' same timeout => ?_
          cases same
          exact absurd timeout late

/-- a request that writes one packet is written once more than it may be made again at most, and if it was
answered then at least once -/
theorem Insisted.packets {request : Talk α} {ended : Except (Stop Error) α} {again : Nat}
    {bytes : List UInt8} (once : ∀ {s s' calls} {ended : Except (Stop Error) α},
      Recorded answer request s calls ended s' → packets calls = [bytes])
    (h : Insisted answer c request again calls ended) :
    ∃ k ≤ again + 1, packets calls = List.replicate k bytes ∧ ∀ value, ended = .ok value → 1 ≤ k := by
  induction h with
  | stuck drain => exact ⟨0, Nat.zero_le _, packets_discard drain, nofun⟩
  | last drain asked final =>
    refine ⟨1, Nat.le_add_left .., ?_, fun _ _ => Nat.le_refl 1⟩
    rw [packets_append, packets_discard drain, once asked]
    rfl
  | late drain asked late more ih =>
    obtain ⟨k, le, same, -⟩ := ih
    refine ⟨k + 1, Nat.succ_le_succ le, ?_, fun _ _ => Nat.le_add_left ..⟩
    rw [packets_append, packets_append, packets_discard drain, once asked, same]
    rfl

end Client

end FlashRescue.Host
