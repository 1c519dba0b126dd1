import FlashRescue.Proofs.Host.Talk

/-!
# A host whose link takes no time

What reaches the host is laid down in advance, every byte with the moment when it was sent, from which on
it is there.  Whatever the host does may take it some time.

* `Listener`          the bytes to come, the time, and what the host has sent, with the times;
* `Listener.answer`   replies to the queries of a host;
* `Later`             what no query but a write changes: nothing is sent, nothing is added to what is to come,
                      and the time does not go back; `later_run`;
* `run_discardFor`    all that is there is thrown away.
-/

namespace FlashRescue

open Host Dialogue

structure Listener where
  /-- the bytes to come, with the moments from which on they are there -/
  arrivals : List (Nat × UInt8)
  /-- the time, in nanoseconds -/
  now : Nat := 0
  /-- how long a read waits -/
  patience : Nat
  /-- how long the host takes before each of its queries -/
  lag : Nat → Nat := fun _ => 0
  queries : Nat := 0
  sent : List (Nat × List UInt8) := []

namespace Listener

def tick (s : Listener) : Listener :=
  { s with now := s.now + s.lag s.queries, queries := s.queries + 1 }

/-- the next `n` bytes, once the last of them is there; none if that is too late -/
def read (n : Nat) (s : Listener) : Except LinkError (Vector UInt8 n) × Listener :=
  let front := s.arrivals.take n
  if enough : front.length = n ∧ ∀ entry ∈ front, entry.1 ≤ s.now + s.patience then
    (.ok ⟨(front.map (·.2)).toArray, by simpa using enough.1⟩,
      { s with
        arrivals := s.arrivals.drop n
        now := front.foldl (fun now entry => max now entry.1) s.now })
  else (.error .timedOut, { s with now := s.now + s.patience })

def poll (s : Listener) : Bool := s.arrivals.head?.any (·.1 ≤ s.now)

/-- replies to the queries of a host, who has nothing but the link and a clock -/
def answer : machine.Answerer Listener
  | .link (.read n) => fun s => s.tick.read n
  | .link (.write bytes) => fun s =>
    (.ok (), { s.tick with sent := s.tick.sent ++ [(s.tick.now, bytes)] })
  | .link .poll => fun s => (s.tick.poll, s.tick)
  | .now => fun s => (s.tick.now, s.tick)
  | .sleep ms => fun s => ((), { s.tick with now := s.tick.now + ms.toNat * Timing.nsPerMs.toNat })
  | .print _ => fun s => ((), s.tick)
  | .openPort _ _ _ => fun s => (.error "no other port", s.tick)
  | .readFile _ => fun s => (.error ⟨.notFound, none⟩, s.tick)

variable {s s' : Listener}

/-! ## Later on -/

structure Later (s s' : Listener) : Prop where
  arrivals : s'.arrivals <:+ s.arrivals
  now : s.now ≤ s'.now
  sent : s'.sent = s.sent

theorem Later.refl (s : Listener) : Later s s := ⟨List.suffix_rfl, Nat.le_refl _, rfl⟩

theorem Later.trans {s'' : Listener} (h : Later s s') (h' : Later s' s'') : Later s s'' :=
  ⟨h'.arrivals.trans h.arrivals, Nat.le_trans h.now h'.now, h'.sent.trans h.sent⟩

theorem later_tick (s : Listener) : Later s s.tick := ⟨List.suffix_rfl, Nat.le_add_right _ _, rfl⟩

theorem le_foldl_max (entries : List (Nat × UInt8)) (now : Nat) :
    now ≤ entries.foldl (fun now entry => max now entry.1) now := by
  induction entries generalizing now with
  | nil => exact Nat.le_refl _
  | cons entry entries ih => exact Nat.le_trans (Nat.le_max_left _ _) (ih _)

theorem later_read (n : Nat) (s : Listener) : Later s (s.read n).2 := by
  rw [read]
  split
  · exact ⟨List.drop_suffix n _, le_foldl_max _ _, rfl⟩
  · exact ⟨List.suffix_rfl, Nat.le_add_right _ _, rfl⟩

theorem later_answer {query : machine.Query} (quiet : isWrite query = false) (s : Listener) :
    Later s (answer query s).2 := by
  cases query with
  | link query =>
    cases query with
    | write bytes => cases quiet
    | poll => exact s.later_tick
    | read n => exact s.later_tick.trans (s.tick.later_read n)
  | sleep ms => exact s.later_tick.trans ⟨List.suffix_rfl, Nat.le_add_right _ _, rfl⟩
  | now | print _ | openPort _ _ _ | readFile _ => exact s.later_tick

theorem later_run {α : Type} {d : Talk α} (quiet : d.Only fun query => isWrite query = false)
    (s : Listener) : Later s (d.run answer s).2 := by
  have step : ∀ query s', isWrite query = false → Later s s' → Later s (answer query s').2 :=
    fun _ s' kind later => later.trans (later_answer kind s')
  exact quiet.run step (.refl s)

/-! ## Transfers -/

/-- a byte that was read was there by then -/
theorem run_read_ok {bytes : Vector UInt8 1}
    (h : (Link.read 1 : Talk _).run answer s = (.ok (.ok bytes), s')) :
    ∃ entry ∈ s.arrivals, entry.1 ≤ s'.now := by
  have transfer : (Link.read 1 : Talk _).run answer s =
      (.ok (s.tick.read 1).1, (s.tick.read 1).2) := rfl
  rw [transfer, read] at h
  split at h
  · rename_i enough
    injection h with _ after
    have time : s'.now = (s.tick.arrivals.take 1).foldl (fun now entry => max now entry.1) s.tick.now :=
      congrArg Listener.now after.symm
    cases same : s.tick.arrivals with
    | nil =>
      rw [same] at enough
      cases enough.1
    | cons entry rest =>
      have mem : entry ∈ s.tick.arrivals := same ▸ List.mem_cons_self
      rw [time, same]
      exact ⟨entry, mem, Nat.le_max_right _ _⟩
  · cases h

/-- a byte that is there is read -/
theorem run_read_there {entry : Nat × UInt8} {rest : List (Nat × UInt8)}
    (next : s.arrivals = entry :: rest) (there : entry.1 ≤ s.now) :
    ∃ bytes s', (Link.read 1 : Talk _).run answer s = (.ok (.ok bytes), s') ∧ s'.arrivals = rest := by
  have transfer : (Link.read 1 : Talk _).run answer s =
      (.ok (s.tick.read 1).1, (s.tick.read 1).2) := rfl
  have front : s.tick.arrivals.take 1 = [entry] := by
    show s.arrivals.take 1 = [entry]
    rw [next]
    rfl
  have enough : (s.tick.arrivals.take 1).length = 1 ∧
      ∀ entry ∈ s.tick.arrivals.take 1, entry.1 ≤ s.tick.now + s.tick.patience := by
    rw [front]
    refine ⟨rfl, List.forall_mem_singleton.mpr ?_⟩
    have late : s.now ≤ s.tick.now := Nat.le_add_right _ _
    omega
  rw [read, dif_pos enough] at transfer
  refine ⟨_, _, transfer, ?_⟩
  show s.arrivals.drop 1 = rest
  rw [next]
  rfl

theorem run_discardFor {rounds : Nat} (enough : s.arrivals.length < rounds)
    (there : ∀ entry ∈ s.arrivals, entry.1 ≤ s.now) :
    ∃ s', (Client.discardFor rounds).run answer s = (.ok (), s') ∧ s'.arrivals = [] := by
  induction rounds generalizing s with
  | zero => cases enough
  | succ rounds ih =>
    have polled : (Link.poll : Talk Bool).run answer s = (.ok s.tick.poll, s.tick) := rfl
    rw [Client.discardFor, Dialogue.run_bind_ok polled]
    cases same : s.tick.arrivals with
    | nil =>
      rw [poll, same]
      exact ⟨s.tick, rfl, same⟩
    | cons entry rest =>
      have mem : entry ∈ s.tick.arrivals := same ▸ List.mem_cons_self
      have first : entry.1 ≤ s.tick.now := Nat.le_trans (there entry mem) (Nat.le_add_right _ _)
      have seen : s.tick.poll = true := by
        rw [poll, same]
        exact decide_eq_true first
      obtain ⟨bytes, s₁, taken, left⟩ := run_read_there same first
      have later := later_run (only_read 1) s.tick
      rw [taken] at later
      rw [seen, if_pos rfl, Dialogue.run_bind_ok taken]
      have fewer : s₁.arrivals.length < rounds := by
        have before : s.arrivals = entry :: rest := same
        rw [before, List.length_cons] at enough
        rw [left]
        exact Nat.lt_of_succ_lt_succ enough
      refine ih fewer fun entry mem => ?_
      have old := there entry (later.arrivals.subset mem)
      exact Nat.le_trans old (Nat.le_trans (Nat.le_add_right _ _) later.now)

end Listener

end FlashRescue
