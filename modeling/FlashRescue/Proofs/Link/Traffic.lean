import FlashRescue.Proofs.Link.Duplex

/-!
# Whatever is done at two connected ends

Reads, writes and polls at both ends in any order, and ends that are given up in between.  What was read at an end
is the front of what was written at the other one, and what is left of it settles every reply.

* `Duplex.Move`, `Duplex.Event`  what may be done at the two ends, and what came of it;
* `Duplex.play`       a number of moves;
* `Duplex.Tallies`    what was read and what is on its way is what was written; `Tallies.take` for a move,
                      `Tallies.play`;
* `Duplex.Serves`     the replies that an end gets after all that has happened;
* `lossless`          those are the replies, after any moves.
-/

namespace FlashRescue.Duplex

/-! ## Moves -/

/-- what may be done at two connected ends: one of them is asked something, or given up.  An end that was given up
is not kept from being asked: this only makes for more orders of moves than there can be -/
inductive Move where
  | ask (side : Side) (query : Link.Query)
  | drop (side : Side)

inductive Event where
  | replied (side : Side) (query : Link.Query) (reply : Link.Reply query)
  | dropped (side : Side)

def Move.take (d : Duplex) : Move → Event × Duplex
  | ask side query =>
    let (reply, d') := answer side query d
    (.replied side query reply, d')
  | drop side => (.dropped side, d.drop side)

def play : List Move → Duplex → List Event × Duplex
  | [], d => ([], d)
  | move :: moves, d =>
    let (event, d') := move.take d
    let (events, d'') := play moves d'
    (event :: events, d'')

namespace Event

/-- the bytes that were read at an end -/
def received (side : Side) : Event → List UInt8
  | replied side' (.read _) (.ok bytes) => if side' = side then bytes.toList else []
  | _ => []

/-- the bytes that were written at an end -/
def written (side : Side) : Event → List UInt8
  | replied side' (.write bytes) (.ok ()) => if side' = side then bytes else []
  | _ => []

/-- the end was given up -/
def drops (side : Side) : Event → Bool
  | dropped side' => side' = side
  | _ => false

end Event

section
variable (side : Side) (events : List Event)

/-- all that was read at an end -/
def received : List UInt8 := events.flatMap (Event.received side)

def written : List UInt8 := events.flatMap (Event.written side)

def gone : Bool := events.any (Event.drops side)

/-- what was written at the other end and not yet read at this one -/
def waiting : List UInt8 := (written side.across events).drop (received side events).length

end

/-! ## What was read and written -/

variable {d d' : Duplex} {side : Side} {events : List Event} {event : Event}

/-- what was read and what is on its way is what was written, and the ends are there that were not given up -/
structure Tallies (events : List Event) (d : Duplex) : Prop where
  bytes : ∀ side, received side events ++ d.unread side = written side.across events
  present : ∀ side, (d.endpoint side).present = !gone side events

/-- an event accounts for a change of the two ends -/
structure Accounts (d : Duplex) (event : Event) (d' : Duplex) : Prop where
  bytes : ∀ side, event.received side ++ d'.unread side = d.unread side ++ event.written side.across
  present : ∀ side, (d'.endpoint side).present = ((d.endpoint side).present && !event.drops side)

theorem Tallies.append (h : Tallies events d) (h' : Accounts d event d') : Tallies (events ++ [event]) d' := by
  constructor
  · intro side
    rw [received, written, List.flatMap_append, List.flatMap_append, List.flatMap_singleton,
      List.flatMap_singleton, List.append_assoc, h'.bytes, ← List.append_assoc]
    exact congrArg (· ++ _) (h.bytes side)
  · intro side
    rw [h'.present, h.present, gone, gone, List.any_append, List.any_cons, List.any_nil, Bool.or_false,
      Bool.not_or]

theorem across_ne (side : Side) : side ≠ side.across := by
  cases side <;> decide

/-- an end that is not given up has changed, and the event is about what is on its way there -/
theorem accounts_of_keeps (keeps : Keeps side d d') (stays : ∀ side, event.drops side = false)
    (here : event.received side ++ d'.unread side = d.unread side ++ event.written side.across)
    (there : event.received side.across = [] ∧ event.written side = []) : Accounts d event d' := by
  constructor
  · intro side'
    rcases Side.eq_or_across side side' with rfl | rfl
    · exact here
    · rw [Side.across_across, there.1, there.2, List.nil_append, List.append_nil, unread, keeps.across]
      rfl
  · intro side'
    rw [stays, Bool.not_false, Bool.and_true]
    rcases Side.eq_or_across side side' with rfl | rfl
    · exact keeps.present
    · rw [keeps.across]

theorem accounts_read (side : Side) (n : Nat) (d : Duplex) :
    Accounts d (.replied side (.read n) (read side n d).1) (read side n d).2 := by
  by_cases enough : n ≤ (d.unread side).length
  · obtain ⟨bytes, d', ran, front, rest, keeps⟩ := read_enough enough
    rw [ran]
    refine accounts_of_keeps keeps (fun _ => rfl) ?_ ⟨if_neg (across_ne side), rfl⟩
    simp [Event.received, Event.written, front, rest]
  · obtain ⟨d', ran, rest, keeps⟩ := read_short (Nat.lt_of_not_le enough)
    rw [ran]
    refine accounts_of_keeps keeps (fun _ => rfl) ?_ ⟨rfl, rfl⟩
    simp [Event.received, Event.written, rest]

theorem accounts_poll (side : Side) (d : Duplex) :
    Accounts d (.replied side .poll (poll side d).1) (poll side d).2 := by
  obtain ⟨d', ran, rest, keeps⟩ := poll_eq d side
  rw [ran]
  refine accounts_of_keeps keeps (fun _ => rfl) ?_ ⟨rfl, rfl⟩
  simp [Event.received, Event.written, rest]

theorem accounts_write (side : Side) (bytes : List UInt8) (d : Duplex) :
    Accounts d (.replied side (.write bytes) (write side bytes d).1) (write side bytes d).2 := by
  by_cases there : (d.endpoint side.across).present = true
  · obtain ⟨d', ran, more, keeps⟩ := write_present there bytes
    rw [ran]
    refine accounts_of_keeps keeps (fun _ => rfl) ?_ ⟨rfl, if_neg (across_ne side)⟩
    simp [Event.received, Event.written, Side.across_across, more]
  · have ran : write side bytes d = (.error .closed, d) := if_neg there
    have keeps : Keeps side d d := ⟨rfl, rfl⟩
    rw [ran]
    refine accounts_of_keeps keeps (fun _ => rfl) ?_ ⟨rfl, rfl⟩
    simp [Event.received, Event.written]

/-- the bytes on their way to an end that is given up are not looked at any more -/
theorem accounts_drop (side : Side) (d : Duplex) : Accounts d (.dropped side) (d.drop side) := by
  constructor
  · intro side'
    show (d.drop side).unread side' = d.unread side' ++ []
    rw [List.append_nil]
    cases side <;> cases side' <;> rfl
  · intro side'
    cases side <;> cases side' <;> simp [Event.drops, Duplex.drop, endpoint, setEndpoint]

theorem accounts_take (move : Move) (d : Duplex) : Accounts d (move.take d).1 (move.take d).2 := by
  cases move with
  | ask side query =>
    cases query with
    | read n => exact accounts_read side n d
    | write bytes => exact accounts_write side bytes d
    | poll => exact accounts_poll side d
  | drop side => exact accounts_drop side d

theorem tallies_start : Tallies [] {} :=
  ⟨fun side => by cases side <;> rfl, fun side => by cases side <;> rfl⟩

/-- whatever is done, what was read and what is on its way is what was written -/
theorem Tallies.play (h : Tallies events d) (moves : List Move) :
    Tallies (events ++ (play moves d).1) (play moves d).2 := by
  induction moves generalizing events d with
  | nil => rwa [Duplex.play, List.append_nil]
  | cons move moves ih =>
    have next := ih (h.append (accounts_take move d))
    rwa [List.append_assoc] at next

/-! ## Replies -/

/-- the replies that an end gets after all that has happened.  Only what went well counts as read or as written,
so that nothing is consumed by a read that fails, and nothing added by a write that does -/
structure Serves (events : List Event) (d : Duplex) (side : Side) : Prop where
  /-- no byte is lost, changed, read twice or out of its turn -/
  inOrder : received side events <+: written side.across events
  read_iff : ∀ n, (∃ bytes, (answer side (.read n) d).1 = .ok bytes) ↔ n ≤ (waiting side events).length
  read_ok : ∀ n bytes, (answer side (.read n) d).1 = .ok bytes → bytes.toList = (waiting side events).take n
  read_error : ∀ n e, (answer side (.read n) d).1 = .error e →
    e = if gone side.across events then .closed else .timedOut
  poll_iff : (answer side .poll d).1 = true ↔ ∃ byte, (answer side (.read 1) d).1 = .ok byte
  write_eq : ∀ bytes, (answer side (.write bytes) d).1 =
    if gone side.across events then .error .closed else .ok ()

section
variable (h : Tallies events d) (side : Side)
include h

theorem Tallies.unread_eq : d.unread side = waiting side events := by
  rw [waiting, ← h.bytes, List.drop_left]

theorem Tallies.read_enough {n : Nat} (enough : n ≤ (waiting side events).length) :
    ∃ bytes, (answer side (.read n) d).1 = .ok bytes ∧ bytes.toList = (waiting side events).take n := by
  rw [← h.unread_eq] at enough ⊢
  obtain ⟨bytes, d', ran, front, -⟩ := Duplex.read_enough enough
  exact ⟨bytes, congrArg Prod.fst ran, front⟩

theorem Tallies.read_short {n : Nat} (short : (waiting side events).length < n) :
    (answer side (.read n) d).1 = .error (if gone side.across events then .closed else .timedOut) := by
  rw [← h.unread_eq] at short
  obtain ⟨d', ran, -⟩ := Duplex.read_short short
  refine (congrArg Prod.fst ran).trans (congrArg Except.error ?_)
  rw [h.present]
  cases gone side.across events <;> rfl

theorem Tallies.poll_iff : (answer side .poll d).1 = true ↔ 1 ≤ (waiting side events).length := by
  obtain ⟨d', ran, -⟩ := poll_eq d side
  have reply : (answer side .poll d).1 = !(d.unread side).isEmpty := congrArg Prod.fst ran
  rw [reply, h.unread_eq]
  cases waiting side events <;> simp

theorem Tallies.write_eq (bytes : List UInt8) :
    (answer side (.write bytes) d).1 = if gone side.across events then .error .closed else .ok () := by
  show (write side bytes d).1 = _
  rw [write, h.present]
  cases gone side.across events <;> rfl

theorem serves_of_tallies : Serves events d side := by
  have read_iff (n : Nat) : (∃ bytes, (answer side (.read n) d).1 = .ok bytes) ↔
      n ≤ (waiting side events).length := by
    constructor
    · rintro ⟨bytes, ran⟩
      refine Nat.le_of_not_lt fun short => ?_
      cases (h.read_short side short).symm.trans ran
    · intro enough
      obtain ⟨bytes, ran, -⟩ := h.read_enough side enough
      exact ⟨bytes, ran⟩
  refine ⟨⟨_, h.bytes side⟩, read_iff, ?_, ?_, ?_, h.write_eq side⟩
  · intro n bytes ran
    obtain ⟨bytes', ran', front⟩ := h.read_enough side ((read_iff n).mp ⟨bytes, ran⟩)
    cases ran.symm.trans ran'
    exact front
  · intro n e failed
    have short : (waiting side events).length < n := by
      refine Nat.lt_of_not_le fun enough => ?_
      obtain ⟨bytes, ran, -⟩ := h.read_enough side enough
      cases failed.symm.trans ran
    exact Except.error.inj (failed.symm.trans (h.read_short side short))
  · rw [h.poll_iff, read_iff]

end

/-- nothing is lost, duplicated or reordered between two connected ends, whatever was done at them before and
whichever of them was given up: an end reads what was written at the other one in its order, as much as there is
and nothing else, and it is told that the other end is gone only when it is -/
theorem lossless (moves : List Move) (side : Side) : Serves (play moves {}).1 (play moves {}).2 side :=
  serves_of_tallies (tallies_start.play moves) side

end FlashRescue.Duplex
