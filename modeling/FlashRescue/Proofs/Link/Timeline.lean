import FlashRescue.Proofs.Link.Line
import FlashRescue.Proofs.Word
import Mathlib.Data.List.Forall2

/-!
# Input in its time and order

Input that is laid down, reads, writes and polls, and whatever else moves the clock, in any order.  What was laid
down and not yet read settles every reply, and how long it takes.

* `Line.Move`, `Line.Note`  what may be done with a line and its clock, and what came of it by when;
* `Line.play`        a number of moves; `Line.Timely`: the clock does not wrap around;
* `Line.Tallies`     what was read and what is left is what was laid down, and it was read in time; `accounts_take`
                     for a move, `Tallies.play`;
* `Line.Serves`      the replies that a line gives after all that has happened;
* `serves_in_time`   those are the replies, after any moves.
-/

namespace FlashRescue.Line

variable {l l' : Line}

/-! ## Moves -/

/-- what may be done with a line and the clock it shares -/
inductive Move where
  | push (moment : UInt64) (bytes : List UInt8)
  | ask (query : Link.Query)
  | delay (us : UInt64)
  | look

inductive Event where
  | pushed (moment : UInt64) (bytes : List UInt8)
  | replied (query : Link.Query) (reply : Link.Reply query)
  | delayed (us : UInt64)
  | looked (time : UInt64)

/-- what came of a move, and the time after it -/
structure Note where
  event : Event
  time : UInt64

namespace Move

def event (l : Line) : Move → Event × Line
  | push moment bytes => (.pushed moment bytes, l.push moment bytes)
  | ask query =>
    let (reply, l') := answer query l
    (.replied query reply, l')
  | delay us => (.delayed us, { l with clock := l.clock.delay us })
  | look =>
    let (time, clock) := l.clock.read
    (.looked time, { l with clock })

def take (move : Move) (l : Line) : Note × Line :=
  let (event, l') := move.event l
  (⟨event, l'.clock.now⟩, l')

/-- how far a move brings the clock forward besides waiting for bytes -/
def advance (l : Line) : Move → UInt64
  | delay us => Word.mulSat us 1000
  | look => l.clock.tick
  | _ => 0

end Move

def play : List Move → Line → List Note × Line
  | [], l => ([], l)
  | move :: moves, l =>
    let (note, l') := move.take l
    let (notes, l'') := play moves l'
    (note :: notes, l'')

/-- the clock does not wrap around -/
def Timely : List Move → Line → Prop
  | [], _ => True
  | move :: moves, l =>
    l.clock.now.toNat + (move.advance l).toNat < UInt64.size ∧ Timely moves (move.take l).2

instance decidableTimely : (moves : List Move) → (l : Line) → Decidable (Timely moves l)
  | [], _ => inferInstanceAs (Decidable True)
  | _ :: moves, _ => haveI := decidableTimely moves; inferInstanceAs (Decidable (_ ∧ _))

namespace Note

/-- the bytes that were laid down, with their moments -/
def pushed : Note → List (UInt64 × UInt8)
  | ⟨.pushed moment bytes, _⟩ => bytes.map (moment, ·)
  | _ => []

/-- the bytes that were read, with the time when they were -/
def received : Note → List (UInt64 × UInt8)
  | ⟨.replied (.read _) (.ok bytes), time⟩ => bytes.toList.map (time, ·)
  | _ => []

end Note

section
variable (notes : List Note)

/-- all that was laid down -/
def pushed : List (UInt64 × UInt8) := notes.flatMap Note.pushed

def received : List (UInt64 × UInt8) := notes.flatMap Note.received

/-- what was laid down and not yet read -/
def waiting : List (UInt64 × UInt8) := (pushed notes).drop (received notes).length

end

/-! ## What was read -/

variable {start : UInt64} {notes : List Note} {note : Note} {clock : Clock}

/-- a byte was read that had been laid down, and not before its moment -/
def InTime (laid read : UInt64 × UInt8) : Prop := read.2 = laid.2 ∧ laid.1 ≤ read.1

/-- what was read and what is left was laid down, and all of it was read in time on a clock that never went back -/
structure Tallies (start : UInt64) (notes : List Note) (l : Line) : Prop where
  virtual : l.clock.process = none
  bytes : ∃ front, pushed notes = front ++ l.incoming ∧ List.Forall₂ InTime front (received notes)
  ascending : (start :: notes.map Note.time).Pairwise (· ≤ ·)
  latest : ∀ time ∈ start :: notes.map Note.time, time ≤ l.clock.now

/-- a note accounts for a change of the line -/
structure Accounts (l : Line) (note : Note) (l' : Line) : Prop where
  virtual : l'.clock.process = none
  bytes : ∃ front, l.incoming ++ note.pushed = front ++ l'.incoming ∧ List.Forall₂ InTime front note.received
  onward : l.clock.now ≤ l'.clock.now
  time : note.time = l'.clock.now

theorem Tallies.append (h : Tallies start notes l) (h' : Accounts l note l') :
    Tallies start (notes ++ [note]) l' := by
  have onward : ∀ time ∈ start :: notes.map Note.time, time ≤ l'.clock.now :=
    fun time mem => UInt64.le_trans (h.latest time mem) h'.onward
  refine ⟨h'.virtual, ?_, ?_, ?_⟩
  · obtain ⟨front, laid, read⟩ := h.bytes
    obtain ⟨front', laid', read'⟩ := h'.bytes
    refine ⟨front ++ front', ?_, ?_⟩
    · rw [pushed, List.flatMap_append, List.flatMap_singleton, ← pushed, laid, List.append_assoc, laid',
        List.append_assoc]
    · rw [received, List.flatMap_append, List.flatMap_singleton]
      exact List.rel_append read read'
  · rw [List.map_append, ← List.cons_append, List.pairwise_append]
    refine ⟨h.ascending, List.pairwise_singleton .., fun time mem time' mem' => ?_⟩
    rw [List.mem_singleton.mp mem', h'.time]
    exact onward time mem
  · rw [List.map_append, ← List.cons_append]
    intro time mem
    rcases List.mem_append.mp mem with before | last
    · exact onward time before
    · rw [List.mem_singleton.mp last, h'.time]
      exact UInt64.le_refl _

theorem accounts_read (virtual : l.clock.process = none) (n : Nat) :
    Accounts l ((Move.ask (.read n)).take l).1 ((Move.ask (.read n)).take l).2 := by
  by_cases enough : n ≤ l.incoming.length
  · obtain ⟨bytes, now, ran, front, onward, latest⟩ := read_enough enough
    have latest := List.max?_eq_some_iff.mp (latest virtual)
    rw [Move.take, Move.event, answer, ran]
    refine ⟨virtual, ⟨l.incoming.take n, ?_, ?_⟩, onward, rfl⟩
    · rw [List.take_append_drop]
      exact List.append_nil _
    · rw [Note.received, front, List.map_map, List.forall₂_map_right_iff, List.forall₂_same]
      exact fun entry mem => ⟨rfl, latest.2 _ (List.mem_cons_of_mem _ (List.mem_map_of_mem mem))⟩
  · rw [Move.take, Move.event, answer, read_short (Nat.lt_of_not_le enough)]
    exact ⟨virtual, ⟨[], List.append_nil _, .nil⟩, UInt64.le_refl _, rfl⟩

theorem accounts_take (virtual : l.clock.process = none) (move : Move)
    (fits : l.clock.now.toNat + (move.advance l).toNat < UInt64.size) :
    Accounts l (move.take l).1 (move.take l).2 := by
  cases move with
  | push moment bytes => exact ⟨virtual, ⟨[], rfl, .nil⟩, UInt64.le_refl _, rfl⟩
  | ask query =>
    cases query with
    | read n => exact accounts_read virtual n
    | write bytes =>
      obtain ⟨reply, sent, left, ran⟩ := write_eq bytes l
      rw [Move.take, Move.event, answer, ran]
      exact ⟨virtual, ⟨[], List.append_nil _, .nil⟩, UInt64.le_refl _, rfl⟩
    | poll =>
      rw [Move.take, Move.event, answer, poll_eq virtual]
      exact ⟨virtual, ⟨[], List.append_nil _, .nil⟩, UInt64.le_refl _, rfl⟩
  | delay us =>
    rw [Move.take, Move.event, Clock.delay_virtual virtual]
    exact ⟨virtual, ⟨[], List.append_nil _, .nil⟩, Word.le_add fits, rfl⟩
  | look =>
    rw [Move.take, Move.event, Clock.read_virtual virtual]
    exact ⟨virtual, ⟨[], List.append_nil _, .nil⟩, Word.le_add fits, rfl⟩

theorem tallies_start (virtual : clock.process = none) : Tallies clock.now [] { clock } where
  virtual := virtual
  bytes := ⟨[], rfl, .nil⟩
  ascending := List.pairwise_singleton ..
  latest := List.forall_mem_singleton.mpr (UInt64.le_refl _)

/-- whatever is done, what was read and what is left was laid down -/
theorem Tallies.play (h : Tallies start notes l) {moves : List Move} (timely : Timely moves l) :
    Tallies start (notes ++ (play moves l).1) (play moves l).2 := by
  induction moves generalizing notes l with
  | nil => rwa [Line.play, List.append_nil]
  | cons move moves ih =>
    have next := ih (h.append (accounts_take h.virtual move timely.1)) timely.2
    rwa [List.append_assoc] at next

/-! ## In time -/

/-- the replies that a line gives after all that has happened since `start` -/
structure Serves (start : UInt64) (notes : List Note) (l : Line) : Prop where
  /-- no byte is lost, changed, read twice, out of its turn or before its moment -/
  inOrder : List.Forall₂ InTime ((pushed notes).take (received notes).length) (received notes)
  /-- the clock has never gone back -/
  ascending : (start :: notes.map Note.time).Pairwise (· ≤ ·)
  /-- the next bytes can be read, and are waited for until the latest of them can be seen -/
  read_enough : ∀ n ≤ (waiting notes).length, ∃ bytes l', answer (.read n) l = (.ok bytes, l') ∧
    bytes.toList = ((waiting notes).take n).map (·.2) ∧
    (l.clock.now :: ((waiting notes).take n).map (·.1)).max? = some l'.clock.now
  /-- more bytes cannot be read, and no time is lost with them -/
  read_short : ∀ n, (waiting notes).length < n → answer (.read n) l = (.error .closed, l)
  poll_iff : (answer .poll l).1 = true ↔ ∃ entry, (waiting notes).head? = some entry ∧ entry.1 ≤ l.clock.now
  poll_same : (answer .poll l).2 = l
  /-- a byte that is seen can be read at once -/
  read_seen : (answer .poll l).1 = true → ∃ byte l', answer (.read 1) l = (.ok byte, l') ∧ l'.clock = l.clock

section
variable (h : Tallies start notes l)
include h

theorem Tallies.incoming_eq : l.incoming = waiting notes := by
  obtain ⟨front, laid, read⟩ := h.bytes
  rw [waiting, ← read.length_eq, laid, List.drop_left]

theorem Tallies.inOrder : List.Forall₂ InTime ((pushed notes).take (received notes).length) (received notes) := by
  obtain ⟨front, laid, read⟩ := h.bytes
  rwa [← read.length_eq, laid, List.take_left]

theorem Tallies.poll_iff :
    (answer .poll l).1 = true ↔ ∃ entry, (waiting notes).head? = some entry ∧ entry.1 ≤ l.clock.now := by
  rw [← h.incoming_eq, answer, poll_eq h.virtual, Option.any_eq_true]
  simp only [decide_eq_true_eq]

theorem Tallies.read_seen (seen : (answer .poll l).1 = true) :
    ∃ byte l', answer (.read 1) l = (.ok byte, l') ∧ l'.clock = l.clock := by
  obtain ⟨entry, front, visible⟩ := h.poll_iff.mp seen
  rw [← h.incoming_eq] at front
  exact read_visible h.virtual front visible

theorem serves_of_tallies : Serves start notes l where
  inOrder := h.inOrder
  ascending := h.ascending
  read_enough n enough := by
    rw [← h.incoming_eq] at enough ⊢
    obtain ⟨bytes, now, ran, front, -, latest⟩ := Line.read_enough enough
    exact ⟨bytes, _, ran, front, latest h.virtual⟩
  read_short n short := by
    rw [← h.incoming_eq] at short
    exact Line.read_short short
  poll_iff := h.poll_iff
  poll_same := congrArg Prod.snd (poll_eq h.virtual)
  read_seen := h.read_seen

end

/-- whatever was done with a line and its clock before, and in whatever order the moments come, bytes are read as
they were laid down, and no sooner than their moments: a read takes until the latest of them, a read of more than
there is fails at once, and a poll tells whether the next one can be read without a wait -/
theorem serves_in_time (moves : List Move) (virtual : clock.process = none) (timely : Timely moves { clock }) :
    Serves clock.now (play moves { clock }).1 (play moves { clock }).2 :=
  serves_of_tallies ((tallies_start virtual).play timely)

/-- a byte that is laid down behind a later one is read after it -/
theorem serves_in_time_crossed :
    let clock : Clock := .virtual 10
    let moves : List Move := [.push 500 [1, 2], .push 100 [3], .ask .poll, .ask (.read 1), .look, .ask .poll,
      .ask (.read 3), .delay 2, .ask (.read 2), .push 9000 [4], .push 7000 [5], .ask .poll, .ask (.read 2)]
    (clock.process = none ∧ Timely moves { clock }) ∧
      Serves 0 (play moves { clock }).1 (play moves { clock }).2 ∧
      received (play moves { clock }).1 = [(500, 1), (2510, 2), (2510, 3), (9000, 4), (9000, 5)] := by
  intro clock moves
  have timely : Timely moves { clock } := by decide
  exact ⟨⟨rfl, timely⟩, serves_in_time moves rfl timely, by decide⟩

end FlashRescue.Line
