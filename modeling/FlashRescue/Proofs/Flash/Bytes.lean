import FlashRescue.Proofs.Dialogue.History
import FlashRescue.Proofs.Flash.Block
import Mathlib.Data.List.Induction

/-!
# The flash byte by byte

What becomes of each byte of a flash, whatever is asked of it in whatever order and whichever of its accesses
are made to fail in between.

* `Query.worked`, `Query.Reaches`, `Failing.stops`  how an access went, and what lets it go well;
* `Nor.Move`, `Nor.take`          what may be done with a flash: it is asked something, or its switches are set;
* `Event.erases`, `Event.clears`  what an access that worked does to one byte;
* `byteAfter`                     what a number of events make of a byte;
* `accessed`                      what one access does;
* `Regrouped`                     programs between two erases in another order, or done again;
* `byte_by_byte`                  all of it, after any moves.
-/

namespace FlashRescue

/-! ## Accesses -/

namespace Flash

def Query.worked : (query : Query) → Reply query → Bool
  | .init, .ok () => true
  | .read _ _ _, .ok _ => true
  | .erase _ _ _, .ok () => true
  | .program _ _ _, .ok () => true
  | _, _ => false

/-- a span of a region that holds so many bytes -/
def Spans (size : Nat) (region : Region) (offset : UInt64) (length : Nat) : Prop :=
  region = .bios ∧ offset.toNat + length < UInt64.size ∧ offset.toNat + length ≤ size

/-- what a query reaches for is there; but for the setting up, only a service that is set up reaches anything -/
def Query.Reaches (ready : Prop) (size : Nat) : Query → Prop
  | .init => True
  | .read region offset length => ready ∧ Spans size region offset length
  | .erase region offset length => ready ∧ Spans size region offset length
  | .program region offset bytes => ready ∧ Spans size region offset bytes.length

theorem Query.reaches_congr {ready ready' : Prop} (same : ready ↔ ready') (size : Nat) (query : Query) :
    query.Reaches ready size ↔ query.Reaches ready' size := by
  cases query <;> simp [Reaches, same]

end Flash

namespace Nor

/-- the switch for accesses of this kind is on -/
def Failing.stops (failing : Failing) : Flash.Query → Bool
  | .init => failing.init
  | .read _ _ _ => failing.reads
  | .erase _ _ _ => failing.erases
  | .program _ _ _ => failing.programs

/-! ## Moves -/

/-- what may be done with a flash -/
inductive Move where
  | ask (query : Flash.Query)
  | fail (failing : Failing)

@[reducible] def Result : Move → Type
  | .ask query => Flash.Reply query
  | .fail _ => Unit

@[reducible] def bench : Interface := ⟨Move, Result⟩

/-- something that was done, and what came of it -/
abbrev Event : Type := bench.Exchange

def take : bench.Answerer Nor
  | .ask query => answer query
  | .fail failing => fun f => ((), { f with failing })

namespace Event

/-- byte `i` was erased -/
def erases (i : Nat) : Event → Bool
  | ⟨.ask (.erase _ offset length), .ok ()⟩ => offset.toNat ≤ i && i < offset.toNat + length
  | _ => false

/-- what was programmed into byte `i` -/
def clears (i : Nat) : Event → Option UInt8
  | ⟨.ask (.program _ offset bytes), .ok ()⟩ => if offset.toNat ≤ i then bytes[i - offset.toNat]? else none
  | _ => none

/-- the service was set up -/
def setsUp : Event → Bool
  | ⟨.ask .init, .ok ()⟩ => true
  | _ => false

def programs : Event → Bool
  | ⟨.ask (.program _ _ _), .ok ()⟩ => true
  | _ => false

/-- a byte may be another one after it -/
def changes : Event → Bool
  | ⟨.ask (.erase _ _ _), .ok ()⟩ => true
  | ⟨.ask (.program _ _ _), .ok ()⟩ => true
  | _ => false

/-- what it makes of byte `i` -/
def act (i : Nat) (byte : UInt8) (e : Event) : UInt8 :=
  if e.erases i then erased else byte &&& (e.clears i).getD erased

/-- how the switches are set after it -/
def switch (failing : Failing) : Event → Failing
  | ⟨.fail failing', _⟩ => failing'
  | _ => failing

end Event

/-! ## What becomes of a byte -/

/-- the bits that all of some bytes have -/
def meet (bytes : List UInt8) : UInt8 := bytes.foldr (· &&& ·) erased

/-- what was programmed into byte `i` since it was last erased -/
def programmed (i : Nat) (events : List Event) : List UInt8 :=
  (events.reverse.takeWhile fun e => !e.erases i).filterMap (Event.clears i)

/-- byte `i` after some events: what was programmed since the last erase has cleared its bits in an erased byte,
or in the one that was there from the start if there was no erase -/
def byteAfter (i : Nat) (byte : UInt8) (events : List Event) : UInt8 :=
  (if events.any (Event.erases i) then erased else byte) &&& meet (programmed i events)

theorem erased_and (byte : UInt8) : erased &&& byte = byte := UInt8.neg_one_and

theorem and_erased (byte : UInt8) : byte &&& erased = byte := by
  rw [UInt8.and_comm, erased_and]

theorem byteAfter_nil (i : Nat) (byte : UInt8) : byteAfter i byte [] = byte := and_erased byte

theorem byteAfter_concat (i : Nat) (byte : UInt8) (events : List Event) (e : Event) :
    byteAfter i byte (events ++ [e]) = e.act i (byteAfter i byte events) := by
  have latest : (events ++ [e]).reverse = e :: events.reverse := by simp
  rw [Event.act, byteAfter, byteAfter, programmed, programmed, latest, List.any_append, List.any_cons,
    List.any_nil, Bool.or_false]
  cases erases : e.erases i with
  | true =>
    rw [List.takeWhile_cons_of_neg (by simp [erases])]
    simp [meet]
  | false =>
    rw [List.takeWhile_cons_of_pos (by simp [erases]), Bool.or_false]
    cases clears : e.clears i with
    | none => simp [clears, and_erased]
    | some b =>
      simp only [List.filterMap_cons, clears, Option.getD_some, meet, List.foldr_cons]
      rw [UInt8.and_comm b, UInt8.and_assoc]
      simp

theorem byteAfter_append (i : Nat) (byte : UInt8) (before events : List Event) :
    byteAfter i byte (before ++ events) = events.foldl (Event.act i) (byteAfter i byte before) := by
  induction events generalizing before with
  | nil => rw [List.append_nil, List.foldl_nil]
  | cons e events ih =>
    have split : before ++ e :: events = (before ++ [e]) ++ events := by simp
    rw [split, ih, byteAfter_concat, List.foldl_cons]

theorem byteAfter_eq_foldl (i : Nat) (byte : UInt8) (events : List Event) :
    byteAfter i byte events = events.foldl (Event.act i) byte := by
  have whole := byteAfter_append i byte [] events
  rwa [List.nil_append, byteAfter_nil] at whole

/-- erased, and programmed twice since then -/
example : byteAfter 2 0x00
    [⟨.ask (.erase .bios 0 4), .ok ()⟩, ⟨.ask (.program .bios 1 [0x0f, 0x3c]), .ok ()⟩,
      ⟨.ask (.program .bios 2 [0xf7]), .ok ()⟩] = 0x34 := by decide

/-! ## The order of programs -/

/-- the events that may have changed a byte -/
def changes (events : List Event) : List Event := events.filter Event.changes

/-- the same but for the order and the number of some programs that no erase comes between -/
inductive Regrouped : List Event → List Event → Prop
  | intro (before first second after : List Event) (programs : ∀ e ∈ first, e.programs = true)
      (same : ∀ e, e ∈ first ↔ e ∈ second) :
      Regrouped (before ++ first ++ after) (before ++ second ++ after)

theorem Event.act_of_not_changes {e : Event} (h : e.changes = false) (i : Nat) (byte : UInt8) :
    e.act i byte = byte := by
  have idle : e.erases i = false ∧ e.clears i = none := by
    unfold Event.changes at h
    split at h
    · cases h
    · cases h
    · rename_i erase program
      constructor
      · unfold erases
        split
        · exact absurd rfl (erase _ _ _)
        · rfl
      · unfold clears
        split
        · exact absurd rfl (program _ _ _)
        · rfl
  simp [act, idle, and_erased]

theorem Event.erases_of_programs {e : Event} (h : e.programs = true) (i : Nat) : e.erases i = false := by
  unfold programs at h
  split at h
  · rfl
  · cases h

theorem foldl_act_changes (i : Nat) (byte : UInt8) (events : List Event) :
    events.foldl (Event.act i) byte = (changes events).foldl (Event.act i) byte := by
  induction events generalizing byte with
  | nil => rfl
  | cons e events ih =>
    cases h : e.changes with
    | true => rw [changes, List.filter_cons_of_pos h, List.foldl_cons, List.foldl_cons, ih, changes]
    | false =>
      rw [changes, List.filter_cons_of_neg (by simp [h]), List.foldl_cons, Event.act_of_not_changes h, ih,
        changes]

theorem meet_and_of_mem {bytes : List UInt8} {b : UInt8} (h : b ∈ bytes) : meet bytes &&& b = meet bytes := by
  induction bytes with
  | nil => cases h
  | cons first bytes ih =>
    have split : meet (first :: bytes) = first &&& meet bytes := rfl
    rw [split, UInt8.and_assoc]
    rcases List.mem_cons.mp h with rfl | later
    · rw [UInt8.and_comm (meet bytes), ← UInt8.and_assoc, UInt8.and_self]
    · rw [ih later]

theorem and_meet_of_forall {bytes : List UInt8} {x : UInt8} (h : ∀ b ∈ bytes, x &&& b = x) :
    x &&& meet bytes = x := by
  induction bytes with
  | nil => exact and_erased x
  | cons first bytes ih =>
    obtain ⟨head, tail⟩ := List.forall_mem_cons.mp h
    have split : meet (first :: bytes) = first &&& meet bytes := rfl
    rw [split, ← UInt8.and_assoc, head, ih tail]

/-- which bytes they are is all that matters -/
theorem meet_congr {bytes bytes' : List UInt8} (same : ∀ b, b ∈ bytes ↔ b ∈ bytes') :
    meet bytes = meet bytes' := by
  have one : meet bytes &&& meet bytes' = meet bytes :=
    and_meet_of_forall fun b h => meet_and_of_mem ((same b).mpr h)
  have other : meet bytes' &&& meet bytes = meet bytes' :=
    and_meet_of_forall fun b h => meet_and_of_mem ((same b).mp h)
  rw [← one, UInt8.and_comm, other]

theorem foldl_act_programs {events : List Event} (programs : ∀ e ∈ events, e.programs = true) (i : Nat)
    (byte : UInt8) :
    events.foldl (Event.act i) byte = byte &&& meet (events.filterMap (Event.clears i)) := by
  induction events generalizing byte with
  | nil => exact (and_erased byte).symm
  | cons e events ih =>
    obtain ⟨first, rest⟩ := List.forall_mem_cons.mp programs
    rw [List.foldl_cons, ih rest, Event.act, Event.erases_of_programs first]
    cases clears : e.clears i with
    | none => simp [clears, and_erased]
    | some b => simp [clears, meet, UInt8.and_assoc]

theorem Regrouped.byteAfter_eq {events events' : List Event} (h : Regrouped (changes events) (changes events'))
    (i : Nat) (byte : UInt8) : byteAfter i byte events' = byteAfter i byte events := by
  rw [byteAfter_eq_foldl, byteAfter_eq_foldl, foldl_act_changes, foldl_act_changes i byte events]
  generalize changes events = acts at h
  generalize changes events' = acts' at h
  obtain ⟨before, first, second, after, programs, same⟩ := h
  have programs' : ∀ e ∈ second, e.programs = true := fun e mem => programs e ((same e).mpr mem)
  have data : meet (second.filterMap (Event.clears i)) = meet (first.filterMap (Event.clears i)) := by
    refine meet_congr fun b => ?_
    simp only [List.mem_filterMap, same]
  simp only [List.foldl_append, foldl_act_programs programs, foldl_act_programs programs', data]

/-! ## One access -/

theorem permits_iff (f : Nor) (region : Flash.Region) (offset : UInt64) (length : Nat) :
    f.permits region offset length = .ok () ↔
      f.ready = true ∧ Flash.Spans f.content.length region offset length := by
  have guard : (!f.ready || region != .bios) = true ↔ ¬ (f.ready = true ∧ region = .bios) := by
    cases f.ready <;> simp
  rw [permits, Flash.Spans, length_content]
  by_cases open_ : f.ready = true ∧ region = .bios
  · rw [if_neg (mt guard.mp (not_not_intro open_))]
    split <;> simp_all
  · rw [if_pos (guard.mpr open_)]
    simp only [reduceCtorEq, false_iff]
    exact fun h => open_ ⟨h.1, h.2.1⟩

theorem getElem?_splice (f : Nor) (offset : Nat) (bytes : ByteArray)
    (inside : offset + bytes.size ≤ f.content.length) (i : Nat) :
    (f.splice offset bytes).content[i]? =
      if offset ≤ i ∧ i < offset + bytes.size then bytes.data.toList[i - offset]? else f.content[i]? := by
  have start : (f.content.take offset).length = offset := List.length_take_of_le (by omega)
  have size : bytes.data.toList.length = bytes.size := Array.length_toList
  rw [content_splice, List.append_assoc]
  by_cases before : i < offset
  · rw [List.getElem?_append_left (by omega), List.getElem?_take_of_lt before, if_neg (by omega)]
  · rw [List.getElem?_append_right (by omega), start]
    by_cases within : i < offset + bytes.size
    · rw [List.getElem?_append_left (by omega), if_pos (by omega)]
    · rw [List.getElem?_append_right (by omega), if_neg (by omega), List.getElem?_drop, size]
      exact congrArg (f.content[·]?) (by omega)

/-- the same flash, but for what was counted -/
structure Counted (f f₁ : Nor) : Prop where
  content : f₁.content = f.content
  failing : f₁.failing = f.failing
  ready : f₁.ready = f.ready

/-- what an access to a span comes to once it is counted: it fails as its switch tells, or else as the span does -/
def gate {α : Type} (stops : Bool) (permit : Except Flash.Error Unit) (value : α) (counted done : Nor) :
    Except Flash.Error α × Nor :=
  if stops then (.error .device, counted)
  else match permit with
    | .ok () => (.ok value, done)
    | .error e => (.error e, counted)

theorem gate_cases {α : Type} {f f₁ : Nor} (counted : Counted f f₁) (stops : Bool) (region : Flash.Region)
    (offset : UInt64) (length : Nat) (value : α) (done : Nor) :
    let open_ := stops = false ∧ f.ready = true ∧ Flash.Spans f.content.length region offset length
    let ended := gate stops (f₁.permits region offset length) value f₁ done
    (open_ ∧ ended = (.ok value, done)) ∨ ¬ open_ ∧ ∃ e, ended = (.error e, f₁) := by
  have permits := permits_iff f₁ region offset length
  rw [counted.content, counted.ready] at permits
  rw [← permits]
  cases stops with
  | true => exact .inr ⟨nofun, _, rfl⟩
  | false =>
    cases f₁.permits region offset length with
    | ok => exact .inl ⟨⟨rfl, rfl⟩, rfl⟩
    | error e => exact .inr ⟨nofun, _, rfl⟩

/-- what one access does: whether it goes well, and what it leaves of the service and of each byte -/
structure Accessed (f : Nor) (query : Flash.Query) (ended : Flash.Reply query × Nor) : Prop where
  failing : ended.2.failing = f.failing
  ready : ended.2.ready = (f.ready || Event.setsUp ⟨.ask query, ended.1⟩)
  worked_iff : query.worked ended.1 = true ↔
    f.failing.stops query = false ∧ query.Reaches (f.ready = true) f.content.length
  byte : ∀ i, ended.2.content[i]? = f.content[i]?.map (Event.act i · ⟨.ask query, ended.1⟩)

theorem map_act_of_not_changes {e : Event} (h : e.changes = false) (i : Nat) (byte : Option UInt8) :
    byte.map (Event.act i · e) = byte := by
  cases byte with
  | none => rfl
  | some byte => exact congrArg some (Event.act_of_not_changes h i byte)

theorem Counted.accessed {f f₁ : Nor} (h : Counted f f₁) {query : Flash.Query} {reply : Flash.Reply query}
    (setsUp : Event.setsUp ⟨.ask query, reply⟩ = false) (changes : Event.changes ⟨.ask query, reply⟩ = false)
    (worked_iff : query.worked reply = true ↔
      f.failing.stops query = false ∧ query.Reaches (f.ready = true) f.content.length) :
    Accessed f query (reply, f₁) := by
  refine ⟨h.failing, ?_, worked_iff, fun i => ?_⟩
  · rw [setsUp, Bool.or_false, h.ready]
  · rw [map_act_of_not_changes changes, h.content]

theorem accessed_init (f : Nor) : Accessed f .init f.init := by
  obtain ⟨cells, ready, count, failing⟩ := f
  rw [init]
  cases fails : failing.init with
  | true =>
    have counted : Counted ⟨cells, ready, count, failing⟩
        ⟨cells, ready, { count with inits := count.inits + 1 }, failing⟩ := ⟨rfl, rfl, rfl⟩
    have refused : ¬ (failing.init = false ∧ True) := by simp [fails]
    have failed : Flash.Query.worked .init (.error .device) = true ↔ failing.init = false ∧ True :=
      iff_of_false Bool.false_ne_true refused
    exact counted.accessed rfl rfl failed
  | false =>
    refine ⟨rfl, (Bool.or_true ready).symm, iff_of_true rfl ⟨fails, trivial⟩, fun i => ?_⟩
    exact (map_act_of_not_changes (e := ⟨.ask .init, .ok ()⟩) rfl i _).symm

theorem accessed_read (region : Flash.Region) (offset : UInt64) (length : Nat) (f : Nor) :
    Accessed f (.read region offset length) (f.read region offset length) := by
  obtain ⟨f₁, def₁⟩ : ∃ f₁, f₁ = { f with count.reads := f.count.reads + 1 } := ⟨_, rfl⟩
  have counted : Counted f f₁ := def₁ ▸ ⟨rfl, rfl, rfl⟩
  have shape : f.read region offset length = gate f.failing.reads (f₁.permits region offset length)
      (f₁.span offset.toNat length) f₁ f₁ := read_eq def₁ region offset length
  rw [shape]
  rcases gate_cases counted f.failing.reads region offset length (f₁.span offset.toNat length) f₁ with
    ⟨fits, worked⟩ | ⟨refused, e, failed⟩
  · rw [worked]
    exact counted.accessed rfl rfl (iff_of_true rfl fits)
  · rw [failed]
    exact counted.accessed rfl rfl (iff_of_false Bool.false_ne_true refused)

theorem accessed_erase (region : Flash.Region) (offset : UInt64) (length : Nat) (f : Nor) :
    Accessed f (.erase region offset length) (f.erase region offset length) := by
  obtain ⟨f₁, def₁⟩ : ∃ f₁, f₁ = { f with count.erases := f.count.erases + 1 } := ⟨_, rfl⟩
  have counted : Counted f f₁ := def₁ ▸ ⟨rfl, rfl, rfl⟩
  have shape : f.erase region offset length = gate f.failing.erases (f₁.permits region offset length) ()
      f₁ (f₁.splice offset.toNat (erasedCells length)) := erase_eq def₁ region offset length
  rw [shape]
  rcases gate_cases counted f.failing.erases region offset length ()
    (f₁.splice offset.toNat (erasedCells length)) with ⟨fits, worked⟩ | ⟨refused, e, failed⟩
  · rw [worked]
    have last := fits.2.2.2.2
    have size : (erasedCells length).size = length := size_erasedCells length
    refine ⟨counted.failing, counted.ready.trans (Bool.or_false _).symm, iff_of_true rfl fits, fun i => ?_⟩
    dsimp only
    rw [getElem?_splice f₁ offset.toNat _ (by rwa [size, counted.content]), size, counted.content,
      toList_erasedCells]
    by_cases within : offset.toNat ≤ i ∧ i < offset.toNat + length
    · have there : i < f.content.length := by omega
      rw [if_pos within, List.getElem?_replicate, if_pos (by omega), List.getElem?_eq_getElem there]
      simp [Event.act, Event.erases, within]
    · have outside : (offset.toNat ≤ i && i < offset.toNat + length) = false := by simpa using within
      rw [if_neg within]
      simp [Event.act, Event.erases, outside, Event.clears, and_erased]
  · rw [failed]
    exact counted.accessed rfl rfl (iff_of_false Bool.false_ne_true refused)

theorem accessed_program (region : Flash.Region) (offset : UInt64) (bytes : List UInt8) (f : Nor) :
    Accessed f (.program region offset bytes) (f.program region offset bytes) := by
  obtain ⟨f₁, def₁⟩ : ∃ f₁, f₁ = { f with count.programs := f.count.programs + 1 } := ⟨_, rfl⟩
  have counted : Counted f f₁ := def₁ ▸ ⟨rfl, rfl, rfl⟩
  obtain ⟨put, def_put⟩ : ∃ put, put = List.zipWith (· &&& ·) (f₁.span offset.toNat bytes.length) bytes :=
    ⟨_, rfl⟩
  have shape : f.program region offset bytes =
      gate f.failing.programs (f₁.permits region offset bytes.length) () f₁
        (f₁.splice offset.toNat put.toByteArray) := def_put ▸ program_eq def₁ region offset bytes
  rw [shape]
  rcases gate_cases counted f.failing.programs region offset bytes.length ()
    (f₁.splice offset.toNat put.toByteArray) with ⟨fits, worked⟩ | ⟨refused, e, failed⟩
  · rw [worked]
    have last := fits.2.2.2.2
    have size : put.toByteArray.size = bytes.length := by
      rw [List.size_toByteArray, def_put, List.length_zipWith, span_eq, List.length_take, List.length_drop,
        counted.content]
      omega
    refine ⟨counted.failing, counted.ready.trans (Bool.or_false _).symm, iff_of_true rfl fits, fun i => ?_⟩
    dsimp only
    rw [getElem?_splice f₁ offset.toNat _ (by rwa [size, counted.content]), size, counted.content,
      List.data_toByteArray]
    by_cases within : offset.toNat ≤ i ∧ i < offset.toNat + bytes.length
    · have there : i < f.content.length := by omega
      have source : i - offset.toNat < bytes.length := by omega
      have target : offset.toNat + (i - offset.toNat) = i := by omega
      rw [if_pos within, def_put, List.getElem?_zipWith, span_eq, List.getElem?_take_of_lt source,
        List.getElem?_drop, target, counted.content, List.getElem?_eq_getElem there,
        List.getElem?_eq_getElem source]
      simp [Event.act, Event.erases, Event.clears, within, source]
    · have outside : (if offset.toNat ≤ i then bytes[i - offset.toNat]? else none) = none := by
        split
        · exact List.getElem?_eq_none (by omega)
        · rfl
      rw [if_neg within]
      simp [Event.act, Event.erases, Event.clears, outside, and_erased]
  · rw [failed]
    exact counted.accessed rfl rfl (iff_of_false Bool.false_ne_true refused)

theorem accessed (query : Flash.Query) (f : Nor) : Accessed f query (answer query f) := by
  cases query with
  | init => exact accessed_init f
  | read region offset length => exact accessed_read region offset length f
  | erase region offset length => exact accessed_erase region offset length f
  | program region offset bytes => exact accessed_program region offset bytes f

/-- an access that fails leaves the service and every byte as they were, whatever it fails with -/
theorem answer_of_not_worked {query : Flash.Query} {f : Nor} (h : query.worked (answer query f).1 = false) :
    (answer query f).2.content = f.content ∧ (answer query f).2.ready = f.ready := by
  have access := accessed query f
  generalize answer query f = ended at h access
  obtain ⟨reply, f'⟩ := ended
  have idle : Event.setsUp ⟨.ask query, reply⟩ = false ∧ Event.changes ⟨.ask query, reply⟩ = false := by
    cases query <;> cases reply <;> first | exact ⟨rfl, rfl⟩ | cases h
  refine ⟨List.ext_getElem? fun i => ?_, ?_⟩
  · exact (access.byte i).trans (map_act_of_not_changes idle.2 i _)
  · exact access.ready.trans (by rw [idle.1, Bool.or_false])

/-- a read that goes well gets the bytes of its span -/
theorem read_ok {region : Flash.Region} {offset : UInt64} {length : Nat} {f : Nor} {bytes : List UInt8}
    (h : (f.read region offset length).1 = .ok bytes) :
    bytes = (f.content.drop offset.toNat).take length := by
  rw [read] at h
  split at h
  · cases h
  · split at h
    · cases h
      exact span_eq ..
    · cases h

/-! ## Any moves -/

/-- how the switches are set after some events -/
def switched (failing : Failing) (events : List Event) : Failing := events.foldl Event.switch failing

/-- what is known of a flash that was `f` before these events -/
structure Remembers (f : Nor) (events : List Event) (f' : Nor) : Prop where
  failing : f'.failing = switched f.failing events
  ready : f'.ready = (f.ready || events.any Event.setsUp)
  byte : ∀ i, f'.content[i]? = f.content[i]?.map (byteAfter i · events)

theorem remembers_start (f : Nor) : Remembers f [] f := by
  refine ⟨rfl, (Bool.or_false _).symm, fun i => ?_⟩
  cases f.content[i]? with
  | none => rfl
  | some byte => exact congrArg some (byteAfter_nil i byte).symm

/-- one move, of a flash of which nothing is known -/
theorem remembers_move (move : Move) (f : Nor) : Remembers f [⟨move, (take move f).1⟩] (take move f).2 := by
  cases move with
  | fail failing =>
    refine ⟨rfl, (Bool.or_false _).symm, fun i => ?_⟩
    simp only [byteAfter_eq_foldl, List.foldl_cons, List.foldl_nil]
    exact (map_act_of_not_changes (e := ⟨.fail failing, ()⟩) rfl i _).symm
  | ask query =>
    have access := accessed query f
    refine ⟨access.failing, ?_, fun i => ?_⟩
    · refine access.ready.trans ?_
      rw [List.any_cons, List.any_nil, Bool.or_false]
      rfl
    · simp only [byteAfter_eq_foldl, List.foldl_cons, List.foldl_nil]
      exact access.byte i

/-- of the flash before a move the events so far tell, of what the move does the move alone -/
theorem Remembers.move {f f' : Nor} {events : List Event} (h : Remembers f events f') (move : Move) :
    Remembers f (events ++ [⟨move, (take move f').1⟩]) (take move f').2 := by
  have effect := remembers_move move f'
  refine ⟨?_, ?_, fun i => ?_⟩
  · rw [effect.failing, h.failing, switched, switched, switched, List.foldl_append]
  · rw [effect.ready, h.ready, List.any_append, Bool.or_assoc]
  · rw [effect.byte, h.byte, Option.map_map]
    refine congrArg (Option.map · _) (funext fun byte => ?_)
    show byteAfter i (byteAfter i byte events) [_] = _
    rw [byteAfter_concat, byteAfter_eq_foldl i (byteAfter i byte events)]
    rfl

theorem remembers (f : Nor) (moves : List Move) :
    Remembers f (take.history moves f).1 (take.history moves f).2 := by
  induction moves using List.reverseRecOn with
  | nil => exact remembers_start f
  | append_singleton moves move ih =>
    rw [Interface.Answerer.history_concat]
    exact ih.move move

/-- what a flash is like that was `f` before these events -/
structure Behaves (f : Nor) (events : List Event) (f' : Nor) : Prop where
  length : f'.content.length = f.content.length
  byte : ∀ i byte, f.content[i]? = some byte → f'.content[i]? = some (byteAfter i byte events)
  /-- the switch of an access must be off, and but for the setting up itself the service must have been set up
  and the span lie in the region -/
  worked_iff : ∀ query, query.worked (answer query f').1 = true ↔
    (switched f.failing events).stops query = false ∧
      query.Reaches (f.ready = true ∨ ∃ e ∈ events, e.setsUp = true) f.content.length
  failed : ∀ query, query.worked (answer query f').1 = false →
    (answer query f').2.content = f'.content ∧ (answer query f').2.ready = f'.ready
  read : ∀ region offset length bytes, (answer (.read region offset length) f').1 = .ok bytes →
    bytes = (f'.content.drop offset.toNat).take length

theorem Remembers.behaves {f f' : Nor} {events : List Event} (h : Remembers f events f') :
    Behaves f events f' := by
  have length : f'.content.length = f.content.length := by
    have ends (i : Nat) : f'.content.length ≤ i ↔ f.content.length ≤ i := by
      rw [← List.getElem?_eq_none_iff, ← List.getElem?_eq_none_iff, h.byte i, Option.map_eq_none_iff]
    exact Nat.le_antisymm ((ends _).mpr (Nat.le_refl _)) ((ends _).mp (Nat.le_refl _))
  have ready : f'.ready = true ↔ f.ready = true ∨ ∃ e ∈ events, e.setsUp = true := by
    rw [h.ready, Bool.or_eq_true, List.any_eq_true]
  refine ⟨length, fun i byte there => ?_, fun query => ?_, fun query => answer_of_not_worked, ?_⟩
  · rw [h.byte, there]
    rfl
  · rw [(accessed query f').worked_iff, h.failing, length, Flash.Query.reaches_congr ready]
  · exact fun region offset length bytes => read_ok

/-- whatever is done with a flash, every byte of it is what the erases and programs that worked have made of it,
and that alone decides what is read.  In what order a byte was programmed between two erases, and how often, makes
no difference -/
theorem byte_by_byte (f : Nor) (moves : List Move) :
    Behaves f (take.history moves f).1 (take.history moves f).2 ∧
      ∀ moves', Regrouped (changes (take.history moves f).1) (changes (take.history moves' f).1) →
        (take.history moves' f).2.content = (take.history moves f).2.content := by
  have kept := remembers f moves
  refine ⟨kept.behaves, fun moves' regrouped => List.ext_getElem? fun i => ?_⟩
  rw [(remembers f moves').byte, kept.byte]
  exact congrArg (Option.map · _) (funext fun byte => regrouped.byteAfter_eq i byte)

end Nor

end FlashRescue
