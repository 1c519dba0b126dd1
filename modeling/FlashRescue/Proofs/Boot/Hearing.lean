import FlashRescue.Proofs.Boot.Timetable

/-!
# What a search reads

A search for a host reads the input of its line record by record, one for each HELLO at most and only when the
first byte of it can be seen by then, up to the first one that is an ACK.

* `Line.visible`, `Line.record`   whether there is something to read, and what;
* `Line.greeted`, `Line.taken`, `Line.rested`  the line after a HELLO, a record and a pause;
* `Boot.Course`      the ways in which a search can go;
* `Boot.roundsLeft`  how many HELLOs are within the rest of the budget;
* `announces`        a search goes in one of these ways.
-/

namespace FlashRescue

open Device Dialogue

/-! ## The line -/

namespace Line

/-- whether the first byte can be seen by now -/
def visible (l : Line) : Bool := l.incoming.head?.any (·.1 ≤ l.clock.now)

/-- the next three bytes -/
def record (l : Line) : List UInt8 := (l.incoming.take Response.width).map (·.2)

/-- the first records of the input -/
def front (n : Nat) (l : Line) : List (List UInt8) :=
  (List.range n).map fun i => ((l.incoming.drop (3 * i)).take 3).map (·.2)

/-- the line after a HELLO -/
def greeted (l : Line) : Line := { l with sent := Boot.helloBytes.reverseAux l.sent }

/-- the line after a record was read, which waits for the last byte of it -/
def taken (l : Line) : Line :=
  { l with
    incoming := l.incoming.drop Response.width
    clock.now := (l.incoming.take Response.width).foldl (fun now entry => max now entry.1) l.clock.now }

/-- the line after a pause of so many microseconds -/
def rested (us : UInt64) (l : Line) : Line :=
  { l with
    clock.now := l.clock.now + Word.mulSat us 1000
    clock.delayedUs := l.clock.delayedUs + us }

/-- its time is virtual, and it takes all that is sent -/
structure Scripted (l : Line) : Prop where
  virtual : l.clock.process = none
  open_ : l.writesLeft = none

variable {l : Line}

theorem Scripted.greeted (h : l.Scripted) : l.greeted.Scripted := ⟨h.virtual, h.open_⟩

theorem Scripted.taken (h : l.Scripted) : l.taken.Scripted := ⟨h.virtual, h.open_⟩

theorem Scripted.rested (h : l.Scripted) (us : UInt64) : (l.rested us).Scripted := ⟨h.virtual, h.open_⟩

theorem front_succ (n : Nat) (l : Line) : l.front (n + 1) = l.record :: l.taken.front n := by
  rw [front, List.range_succ_eq_map, List.map_cons, List.map_map, Nat.mul_zero, List.drop_zero]
  refine congrArg (l.record :: ·) (List.map_congr_left fun i _ => ?_)
  show ((l.incoming.drop (3 * (i + 1))).take 3).map (·.2) =
    (((l.incoming.drop Response.width).drop (3 * i)).take 3).map (·.2)
  rw [List.drop_drop, Nat.mul_succ, Nat.add_comm (3 * i)]

theorem outgoing_greeted (l : Line) : l.greeted.outgoing = l.outgoing ++ Boot.helloBytes := by
  rw [outgoing, greeted, List.reverseAux_eq, List.reverse_append, List.reverse_reverse]
  rfl

end Line

namespace Board

open Boot

variable {b : Board}

/-! ## Rounds -/

theorem run_greet (h : b.line.Scripted) :
    (Device.demand (Link.sendCommand (.of .hello 0)) : Action Unit).run answer b =
      (.ok (), { b with line := b.line.greeted }) := by
  obtain ⟨⟨clock, incoming, sent, left⟩, flash⟩ := b
  cases h.open_
  rfl

theorem run_rest (h : b.line.Scripted) (ms : UInt64) :
    (pause ms).run answer b = (.ok (), { b with line := b.line.rested (Word.mulSat ms Timing.usPerMs) }) := by
  obtain ⟨⟨⟨now, tick, delayed, process⟩, incoming, sent, left⟩, flash⟩ := b
  cases h.virtual
  rfl

theorem run_visible (h : b.line.Scripted) : (Link.poll : Action Bool).run answer b = (.ok b.line.visible, b) := by
  obtain ⟨⟨⟨now, tick, delayed, process⟩, incoming, sent, left⟩, flash⟩ := b
  cases h.virtual
  rfl

/-- nothing is read that cannot be seen -/
theorem run_answered_unseen (h : b.line.Scripted) (unseen : b.line.visible = false) :
    answered.run answer b = (.ok false, b) := by
  have looked := run_visible h
  rw [unseen] at looked
  exact run_bind_ok looked

theorem isAck_decode (bytes : Vector UInt8 Response.width) :
    (Response.decode bytes).isAck = (bytes.toList.head? == some 1) := by
  obtain ⟨⟨content⟩, size⟩ := bytes
  match content, size with
  | [_, _, _], _ => rfl

theorem run_readRecord (h : b.line.Scripted) (whole : Response.width ≤ b.line.incoming.length) :
    ∃ bytes : Vector UInt8 Response.width, bytes.toList = b.line.record ∧
      (Device.demand Link.readResponse : Action Response).run answer b =
        (.ok (.decode bytes), { b with line := b.line.taken }) := by
  have enough : (b.line.incoming.take Response.width).length = Response.width := by
    rw [List.length_take, Nat.min_eq_left whole]
  have transfer : (Link.read Response.width : Action _).run answer b =
      (.ok (b.line.read Response.width).1, { b with line := (b.line.read Response.width).2 }) := rfl
  rw [Line.read, dif_pos enough, Clock.foldl_advanceTo_virtual _ h.virtual] at transfer
  refine ⟨⟨b.line.record.toArray, (List.length_map ..).trans enough⟩, List.toList_toArray .., ?_⟩
  rw [demand_readResponse, run_map, run_demand_ok transfer]
  rfl

/-- a record is read, and its first byte tells -/
theorem run_answered_heard (h : b.line.Scripted) (seen : b.line.visible = true)
    (whole : Response.width ≤ b.line.incoming.length) :
    answered.run answer b = (.ok (b.line.record.head? == some 1), { b with line := b.line.taken }) := by
  have looked := run_visible h
  rw [seen] at looked
  obtain ⟨bytes, content, read⟩ := run_readRecord h whole
  rw [← content, ← isAck_decode]
  exact (run_bind_ok looked).trans (run_bind_ok read)

/-- there is less than a record -/
theorem run_answered_cut (h : b.line.Scripted) (seen : b.line.visible = true)
    (short : b.line.incoming.length < Response.width) :
    answered.run answer b = (.error (.failed (.link .closed)), b) := by
  have looked := run_visible h
  rw [seen] at looked
  have lacking : (b.line.incoming.take Response.width).length ≠ Response.width := by
    rw [List.length_take, Nat.min_eq_right (Nat.le_of_lt short)]
    exact Nat.ne_of_lt short
  have transfer : (Link.read Response.width : Action _).run answer b =
      (.ok (b.line.read Response.width).1, { b with line := (b.line.read Response.width).2 }) := rfl
  rw [Line.read, dif_neg lacking] at transfer
  have closed : (Device.demand Link.readResponse : Action Response).run answer b =
      (.error (.failed (.link .closed)), b) := by
    rw [demand_readResponse, run_map, run_demand_error transfer]
    rfl
  exact (run_bind_ok looked).trans (run_bind_error closed)

end Board

namespace Device.Boot

/-! ## The budget -/

/-- how many HELLOs are within the rest of the budget -/
def roundsLeft (config : Config) (elapsed : UInt64) : Nat :=
  (config.helloTimeoutMs.toNat - elapsed.toNat) ⌈/⌉ config.helloRetryMs.toNat

theorem ceilDiv_of_pos {n r : Nat} (some_ : 0 < r) (more : 0 < n) : n ⌈/⌉ r = (n - r) ⌈/⌉ r + 1 := by
  rw [Nat.ceilDiv_eq_add_pred_div, Nat.ceilDiv_eq_add_pred_div]
  rcases Nat.le_total r n with le | le
  · rw [← Nat.add_div_right _ some_]
    congr 1
    omega
  · rw [Nat.sub_eq_zero_of_le le, Nat.zero_add, Nat.div_eq_of_lt (Nat.sub_lt some_ Nat.one_pos)]
    exact Nat.div_eq_of_lt_le (by omega) (by omega)

section
variable {config : Config} {elapsed : UInt64}

theorem roundsLeft_spent (spent : ¬ elapsed < config.helloTimeoutMs) : roundsLeft config elapsed = 0 := by
  rw [roundsLeft, Nat.sub_eq_zero_of_le (UInt64.le_iff_toNat_le.mp (UInt64.not_lt.mp spent)), zero_ceilDiv]

/-- a round takes one of them, also when the time does not fit its word any more -/
theorem roundsLeft_within (some_ : config.helloRetryMs ≠ 0) (within : elapsed < config.helloTimeoutMs) :
    roundsLeft config elapsed = roundsLeft config (Word.addSat elapsed config.helloRetryMs) + 1 := by
  have positive : 0 < config.helloRetryMs.toNat :=
    Nat.pos_of_ne_zero fun zero => some_ (UInt64.toNat_inj.mp zero)
  have less := UInt64.lt_iff_toNat_lt.mp within
  rw [roundsLeft, ceilDiv_of_pos positive (Nat.sub_pos_of_lt less), roundsLeft]
  by_cases fits : elapsed.toNat + config.helloRetryMs.toNat < UInt64.size
  · rw [Word.toNat_addSat fits, Nat.sub_add_eq]
  · have top : (Word.addSat elapsed config.helloRetryMs).toNat = UInt64.size - 1 := by
      rw [Word.addSat, if_neg fits]
      rfl
    have bound := config.helloTimeoutMs.toNat_lt_size
    rw [top, Nat.sub_eq_zero_of_le (by omega : config.helloTimeoutMs.toNat ≤ UInt64.size - 1),
      Nat.sub_eq_zero_of_le (by omega)]

theorem roundsLeft_le (some_ : config.helloRetryMs ≠ 0) : roundsLeft config 0 ≤ config.helloTimeoutMs.toNat := by
  have positive : 0 < config.helloRetryMs.toNat :=
    Nat.pos_of_ne_zero fun zero => some_ (UInt64.toNat_inj.mp zero)
  rw [roundsLeft, ceilDiv_le_iff_le_mul positive]
  exact (Nat.sub_le ..).trans (Nat.le_mul_of_pos_left _ positive)

end

/-! ## The search -/

/-- the ways in which a search can go that pauses for so many microseconds after a HELLO and may send so many of
them, with the number that it sends and the records that it reads -/
inductive Course (us : UInt64) :
    (left : Nat) → Line → (sent : Nat) → List (List UInt8) → Except (Stop Error) Bool → Line → Prop
  /-- the budget is used up -/
  | spent {l : Line} : Course us 0 l 0 [] (.ok false) l
  /-- nothing can be seen yet -/
  | silent {left sent : Nat} {l l' : Line} {records : List (List UInt8)} {ended : Except (Stop Error) Bool}
      (unseen : l.visible = false) (more : Course us left (l.greeted.rested us) sent records ended l') :
      Course us (left + 1) l (sent + 1) records ended l'
  /-- a record is read that is no ACK -/
  | ignored {left sent : Nat} {l l' : Line} {records : List (List UInt8)} {ended : Except (Stop Error) Bool}
      (seen : l.visible = true) (whole : 3 ≤ l.incoming.length) (other : l.record.head? ≠ some 1)
      (more : Course us left (l.greeted.taken.rested us) sent records ended l') :
      Course us (left + 1) l (sent + 1) (l.record :: records) ended l'
  /-- an ACK is read -/
  | answered {left : Nat} {l : Line} (seen : l.visible = true) (whole : 3 ≤ l.incoming.length)
      (ack : l.record.head? = some 1) : Course us (left + 1) l 1 [l.record] (.ok true) l.greeted.taken
  /-- something can be seen, but there is less than a record -/
  | cut {left : Nat} {l : Line} (seen : l.visible = true) (short : l.incoming.length < 3) :
      Course us (left + 1) l 1 [] (.error (.failed (.link .closed))) l.greeted

section
variable {us : UInt64} {left sent : Nat} {l l' : Line} {records : List (List UInt8)}
  {ended : Except (Stop Error) Bool}

/-- nothing but HELLOs is sent -/
theorem Course.outgoing (h : Course us left l sent records ended l') :
    l'.outgoing = l.outgoing ++ (List.replicate sent helloBytes).flatten := by
  have one_more (l : Line) (sent : Nat) : l.greeted.outgoing ++ (List.replicate sent helloBytes).flatten =
      l.outgoing ++ (List.replicate (sent + 1) helloBytes).flatten := by
    rw [Line.outgoing_greeted, List.replicate_succ, List.flatten_cons, List.append_assoc]
  induction h with
  | spent => exact (List.append_nil _).symm
  | silent unseen more ih => exact ih.trans (one_more ..)
  | ignored seen whole other more ih => exact ih.trans (one_more ..)
  | answered seen whole ack => exact (List.append_nil _).symm.trans (one_more _ 0)
  | cut seen short => exact (List.append_nil _).symm.trans (one_more _ 0)

/-- the records are the first of the input, and nothing else of it is read -/
theorem Course.incoming (h : Course us left l sent records ended l') :
    records = l.front records.length ∧ l'.incoming = l.incoming.drop (3 * records.length) := by
  induction h with
  | spent => exact ⟨rfl, rfl⟩
  | silent unseen more ih => exact ih
  | @ignored left sent l l' records ended seen whole other more ih =>
    obtain ⟨first, rest⟩ := ih
    rw [List.length_cons, Line.front_succ]
    refine ⟨congrArg (l.record :: ·) first, ?_⟩
    rw [rest, Nat.mul_succ, Nat.add_comm, ← List.drop_drop]
    rfl
  | answered seen whole ack => exact ⟨(Line.front_succ 0 _).symm, rfl⟩
  | cut seen short => exact ⟨rfl, rfl⟩

/-- every HELLO is followed by a pause, except the one that is answered or after which the line is found closed -/
theorem Course.delayed (h : Course us left l sent records ended l') :
    ∃ pauses, sent = pauses + (if ended = .ok false then 0 else 1) ∧
      l'.clock.delayedUs = l.clock.delayedUs + UInt64.ofNat pauses * us := by
  have still (total : UInt64) : total = total + 0 * us := by rw [UInt64.zero_mul, UInt64.add_zero]
  have one_more {sent last : Nat} {total total' : UInt64}
      (rest : ∃ pauses, sent = pauses + last ∧ total' = total + us + UInt64.ofNat pauses * us) :
      ∃ pauses, sent + 1 = pauses + last ∧ total' = total + UInt64.ofNat pauses * us := by
    obtain ⟨pauses, rfl, rfl⟩ := rest
    refine ⟨pauses + 1, Nat.add_right_comm .., ?_⟩
    rw [UInt64.ofNat_add]
    grind
  induction h with
  | spent => exact ⟨0, rfl, still _⟩
  | silent unseen more ih => exact one_more ih
  | ignored seen whole other more ih => exact one_more ih
  | answered seen whole ack => exact ⟨0, rfl, still _⟩
  | cut seen short => exact ⟨0, rfl, still _⟩

/-- a search ends with the first ACK, at the end of its budget, or since the line is closed -/
theorem Course.ends (h : Course us left l sent records ended l') : sent ≤ left ∧
    (ended = .ok false ∧ sent = left ∧ (∀ record ∈ records, record.head? ≠ some 1) ∨
      ended = .ok true ∧ (∃ earlier last, records = earlier ++ [last] ∧ last.head? = some 1 ∧
        ∀ record ∈ earlier, record.head? ≠ some 1) ∨
      ended = .error (.failed (.link .closed)) ∧ l'.visible = true ∧ l'.incoming.length < 3 ∧
        ∀ record ∈ records, record.head? ≠ some 1) := by
  induction h with
  | spent => exact ⟨Nat.le_refl 0, .inl ⟨rfl, rfl, nofun⟩⟩
  | silent unseen more ih =>
    obtain ⟨few, ends⟩ := ih
    refine ⟨Nat.succ_le_succ few, ends.imp ?_ id⟩
    rintro ⟨rfl, all, others⟩
    exact ⟨rfl, congrArg (· + 1) all, others⟩
  | @ignored left sent l l' records ended seen whole other more ih =>
    obtain ⟨few, ends⟩ := ih
    refine ⟨Nat.succ_le_succ few, ?_⟩
    rcases ends with ⟨rfl, all, others⟩ | ⟨rfl, earlier, last, rfl, ack, others⟩ | ⟨rfl, there, short, others⟩
    · exact .inl ⟨rfl, congrArg (· + 1) all, List.forall_mem_cons.mpr ⟨other, others⟩⟩
    · have none_ : ∀ record ∈ l.record :: earlier, record.head? ≠ some 1 :=
        List.forall_mem_cons.mpr ⟨other, others⟩
      exact .inr (.inl ⟨rfl, l.record :: earlier, last, rfl, ack, none_⟩)
    · exact .inr (.inr ⟨rfl, there, short, List.forall_mem_cons.mpr ⟨other, others⟩⟩)
  | answered seen whole ack =>
    exact ⟨Nat.le_add_left .., .inr (.inl ⟨rfl, [], _, rfl, ack, nofun⟩)⟩
  | cut seen short => exact ⟨Nat.le_add_left .., .inr (.inr ⟨rfl, seen, short, nofun⟩)⟩

end

end Device.Boot

namespace Board

open Boot

theorem course_announceFrom {config : Config} (some_ : config.helloRetryMs ≠ 0) {rounds : Nat} {elapsed : UInt64}
    (enough : roundsLeft config elapsed < rounds) {b : Board} (h : b.line.Scripted) :
    ∃ sent records ended l', (announceFrom config rounds elapsed).run answer b = (ended, { b with line := l' }) ∧
      Course (Word.mulSat config.helloRetryMs Timing.usPerMs) (roundsLeft config elapsed) b.line sent records ended
        l' := by
  induction rounds generalizing elapsed b with
  | zero => exact absurd enough (Nat.not_lt_zero _)
  | succ rounds ih =>
    by_cases within : elapsed < config.helloTimeoutMs
    · rw [roundsLeft_within some_ within] at enough ⊢
      have enough := Nat.lt_of_succ_lt_succ enough
      -- a round that finds no ACK is followed by a pause and the rest of the search
      have further {l₁ : Line} (h₁ : l₁.Scripted) : ∃ sent records ended l',
          (pause config.helloRetryMs >>= fun _ => announceFrom config rounds
            (Word.addSat elapsed config.helloRetryMs)).run answer { b with line := l₁ } =
              (ended, { b with line := l' }) ∧
          Course (Word.mulSat config.helloRetryMs Timing.usPerMs)
            (roundsLeft config (Word.addSat elapsed config.helloRetryMs))
            (l₁.rested (Word.mulSat config.helloRetryMs Timing.usPerMs)) sent records ended l' := by
        have rested := run_rest (b := { b with line := l₁ }) h₁ config.helloRetryMs
        obtain ⟨sent, records, ended, l', ran, course⟩ := ih enough (b := { b with
          line := l₁.rested (Word.mulSat config.helloRetryMs Timing.usPerMs) }) (h₁.rested _)
        exact ⟨sent, records, ended, l', (run_bind_ok rested).trans ran, course⟩
      rw [announceFrom, if_pos within, run_bind_ok (run_greet h)]
      cases seen : b.line.visible with
      | false =>
        obtain ⟨sent, records, ended, l', ran, course⟩ := further h.greeted
        have unheard := run_answered_unseen (b := { b with line := b.line.greeted }) h.greeted seen
        exact ⟨sent + 1, records, ended, l', (run_bind_ok unheard).trans ran, .silent seen course⟩
      | true =>
        rcases Nat.lt_or_ge b.line.incoming.length Response.width with short | whole
        · have closed := run_answered_cut (b := { b with line := b.line.greeted }) h.greeted seen short
          exact ⟨1, [], _, _, run_bind_error closed, .cut seen short⟩
        have heard := run_answered_heard (b := { b with line := b.line.greeted }) h.greeted seen whole
        by_cases ack : b.line.record.head? = some 1
        · have found : (b.line.greeted.record.head? == some 1) = true := beq_iff_eq.mpr ack
          rw [found] at heard
          exact ⟨1, [b.line.record], _, _, run_bind_ok heard, .answered seen whole ack⟩
        · have other : (b.line.greeted.record.head? == some 1) = false := beq_eq_false_iff_ne.mpr ack
          rw [other] at heard
          obtain ⟨sent, records, ended, l', ran, course⟩ := further h.greeted.taken
          exact ⟨sent + 1, b.line.record :: records, ended, l', (run_bind_ok heard).trans ran,
            .ignored seen whole ack course⟩
    · rw [announceFrom, if_neg within, roundsLeft_spent within]
      exact ⟨0, [], _, b.line, rfl, .spent⟩

/-- whatever its input and whenever it can be seen, a search sends as many HELLOs as intervals begin within its
budget, unless it is answered or finds the line closed before; after each of them it reads the next record if
something can be seen by then, up to the first ACK, and no further; and it pauses after each that is not answered -/
theorem announces (b : Board) (h : b.line.Scripted) (some_ : b.config.helloRetryMs ≠ 0) :
    let us := Word.mulSat b.config.helloRetryMs Timing.usPerMs
    let budget := b.config.helloTimeoutMs.toNat ⌈/⌉ b.config.helloRetryMs.toNat
    us.toNat = min (b.config.helloRetryMs.toNat * 1000) (2 ^ 64 - 1) ∧
    ∃ sent records ended l', b.announce = (ended, { b with line := l' }) ∧
      Course us budget b.line sent records ended l' ∧
      l'.outgoing = b.line.outgoing ++ (List.replicate sent helloBytes).flatten ∧
      records = b.line.front records.length ∧ l'.incoming = b.line.incoming.drop (3 * records.length) ∧
      (∃ pauses, sent = pauses + (if ended = .ok false then 0 else 1) ∧
        l'.clock.delayedUs = b.line.clock.delayedUs + UInt64.ofNat pauses * us) ∧
      sent ≤ budget ∧
      (ended = .ok false ∧ sent = budget ∧ (∀ record ∈ records, record.head? ≠ some 1) ∨
        ended = .ok true ∧ (∃ earlier last, records = earlier ++ [last] ∧ last.head? = some 1 ∧
          ∀ record ∈ earlier, record.head? ≠ some 1) ∨
        ended = .error (.failed (.link .closed)) ∧ l'.visible = true ∧ l'.incoming.length < 3 ∧
          ∀ record ∈ records, record.head? ≠ some 1) := by
  intro us budget
  refine ⟨Word.toNat_mulSat_eq_min .., ?_⟩
  have enough : roundsLeft b.config 0 < b.rounds :=
    Nat.lt_succ_of_le ((roundsLeft_le some_).trans (Nat.le_add_left ..))
  obtain ⟨sent, records, ended, l', ran, course⟩ := course_announceFrom some_ enough h
  exact ⟨sent, records, ended, l', ran, course, course.outgoing, course.incoming.1, course.incoming.2,
    course.delayed, course.ends⟩

/-- a record whose last bytes come late keeps the device waiting, and is no ACK although there is a 1 in it; the
next one is, and the byte behind it is not read -/
theorem announces_after_noise :
    let quiet := Board.standard 1
    let b := { quiet with
      line := ((quiet.line.push 300000000 [0]).push 900000000 [1, 1]).push 1000000000 [1, 7, 7, 9] }
    b.line.Scripted ∧ b.config.helloRetryMs ≠ 0 ∧ ∃ l', b.announce = (.ok true, { b with line := l' }) ∧
      l'.incoming = [(1000000000, 9)] ∧
      Course 250000 40 b.line 4 [[0, 1, 1], [1, 7, 7]] (.ok true) l' := by
  intro quiet b
  have h : b.line.Scripted := ⟨rfl, rfl⟩
  have some_ : b.config.helloRetryMs ≠ 0 := by decide
  have found : b.announce.1 = .ok true := by decide +kernel
  have said : b.announce.2.line.outgoing = (List.replicate 4 helloBytes).flatten := by decide +kernel
  have left : b.announce.2.line.incoming = [(1000000000, 9)] := by decide +kernel
  obtain ⟨-, sent, records, ended, l', ran, course, spoken, front, rest, -⟩ := announces b h some_
  rw [ran] at found said left
  obtain rfl : ended = .ok true := found
  have four : sent = 4 := by
    have count : (List.replicate sent helloBytes).flatten.length = _ :=
      congrArg List.length (spoken.symm.trans said)
    rw [List.length_flatten, List.map_replicate, List.sum_replicate_nat] at count
    exact Nat.eq_of_mul_eq_mul_right (by decide : 0 < helloBytes.length) count
  have two : records.length = 2 := by
    have seven : b.line.incoming.length = 7 := rfl
    have count := congrArg List.length (rest.symm.trans left)
    rw [List.length_drop, seven, List.length_singleton] at count
    omega
  have us : Word.mulSat b.config.helloRetryMs Timing.usPerMs = 250000 := by decide
  have budget : b.config.helloTimeoutMs.toNat ⌈/⌉ b.config.helloRetryMs.toNat = 40 := by
    rw [Nat.ceilDiv_eq_add_pred_div]
    decide
  have both : b.line.front 2 = [[0, 1, 1], [1, 7, 7]] := rfl
  rw [two, both] at front
  rw [four, front, us, budget] at course
  exact ⟨h, some_, l', ran, left, course⟩

end Board

end FlashRescue
