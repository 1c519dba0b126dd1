import FlashRescue.Proofs.Host.Acknowledgement
import FlashRescue.Proofs.Host.Conduct

/-!
# HELLO is recognised in any stream

How a board is waited for, whatever is read and whatever the clock says: the last three bytes are all that counts,
and what is read before them, time outs between them and the zeros that the window starts with do not matter.

* `Client.recent`        the last three of the bytes that were heard; `recent_eq_hello`;
* `Client.attachWithin`  a board is waited for so many nanoseconds;
* `Host.Look`            a byte was asked for, and then the time; `Host.heard`: the bytes that came;
* `Host.Waited`          HELLO was looked for in vain;
* `Host.Scanned`         the ways in which looking for it can go; `recorded_scanned`: there are no others;
* `Host.Welcomed`        the ways in which waiting for a board can go; `recorded_welcomed`: there are no others;
* `hello_recognised`     what is written, read and reported then.
-/

namespace FlashRescue.Host

open Dialogue

/-! ## The window -/

namespace Client

/-- the last three of the bytes that were heard, after three zeros -/
def recent (bytes : List UInt8) : List UInt8 := (List.replicate 3 0 ++ bytes).drop bytes.length

theorem recent_concat (bytes : List UInt8) (byte : UInt8) :
    recent (bytes ++ [byte]) = (recent bytes).drop 1 ++ [byte] := by
  have long : bytes.length + 1 ≤ (List.replicate 3 0 ++ bytes).length := by
    rw [List.length_append, List.length_replicate]
    omega
  rw [recent, recent, List.length_append, List.length_singleton, ← List.append_assoc,
    List.drop_append_of_le_length long, List.drop_drop]

/-- the window shows a HELLO just if the last bytes that were heard are one -/
theorem recent_eq_hello (bytes : List UInt8) : recent bytes = helloBytes ↔ [0x10, 0, 0] <:+ bytes := by
  constructor
  · intro shows
    refine hello_suffix ?_
    rw [← shows]
    exact List.drop_suffix ..
  · intro heard
    have last := List.suffix_iff_eq_drop.mp (heard.trans (List.suffix_append (List.replicate 3 0) bytes))
    rw [List.length_append, List.length_replicate, List.length_cons, List.length_cons, List.length_singleton,
      Nat.add_sub_cancel_left] at last
    exact last.symm

/-! ## Waiting for nanoseconds -/

/-- waits so many nanoseconds for HELLO, answers it and throws away the ones that were still on their way -/
def attachWithin (c : Client) (ns : Nat) : Talk Unit := do
  let start ← now
  scanFor (start + ns) (UInt64.ofNat (ns / Timing.nsPerMs.toNat)) c.rounds (List.replicate 3 0)
  demand (Link.sendResponse .ack)
  .ask (.sleep attachPauseMs) fun _ => c.discard

theorem attach_eq (c : Client) (wait : UInt64) :
    c.attach wait = c.attachWithin (wait.toNat * Timing.nsPerMs.toNat) := by
  rw [attach, attachWithin, Nat.mul_div_cancel _ (by decide : 0 < Timing.nsPerMs.toNat), UInt64.ofNat_toNat]

end Client

/-! ## Looking for HELLO -/

/-- a byte was asked for, and then the time -/
structure Look where
  reply : Except LinkError (Vector UInt8 1)
  time : Nat

def Look.calls (look : Look) : List Call := [⟨.link (.read 1), look.reply⟩, ⟨.now, look.time⟩]

/-- the bytes that came -/
def heard (looks : List Look) : List UInt8 := delivered (looks.flatMap Look.calls)

/-- HELLO was looked for in vain: nothing went wrong but that some bytes did not come in time, the bytes that came
do not contain it, and the time was not over -/
structure Waited (deadline : Nat) (looks : List Look) : Prop where
  harmless : ∀ look ∈ looks, ∀ e, look.reply = .error e → e.isTimeout = true
  without : ¬ [0x10, 0, 0] <:+: heard looks
  early : ∀ look ∈ looks, look.time < deadline

/-- the ways in which looking for HELLO can go -/
inductive Scanned (deadline : Nat) (wait : UInt64) (rounds : Nat) : List Call → Except (Stop Error) Unit → Prop
  /-- a byte completes it -/
  | found {looks : List Look} {byte : Vector UInt8 1} (waited : Waited deadline looks)
      (complete : [0x10, 0, 0] <:+ heard looks ++ byte.toList) :
      Scanned deadline wait rounds (looks.flatMap Look.calls ++ [⟨.link (.read 1), .ok byte⟩]) (.ok ())
  /-- something else goes wrong -/
  | failed {looks : List Look} {e : LinkError} (waited : Waited deadline looks) (other : e.isTimeout = false) :
      Scanned deadline wait rounds (looks.flatMap Look.calls ++ [⟨.link (.read 1), .error e⟩])
        (.error (.failed (.link e)))
  /-- the time is over after a byte that does not complete it, or after none -/
  | late {looks : List Look} {look : Look} (waited : Waited deadline looks)
      (harmless : ∀ e, look.reply = .error e → e.isTimeout = true)
      (without : ¬ [0x10, 0, 0] <:+: heard (looks ++ [look])) (late : deadline ≤ look.time) :
      Scanned deadline wait rounds ((looks ++ [look]).flatMap Look.calls) (.error (.failed (.noHello wait)))
  /-- it would be looked for further -/
  | endless {looks : List Look} (waited : Waited deadline looks) (all : looks.length = rounds) :
      Scanned deadline wait rounds (looks.flatMap Look.calls) (.error .unfinished)

section
variable {σ : Type} {answer : machine.Answerer σ} {s s' : σ} {calls calls' : List Call} {c : Client}
  {deadline : Nat} {wait : UInt64} {rounds : Nat} {looks : List Look} {look : Look}
  {ended : Except (Stop Error) Unit}

theorem calls_concat (looks : List Look) (look : Look) :
    (looks ++ [look]).flatMap Look.calls = looks.flatMap Look.calls ++ look.calls := by
  rw [List.flatMap_append, List.flatMap_singleton]

theorem heard_concat (looks : List Look) (look : Look) :
    heard (looks ++ [look]) = heard looks ++ got ⟨.link (.read 1), look.reply⟩ := by
  rw [heard, calls_concat, delivered_append]
  exact congrArg (heard looks ++ ·) (List.append_nil _)

theorem Waited.concat (h : Waited deadline looks) (harmless : ∀ e, look.reply = .error e → e.isTimeout = true)
    (without : ¬ [0x10, 0, 0] <:+: heard (looks ++ [look])) (early : look.time < deadline) :
    Waited deadline (looks ++ [look]) where
  harmless := List.forall_mem_append.mpr ⟨h.harmless, List.forall_mem_singleton.mpr harmless⟩
  without := without
  early := List.forall_mem_append.mpr ⟨h.early, List.forall_mem_singleton.mpr early⟩

/-- after a look that was in vain it is looked for further, unless the time is over -/
theorem recorded_looked {next : Talk Unit} {reply : Except LinkError (Vector UInt8 1)}
    (waited : Waited deadline looks) (harmless : ∀ e, reply = .error e → e.isTimeout = true)
    (without : ¬ [0x10, 0, 0] <:+: heard looks ++ got ⟨.link (.read 1), reply⟩)
    (further : ∀ {time s₁ later}, Waited deadline (looks ++ [⟨reply, time⟩]) →
      Recorded answer next s₁ later ended s' →
        Scanned deadline wait rounds ((looks ++ [Look.mk reply time]).flatMap Look.calls ++ later) ended)
    (h : Recorded answer (Client.before deadline wait next) s calls ended s') :
    Scanned deadline wait rounds (looks.flatMap Look.calls ++ ⟨.link (.read 1), reply⟩ :: calls) ended := by
  obtain ⟨later, rfl, going⟩ := Recorded.of_ask h
  have going : Recorded answer (if (answer .now s).1 ≥ deadline then throw (.noHello wait) else next)
    (answer .now s).2 later ended s' := going
  generalize answer .now s = told at going ⊢
  obtain ⟨time, s₁⟩ := told
  have still : ¬ [0x10, 0, 0] <:+: heard (looks ++ [⟨reply, time⟩]) := by rwa [heard_concat]
  have looked : (looks ++ [Look.mk reply time]).flatMap Look.calls ++ later =
      looks.flatMap Look.calls ++ ⟨.link (.read 1), reply⟩ :: ⟨.now, time⟩ :: later := by
    rw [calls_concat, List.append_assoc]
    rfl
  rw [← looked]
  by_cases past : time ≥ deadline
  · rw [if_pos past] at going
    obtain ⟨rfl, rfl, -⟩ := going.unique (recorded_stop (.failed (Error.noHello wait)) s₁)
    rw [List.append_nil]
    exact .late waited harmless still past
  · rw [if_neg past] at going
    exact further (waited.concat harmless still (Nat.lt_of_not_ge past)) going

theorem scanned_after (waited : Waited deadline looks) {left : Nat} (total : looks.length + left = rounds)
    (h : Recorded answer (Client.scanFor deadline wait left (Client.recent (heard looks))) s calls ended s') :
    Scanned deadline wait rounds (looks.flatMap Look.calls ++ calls) ended := by
  induction left generalizing looks s calls with
  | zero =>
    obtain ⟨rfl, rfl, -⟩ := h.unique (recorded_stop .unfinished s)
    rw [List.append_nil]
    exact .endless waited total
  | succ left ih =>
    -- the look counts as one of those that were in vain
    have further {reply : Except LinkError (Vector UInt8 1)} {window : List UInt8}
        (same : window = Client.recent (heard looks ++ got ⟨.link (.read 1), reply⟩)) {time : Nat} {s₁ : σ}
        {later : List Call} (waited : Waited deadline (looks ++ [⟨reply, time⟩]))
        (going : Recorded answer (Client.scanFor deadline wait left window) s₁ later ended s') :
        Scanned deadline wait rounds ((looks ++ [Look.mk reply time]).flatMap Look.calls ++ later) ended := by
      have count : (looks ++ [Look.mk reply time]).length + left = rounds := by
        rw [List.length_append, List.length_singleton]
        omega
      rw [same, ← heard_concat looks ⟨reply, time⟩] at going
      exact ih waited count going
    obtain ⟨rest, rfl, going⟩ := Recorded.of_ask h
    generalize answer (.link (.read 1)) s = replied at going ⊢
    obtain ⟨reply, s₁⟩ := replied
    cases reply with
    | ok byte =>
      obtain ⟨value, one⟩ : ∃ value, byte.toList = [value] := List.length_eq_one_iff.mp byte.length_toList
      have window : (Client.recent (heard looks)).drop 1 ++ byte.toList =
          Client.recent (heard looks ++ byte.toList) := by
        rw [one, Client.recent_concat]
      have going : Recorded answer (if (Client.recent (heard looks)).drop 1 ++ byte.toList = Client.helloBytes
          then return else Client.before deadline wait (Client.scanFor deadline wait left
            ((Client.recent (heard looks)).drop 1 ++ byte.toList))) s₁ rest ended s' := going
      rw [window] at going
      by_cases complete : Client.recent (heard looks ++ byte.toList) = Client.helloBytes
      · rw [if_pos complete] at going
        obtain ⟨rfl, rfl, -⟩ := going.unique (recorded_done () s₁)
        exact .found waited ((Client.recent_eq_hello _).mp complete)
      · rw [if_neg complete] at going
        refine recorded_looked waited nofun ?_ (further rfl) going
        intro inside
        have inside : [0x10, 0, 0] <:+: heard looks ++ [value] := one ▸ inside
        rcases List.infix_concat_iff.mp inside with last | earlier
        · exact complete ((Client.recent_eq_hello _).mpr (one ▸ last))
        · exact waited.without earlier
    | error e =>
      have going : Recorded answer (if e.isTimeout then Client.before deadline wait
          (Client.scanFor deadline wait left (Client.recent (heard looks))) else throw (.link e)) s₁ rest ended
        s' := going
      by_cases timeout : e.isTimeout = true
      · rw [if_pos timeout] at going
        have none_ : heard looks ++ got ⟨.link (.read 1), .error e⟩ = heard looks := List.append_nil _
        refine recorded_looked waited (fun e' same => ?_) ?_ (further ?_) going
        · cases same
          exact timeout
        · rw [none_]
          exact waited.without
        · rw [none_]
      · rw [if_neg timeout] at going
        obtain ⟨rfl, rfl, -⟩ := going.unique (recorded_stop (.failed (Error.link e)) s₁)
        exact .failed waited (Bool.eq_false_iff.mpr timeout)

theorem recorded_scanned
    (h : Recorded answer (Client.scanFor deadline wait rounds (List.replicate 3 0)) s calls ended s') :
    Scanned deadline wait rounds calls ended := by
  have none_ : Waited deadline [] := ⟨nofun, by decide, nofun⟩
  exact scanned_after none_ (Nat.zero_add rounds) h

theorem silent_looks (looks : List Look) : packets (looks.flatMap Look.calls) = [] := by
  refine packets_quiet fun call mem => ?_
  obtain ⟨look, -, among⟩ := List.mem_flatMap.mp mem
  rcases List.mem_cons.mp among with rfl | among
  · rfl
  · cases List.mem_singleton.mp among
    rfl

theorem Scanned.silent (h : Scanned deadline wait rounds calls ended) : packets calls = [] := by
  cases h with
  | found waited complete =>
    rw [packets_append, silent_looks]
    rfl
  | failed waited other =>
    rw [packets_append, silent_looks]
    rfl
  | late waited harmless without late => exact silent_looks _
  | endless waited all => exact silent_looks _

theorem delivered_last (looks : List Look) (reply : Except LinkError (Vector UInt8 1)) :
    delivered (looks.flatMap Look.calls ++ [⟨.link (.read 1), reply⟩]) =
      heard looks ++ got ⟨.link (.read 1), reply⟩ := by
  rw [delivered_append]
  exact congrArg (heard looks ++ ·) (List.append_nil _)

/-- if it is found then it is what was read last -/
theorem Scanned.of_ok (h : Scanned deadline wait rounds calls (.ok ())) : [0x10, 0, 0] <:+ delivered calls := by
  cases h with
  | found waited complete =>
    rw [delivered_last]
    exact complete

/-- if it is not found then it is not in what was read -/
theorem Scanned.of_error {why : Stop Error} (h : Scanned deadline wait rounds calls (.error why)) :
    ¬ [0x10, 0, 0] <:+: delivered calls := by
  cases h with
  | failed waited other =>
    rw [delivered_last]
    exact (List.append_nil _).symm ▸ waited.without
  | late waited harmless without late => exact without
  | endless waited all => exact waited.without

theorem Waited.now_early (h : Waited deadline looks) {time : Nat}
    (mem : ⟨.now, time⟩ ∈ looks.flatMap Look.calls) : time < deadline := by
  obtain ⟨look, among, told⟩ := List.mem_flatMap.mp mem
  rcases List.mem_cons.mp told with same | told
  · cases same
  · cases List.mem_singleton.mp told
    exact h.early look among

/-- it is given up just if the clock was read when the time was over -/
theorem Scanned.late_iff (h : Scanned deadline wait rounds calls ended) :
    ended = .error (.failed (.noHello wait)) ↔ ∃ time, deadline ≤ time ∧ ⟨.now, time⟩ ∈ calls := by
  have never {looks : List Look} (waited : Waited deadline looks) {calls : List Call}
      (rest : ∀ time, ⟨.now, time⟩ ∈ calls → ⟨.now, time⟩ ∈ looks.flatMap Look.calls) :
      ¬ ∃ time, deadline ≤ time ∧ ⟨.now, time⟩ ∈ calls := fun ⟨time, past, mem⟩ =>
    Nat.not_lt_of_le past (waited.now_early (rest time mem))
  have last {calls : List Call} {reply : Except LinkError (Vector UInt8 1)} (time : Nat)
      (mem : ⟨.now, time⟩ ∈ calls ++ [⟨.link (.read 1), reply⟩]) : ⟨.now, time⟩ ∈ calls := by
    rcases List.mem_append.mp mem with earlier | same
    · exact earlier
    · cases List.mem_singleton.mp same
  cases h with
  | found waited complete => exact iff_of_false nofun (never waited last)
  | failed waited other => exact iff_of_false nofun (never waited last)
  | @late looks look waited harmless without late =>
    refine iff_of_true rfl ⟨look.time, late, ?_⟩
    rw [calls_concat]
    exact List.mem_append_right _ (List.mem_cons_of_mem _ List.mem_cons_self)
  | endless waited all => exact iff_of_false nofun (never waited fun _ mem => mem)

end

/-! ## Waiting for a board -/

/-- the ways in which a board can be waited for, up to a time -/
inductive Welcomed (c : Client) (deadline : Nat) (wait : UInt64) : List Call → Except (Stop Error) Unit → Prop
  | unheard {calls : List Call} {why : Stop Error} (scanned : Scanned deadline wait c.rounds calls (.error why)) :
      Welcomed c deadline wait calls (.error why)
  /-- the ACK does not go out -/
  | unsent {calls : List Call} (scanned : Scanned deadline wait c.rounds calls (.ok ())) (e : LinkError) :
      Welcomed c deadline wait (calls ++ [⟨.link (.write Response.ack.encode), .error e⟩])
        (.error (.failed (.packet e)))
  /-- what is queued after the pause cannot be thrown away -/
  | clogged {calls rest : List Call} {why : Stop Error} (scanned : Scanned deadline wait c.rounds calls (.ok ()))
      (clogged : Clogged c rest why) :
      Welcomed c deadline wait
        (calls ++ ⟨.link (.write Response.ack.encode), .ok ()⟩ :: ⟨.sleep 350, ()⟩ :: rest) (.error why)
  | welcomed {calls rest : List Call} (scanned : Scanned deadline wait c.rounds calls (.ok ()))
      (drained : Drained rest) :
      Welcomed c deadline wait
        (calls ++ ⟨.link (.write Response.ack.encode), .ok ()⟩ :: ⟨.sleep 350, ()⟩ :: rest) (.ok ())

section
variable {σ : Type} {answer : machine.Answerer σ} {s s' : σ} {calls : List Call} {c : Client}
  {deadline : Nat} {wait : UInt64} {ended : Except (Stop Error) Unit}

theorem recorded_welcomed {ns : Nat} (h : Recorded answer (c.attachWithin ns) s calls ended s') :
    ∃ start rest, calls = ⟨.now, start⟩ :: rest ∧
      Welcomed c (start + ns) (UInt64.ofNat (ns / Timing.nsPerMs.toNat)) rest ended := by
  obtain ⟨rest, rfl, looking⟩ := Recorded.of_ask h
  refine ⟨_, rest, rfl, ?_⟩
  have looking : Recorded answer (Client.scanFor ((answer .now s).1 + ns)
      (UInt64.ofNat (ns / Timing.nsPerMs.toNat)) c.rounds (List.replicate 3 0) >>= fun _ =>
        demand (Link.sendResponse .ack) >>= fun _ => .ask (.sleep Client.attachPauseMs) fun _ => c.discard)
      (answer .now s).2 rest ended s' := looking
  rcases looking.of_bind with ⟨why, rfl, stopped⟩ | ⟨scan, _, s₁, rest, rfl, found, acknowledging⟩
  · exact .unheard (recorded_scanned stopped)
  have scanned := recorded_scanned found
  rcases acknowledging.of_bind with ⟨why, rfl, stopped⟩ | ⟨sending, _, s₂, rest, rfl, sent, resting⟩
  · obtain ⟨e, rfl, rfl⟩ := Client.recorded_unsent stopped
    exact .unsent scanned e
  obtain rfl := Client.recorded_sent sent
  obtain ⟨discarded, rfl, discarding⟩ := Recorded.of_ask resting
  cases ended with
  | ok _ => exact .welcomed scanned (Client.recorded_discard discarding)
  | error why => exact .clogged scanned (Client.recorded_clogged discarding)

/-- an ACK is written just if HELLO is in what was read, and nothing else is written -/
theorem Welcomed.answered (h : Welcomed c deadline wait calls ended) :
    packets calls = [Response.ack.encode] ∧ [0x10, 0, 0] <:+: delivered calls ∨
      packets calls = [] ∧ ¬ [0x10, 0, 0] <:+: delivered calls := by
  have said {calls tail : List Call} (scanned : Scanned deadline wait c.rounds calls (.ok ()))
      (answers : packets tail = [Response.ack.encode]) :
      packets (calls ++ tail) = [Response.ack.encode] ∧ [0x10, 0, 0] <:+: delivered (calls ++ tail) := by
    rw [packets_append, scanned.silent, answers, delivered_append]
    exact ⟨rfl, scanned.of_ok.isInfix.trans (List.prefix_append ..).isInfix⟩
  cases h with
  | unheard scanned => exact .inr ⟨scanned.silent, scanned.of_error⟩
  | unsent scanned e => exact .inl (said scanned rfl)
  | clogged scanned clogged => exact .inl (said scanned (congrArg (Response.ack.encode :: ·) clogged.silent))
  | welcomed scanned drained => exact .inl (said scanned (congrArg (Response.ack.encode :: ·) drained.silent))

theorem Clogged.now_not_mem {why : Stop Error} (h : Clogged c calls why) (time : Nat) :
    (⟨.now, time⟩ : Call) ∉ calls := fun mem =>
  h.forall_mem (p := fun call => call ≠ ⟨.now, time⟩) nofun nofun _ mem rfl

theorem Drained.now_not_mem (h : Drained calls) (time : Nat) : (⟨.now, time⟩ : Call) ∉ calls := fun mem =>
  h.forall_mem (p := fun call => call ≠ ⟨.now, time⟩) nofun nofun _ mem rfl

/-- it is given up just if the clock was read when the time was over -/
theorem Welcomed.late_iff (h : Welcomed c deadline wait calls ended) :
    ended = .error (.failed (.noHello wait)) ↔ ∃ time, deadline ≤ time ∧ ⟨.now, time⟩ ∈ calls := by
  -- once HELLO was found the clock is not read
  have never {calls tail : List Call} (scanned : Scanned deadline wait c.rounds calls (.ok ()))
      (untold : ∀ time, (⟨.now, time⟩ : Call) ∉ tail) :
      ¬ ∃ time, deadline ≤ time ∧ ⟨.now, time⟩ ∈ calls ++ tail := by
    rintro ⟨time, past, mem⟩
    have earlier := (List.mem_append.mp mem).resolve_right (untold time)
    cases scanned.late_iff.mpr ⟨time, past, earlier⟩
  have rested {rest : List Call} (untold : ∀ time, (⟨.now, time⟩ : Call) ∉ rest) (time : Nat) :
      (⟨.now, time⟩ : Call) ∉
        (⟨.link (.write Response.ack.encode), .ok ()⟩ :: ⟨.sleep 350, ()⟩ :: rest : List Call) := by
    intro mem
    rcases List.mem_cons.mp mem with same | mem
    · cases same
    rcases List.mem_cons.mp mem with same | mem
    · cases same
    exact untold time mem
  cases h with
  | unheard scanned => exact scanned.late_iff
  | unsent scanned e =>
    refine iff_of_false nofun (never scanned fun time mem => ?_)
    cases List.mem_singleton.mp mem
  | clogged scanned clogged =>
    refine iff_of_false ?_ (never scanned (rested clogged.now_not_mem))
    cases clogged <;> exact nofun
  | welcomed scanned drained => exact iff_of_false nofun (never scanned (rested drained.now_not_mem))

/-- if all went well then nothing was left to read in the end -/
theorem Welcomed.of_ok (h : Welcomed c deadline wait calls (.ok ())) :
    ∃ front, calls = front ++ [⟨.link .poll, false⟩] := by
  cases h with
  | @welcomed calls rest scanned drained =>
    obtain ⟨bytes, rfl⟩ := drained
    exact ⟨_, (List.append_assoc calls (⟨.link (.write Response.ack.encode), .ok ()⟩ :: ⟨.sleep 350, ()⟩ ::
      bytes.flatMap thrown) [⟨.link .poll, false⟩]).symm⟩

/-- whatever is read and whatever the clock says, a board is waited for in one of these ways: the bytes up to the
first HELLO in them are read, time outs or not, unless the clock says before that the time is over, or something
else goes wrong; the board is answered just if HELLO was there, and nothing else is written; it is given up just if
the clock was read when the time was over; and if all goes well then nothing is left to read after the pause -/
theorem hello_recognised {ns : Nat} (h : Recorded answer (c.attachWithin ns) s calls ended s') :
    (∀ wait, c.attach wait = c.attachWithin (wait.toNat * Timing.nsPerMs.toNat)) ∧
    ∃ start rest, calls = ⟨.now, start⟩ :: rest ∧
      Welcomed c (start + ns) (UInt64.ofNat (ns / Timing.nsPerMs.toNat)) rest ended ∧
      (packets rest = [Response.ack.encode] ∧ [0x10, 0, 0] <:+: delivered rest ∨
        packets rest = [] ∧ ¬ [0x10, 0, 0] <:+: delivered rest) ∧
      (ended = .error (.failed (.noHello (UInt64.ofNat (ns / Timing.nsPerMs.toNat)))) ↔
        ∃ time, start + ns ≤ time ∧ ⟨.now, time⟩ ∈ rest) ∧
      (ended = .ok () → ∃ front, rest = front ++ [⟨.link .poll, false⟩]) := by
  obtain ⟨start, rest, rfl, welcomed⟩ := recorded_welcomed h
  refine ⟨c.attach_eq, start, rest, rfl, welcomed, welcomed.answered, welcomed.late_iff, ?_⟩
  rintro rfl
  exact welcomed.of_ok

end

/-- noise, and a HELLO that is interrupted by a time out; the one behind it is thrown away -/
theorem hello_recognised_interrupted :
    let c : Client := {}
    let noise := [Delivery.bytes [0x00, 0x10, 0x10, 0x00], .gap, .bytes [0x00, 0x10, 0x00, 0x00]]
    let d : Desk := { cable := .connect .serial 500 (.scripted noise []), folder := Desk.working [] }
    ∃ start rest d', Recorded Desk.answer (c.attachWithin 1000000001) d (⟨.now, start⟩ :: rest) (.ok ()) d' ∧
      packets rest = [Response.ack.encode] ∧ delivered rest = [0x00, 0x10, 0x10, 0x00, 0x00, 0x10, 0x00, 0x00] := by
  intro c noise d
  have ran : ((c.attachWithin 1000000001).run Desk.answer d).1 = .ok () := by decide +kernel
  have read : delivered ((c.attachWithin 1000000001).transcript Desk.answer d) =
      [0x00, 0x10, 0x10, 0x00, 0x00, 0x10, 0x00, 0x00] := by decide +kernel
  have went := recorded (Prod.eta ((c.attachWithin 1000000001).run Desk.answer d)).symm
  rw [ran] at went
  obtain ⟨-, start, rest, same, -, answered, -⟩ := hello_recognised went
  rw [same] at went read
  have heard : delivered rest = _ := read
  refine ⟨start, rest, _, went, (answered.resolve_right fun ⟨_, without⟩ => without ?_).1, heard⟩
  rw [heard]
  decide

end FlashRescue.Host
