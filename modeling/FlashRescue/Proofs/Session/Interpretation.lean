import FlashRescue.Proofs.Session.Dispatch

/-!
# Sessions with all input at hand

On a board whose host has sent everything in advance a session is what the ledger says.

* `Board.Prompt`       all input can be seen at once, all writes go through, and the clock is virtual
                       with a tick below the timeout;
* `leads_request`      the loop passes from one request to the next;
* `run_idle`           with nothing left to read it times out, unless the clock wraps around before;
* `run_serve`          the loop as a whole;
* `serve_interpret`    a session is the interpretation of the bytes that were sent.
-/

namespace FlashRescue

open Device Device.Session

namespace Board

/-- the host has sent everything in advance, and no time is lost -/
structure Prompt (config : Config) (b : Board) : Prop where
  virtual : b.line.clock.process = none
  tick : b.line.clock.tick < silenceNs config
  laid : ∀ entry ∈ b.line.incoming, entry.1 = 0
  open_ : b.line.writesLeft = none

/-- how far a query moves a virtual clock -/
def takes : Query → Board → Nat
  | .now, b => b.line.clock.tick.toNat
  | .delay us, _ => (Word.mulSat us 1000).toNat
  | _, _ => 0

/-- the clock does not wrap around at this query -/
def KeepsTime (query : Query) (b : Board) : Prop :=
  b.line.clock.now.toNat + takes query b < UInt64.size

instance (query : Query) (b : Board) : Decidable (KeepsTime query b) :=
  inferInstanceAs (Decidable (_ < _))

variable {config : Config} {b b' : Board}

theorem Prompt.keeps (h : Prompt config b) (keeps : b.Keeps b') : Prompt config b' where
  virtual := keeps.virtual h.virtual
  tick := keeps.tick ▸ h.tick
  laid := fun entry mem => h.laid entry (keeps.incoming.subset mem)
  open_ := keeps.open_ h.open_

theorem Prompt.of_line (h : Prompt config b) (same : b'.line = b.line) : Prompt config b' where
  virtual := same ▸ h.virtual
  tick := same ▸ h.tick
  laid := same ▸ h.laid
  open_ := same ▸ h.open_

/-- the host sends more at once -/
theorem Prompt.push (h : Prompt config b) (bytes : List UInt8) :
    Prompt config { b with line := b.line.push 0 bytes } where
  virtual := h.virtual
  tick := h.tick
  laid := by
    intro entry mem
    rcases List.mem_append.mp mem with before | new
    · exact h.laid entry before
    · obtain ⟨byte, -, rfl⟩ := List.mem_map.mp new
      rfl
  open_ := h.open_

/-! ## Looking at the line and the clock -/

theorem run_poll_prompt (h : Prompt config b) :
    (Link.poll : Action Bool).run answer b = (.ok (!b.unread.isEmpty), b) := by
  have laid := h.laid
  have virtual := h.virtual
  obtain ⟨⟨⟨now, tick, delayed, process⟩, incoming, sent, left⟩, flash⟩ := b
  cases virtual
  cases incoming with
  | nil => rfl
  | cons entry incoming =>
    have first : entry.1 = 0 := laid entry List.mem_cons_self
    have seen : decide (entry.1 ≤ now) = true := by
      rw [first]
      exact decide_eq_true (UInt64.zero_le)
    exact congrArg (fun seen => (Except.ok seen, _)) seen

def ticked (b : Board) : Board :=
  { b with line.clock.now := b.line.clock.now + b.line.clock.tick }

theorem run_now_virtual (h : b.line.clock.process = none) :
    now.run answer b = (.ok b.line.clock.now, b.ticked) := by
  obtain ⟨⟨⟨now, tick, delayed, process⟩, incoming, sent, left⟩, flash⟩ := b
  cases h
  rfl

theorem trades_ticked (b : Board) : b.Trades b.ticked 0 [] :=
  ⟨rfl, (List.append_nil _).symm, id, rfl, id, rfl⟩

theorem watch_eq (config : Config) (last : UInt64) (next : Action Outcome) :
    watch config last next = .ask .now fun time =>
      if Word.subSat time last ≥ silenceNs config then throw .livenessTimeout else next := rfl

theorem keepsTime_of_watch {last : UInt64} {next : Action Outcome}
    (timely : (watch config last next).Throughout answer KeepsTime b) : KeepsTime .now b := by
  rw [watch_eq, Dialogue.throughout_ask] at timely
  exact timely.1

theorem leads_watch {last : UInt64} {next : Action Outcome} (h : b.line.clock.process = none)
    (soon : Word.subSat b.line.clock.now last < silenceNs config) :
    Dialogue.Leads answer (watch config last next) b next b.ticked := by
  have goes : ¬ Word.subSat b.line.clock.now last ≥ silenceNs config := UInt64.not_le.mpr soon
  have looked : Dialogue.Leads answer (watch config last next) b
      (if Word.subSat b.line.clock.now last ≥ silenceNs config then throw Error.livenessTimeout
        else next) b.ticked := Dialogue.leads_bind (run_now_virtual h)
  rwa [if_neg goes] at looked

/-- right after a look at the clock no more than a tick has passed -/
theorem subSat_tick_le (now tick : UInt64) : Word.subSat (now + tick) now ≤ tick := by
  rw [Word.subSat]
  split
  · rw [UInt64.add_comm, UInt64.add_sub_cancel]
    exact UInt64.le_refl _
  · exact UInt64.zero_le

/-! ## Requests -/

theorem heeded_prompt (valid : chunksFit config.chunkSize = true) (h : Prompt config b)
    (ready : b.flash.ready = true) (nacks : Bool) {r : Request} {rest : List UInt8}
    (next : Request.next? b.unread = some (r, rest)) :
    ∃ b' l, l = (b.ledger nacks).take config.chunkSize.toNat b.flash.failing r ∧
      (heed config nacks).run answer b = (.ok (after r l.nacks), b') ∧
      b.Keeps b' ∧ b'.unread = rest ∧ b'.ledger l.nacks = l := by
  have how : Heeded config nacks b _ _ := heeded valid ready
  generalize (heed config nacks).run answer b = ended at how
  obtain ⟨result, b'⟩ := ended
  cases how with
  | taken next' keeps step ledger =>
    rw [next] at next'
    cases next'
    exact ⟨b', _, step, rfl, keeps, rfl, ledger⟩
  | dropped _ _ _ free =>
    rw [(free h.open_).1] at next
    cases next
  | unreported _ _ _ _ limited => exact absurd h.open_ limited

theorem nonempty_of_next {bytes rest : List UInt8} {r : Request}
    (h : Request.next? bytes = some (r, rest)) : (!bytes.isEmpty) = true := by
  cases bytes with
  | nil => cases h
  | cons _ _ => rfl

/-- the loop passes from one request to the next -/
theorem leads_request (valid : chunksFit config.chunkSize = true) (h : Prompt config b)
    (ready : b.flash.ready = true) (rounds : Nat) (nacks : Bool) (last : UInt64) {r : Request}
    {rest : List UInt8} (next : Request.next? b.unread = some (r, rest)) (goes : r.outcome? = none) :
    ∃ b' l last', l = (b.ledger nacks).take config.chunkSize.toNat b.flash.failing r ∧
      Dialogue.Leads answer (Session.serve config (rounds + 1) nacks last) b
        (Session.serve config rounds l.nacks last') b' ∧
      b.Keeps b' ∧ b'.unread = rest ∧ b'.ledger l.nacks = l := by
  obtain ⟨b₁, l, step, ran, keeps, unread, ledger⟩ := heeded_prompt valid h ready nacks next
  have h₁ := h.keeps keeps
  have polled := run_poll_prompt h
  rw [nonempty_of_next next] at polled
  have soon : Word.subSat b₁.ticked.line.clock.now b₁.line.clock.now < silenceNs config :=
    UInt64.lt_of_le_of_lt (subSat_tick_le _ _) h₁.tick
  have onward : after r l.nacks = .proceed l.nacks := by rw [after, goes]
  rw [onward] at ran
  refine ⟨b₁.ticked.ticked, l, b₁.line.clock.now, step, ?_, ?_, unread, ledger⟩
  · rw [serve_succ]
    refine (Dialogue.leads_bind polled).trans ?_
    rw [if_pos rfl]
    refine (Dialogue.leads_bind ran).trans ((Dialogue.leads_bind (run_now_virtual h₁.virtual)).trans ?_)
    exact leads_watch h₁.virtual soon
  · exact keeps.trans (b₁.trades_ticked.trans b₁.ticked.trades_ticked).keeps

theorem run_serve_finish (valid : chunksFit config.chunkSize = true) (h : Prompt config b)
    (ready : b.flash.ready = true) (rounds : Nat) (nacks : Bool) (last : UInt64) {r : Request}
    {rest : List UInt8} {outcome : Outcome} (next : Request.next? b.unread = some (r, rest))
    (ends : r.outcome? = some outcome) :
    ∃ b' l, l = (b.ledger nacks).take config.chunkSize.toNat b.flash.failing r ∧
      (Session.serve config (rounds + 1) nacks last).run answer b = (.ok outcome, b') ∧
      b'.ledger l.nacks = l := by
  obtain ⟨b₁, l, step, ran, keeps, unread, ledger⟩ := heeded_prompt valid h ready nacks next
  have polled := run_poll_prompt h
  rw [nonempty_of_next next] at polled
  have finished : after r l.nacks = .finish outcome := by rw [after, ends]
  rw [finished] at ran
  refine ⟨b₁.ticked, l, step, ?_, ledger⟩
  rw [serve_succ, Dialogue.run_bind_ok polled, if_pos rfl, Dialogue.run_bind_ok ran,
    Dialogue.run_bind_ok (run_now_virtual (h.keeps keeps).virtual)]
  rfl

theorem run_serve_closed (valid : chunksFit config.chunkSize = true) (h : Prompt config b)
    (ready : b.flash.ready = true) (rounds : Nat) (nacks : Bool) (last : UInt64)
    (none : Request.next? b.unread = none) (some : b.unread ≠ []) :
    ∃ b', (Session.serve config (rounds + 1) nacks last).run answer b =
        (.error (.failed (.link .closed)), b') ∧
      b'.ledger nacks = (b.ledger nacks).say (Ledger.shortReply config.chunkSize.toNat b.unread) := by
  have polled := run_poll_prompt h
  have nonempty : (!b.unread.isEmpty) = true := by simpa using some
  have how : Heeded config nacks b _ _ := heeded valid ready
  rw [nonempty] at polled
  rw [serve_succ, Dialogue.run_bind_ok polled, if_pos rfl]
  generalize ran : (heed config nacks).run answer b = ended at how
  obtain ⟨result, b'⟩ := ended
  cases how with
  | taken next _ _ _ =>
    rw [none] at next
    cases next
  | dropped _ ledger _ free =>
    rw [(free h.open_).2] at ledger
    exact ⟨b', Dialogue.run_bind_error ran, ledger⟩
  | unreported _ _ _ _ limited => exact absurd h.open_ limited

/-! ## Silence -/

/-- nothing happens while the host is silent -/
theorem ledger_idle (h : Prompt config b) (rounds : Nat) (nacks : Bool) (last : UInt64)
    (silent : b.unread = []) :
    ((Session.serve config rounds nacks last).run answer b).2.ledger nacks = b.ledger nacks := by
  induction rounds generalizing b with
  | zero => rfl
  | succ rounds ih =>
    have polled := run_poll_prompt h
    rw [silent] at polled
    rw [serve_succ, Dialogue.run_bind_ok polled]
    obtain ⟨b', trade, ended | goes⟩ :=
      run_watch config last (Session.serve config rounds nacks last) b
    · have same := trade.ledger_read nacks
      rw [← same]
      exact congrArg (fun ended : Ended Outcome => ended.2.ledger nacks) ended
    · have silent' : b'.unread = [] := trade.unread.trans silent
      have same := trade.ledger_read nacks
      rw [← same, ← ih (h.keeps trade.keeps) silent']
      exact congrArg (fun ended : Ended Outcome => ended.2.ledger nacks) goes

/-- the session of a silent host times out.  The clock moves in each round, so the rounds do not run out
before it would wrap around -/
theorem run_idle (h : Prompt config b) (moves : 1 ≤ b.line.clock.tick) (rounds : Nat) (nacks : Bool)
    (last : UInt64) (silent : b.unread = [])
    (enough : UInt64.size ≤ b.line.clock.now.toNat + rounds)
    (timely : (Session.serve config rounds nacks last).Throughout answer KeepsTime b) :
    ((Session.serve config rounds nacks last).run answer b).1 =
      .error (.failed .livenessTimeout) := by
  induction rounds generalizing b with
  | zero =>
    have := b.line.clock.now.toNat_lt
    unfold UInt64.size at enough
    omega
  | succ rounds ih =>
    have polled := run_poll_prompt h
    rw [silent] at polled
    have leads : Dialogue.Leads answer (Session.serve config (rounds + 1) nacks last) b
        (watch config last (Session.serve config rounds nacks last)) b := by
      rw [serve_succ]
      exact Dialogue.leads_bind polled
    have timely := leads.throughout timely
    have fits : b.line.clock.now.toNat + b.line.clock.tick.toNat < UInt64.size :=
      keepsTime_of_watch timely
    rw [leads.run_eq]
    by_cases soon : Word.subSat b.line.clock.now last < silenceNs config
    · have onward : Dialogue.Leads answer
          (watch config last (Session.serve config rounds nacks last)) b _ b.ticked :=
        leads_watch h.virtual soon
      rw [onward.run_eq]
      have now' : b.ticked.line.clock.now.toNat =
          b.line.clock.now.toNat + b.line.clock.tick.toNat := by
        show (b.line.clock.now + b.line.clock.tick).toNat = _
        rw [UInt64.toNat_add]
        exact Nat.mod_eq_of_lt fits
      have moves' : 1 ≤ b.line.clock.tick.toNat := moves
      exact ih (h.keeps b.trades_ticked.keeps) moves silent (by omega) (onward.throughout timely)
    · have late : Word.subSat b.line.clock.now last ≥ silenceNs config := UInt64.not_lt.mp soon
      rw [watch, Dialogue.run_bind_ok (run_now_virtual h.virtual), if_pos late]
      rfl

/-! ## The loop -/

/-- the loop comes to what the ledger says; that it times out takes a clock that goes on -/
theorem run_serve (valid : chunksFit config.chunkSize = true) (h : Prompt config b)
    (ready : b.flash.ready = true) (rounds : Nat) (nacks : Bool) (last : UInt64)
    (enough : (Request.cut b.unread).1.length < rounds) :
    let ended := (Session.serve config rounds nacks last).run answer b
    let told := Ledger.settle config.chunkSize.toNat b.flash.failing (Request.cut b.unread).1
      (Request.cut b.unread).2 (b.ledger nacks)
    ended.2.ledger told.2.nacks = told.2 ∧
      ((told.1 = .error .livenessTimeout → 1 ≤ b.line.clock.tick ∧
          UInt64.size + (Request.cut b.unread).1.length ≤ rounds ∧
          (Session.serve config rounds nacks last).Throughout answer KeepsTime b) →
        ended.1 = told.1.mapError .failed) := by
  generalize input : b.unread = unread at enough
  induction unread using Request.cut_induction generalizing b rounds nacks last with
  | short unread short =>
    rw [Request.cut_of_none short]
    cases unread with
    | nil =>
      refine ⟨ledger_idle h rounds nacks last input, fun goes => ?_⟩
      obtain ⟨moves, enough, timely⟩ := goes rfl
      rw [List.length_nil, Nat.add_zero] at enough
      exact run_idle h moves rounds nacks last input (Nat.le_add_left_of_le enough) timely
    | cons byte bytes =>
      obtain ⟨rounds, rfl⟩ := Nat.exists_eq_succ_of_ne_zero (Nat.ne_zero_of_lt enough)
      obtain ⟨b', ran, ledger⟩ := run_serve_closed valid h ready rounds nacks last
        (input ▸ short) (by rw [input]; nofun)
      rw [ran]
      rw [input] at ledger
      exact ⟨ledger, fun _ => rfl⟩
  | long unread r rest next ih =>
    rw [Request.cut_of_some next] at enough ⊢
    obtain ⟨rounds, rfl⟩ := Nat.exists_eq_succ_of_ne_zero (Nat.ne_zero_of_lt enough)
    have first : Request.next? b.unread = some (r, rest) := input ▸ next
    rw [Ledger.settle]
    cases ends : r.outcome? with
    | some outcome =>
      obtain ⟨b', l, step, ran, ledger⟩ :=
        run_serve_finish valid h ready rounds nacks last first ends
      rw [ran, ← step]
      exact ⟨ledger, fun _ => rfl⟩
    | none =>
      obtain ⟨b', l, last', step, leads, keeps, unread', ledger⟩ :=
        leads_request valid h ready rounds nacks last first ends
      subst step
      obtain ⟨same, result⟩ := ih (h.keeps keeps) (keeps.ready ready) rounds _ last' unread'
        (Nat.lt_of_succ_lt_succ enough)
      rw [ledger, keeps.failing] at same result
      rw [leads.run_eq]
      refine ⟨same, fun goes => result fun late => ?_⟩
      obtain ⟨moves, enough, timely⟩ := goes late
      rw [List.length_cons, ← Nat.add_assoc] at enough
      exact ⟨keeps.tick ▸ moves, Nat.le_of_add_le_add_right enough, leads.throughout timely⟩

/-! ## Sessions -/

theorem length_cut_unread_le (b : Board) : UInt64.size + (Request.cut b.unread).1.length ≤ b.rounds := by
  have requests := Request.length_cut_le b.unread
  have length : b.unread.length = b.line.incoming.length := List.length_map ..
  unfold rounds Line.rounds UInt64.size
  omega

/-- a session comes to what the ledger says -/
theorem serve_told (valid : b.config.validate = .ok ()) (prompt : Prompt b.config b)
    (inits : b.flash.failing.init = false) :
    let told := Ledger.interpret b.config.chunkSize.toNat b.flash.failing b.unread
      (b.ledger b.config.nackOnFailure)
    b.serve.2.ledger told.2.nacks = told.2 ∧
      ((told.1 = .error .livenessTimeout → 1 ≤ b.line.clock.tick ∧
          (Session.run b.config b.rounds).Throughout answer KeepsTime b) →
        b.serve.1 = told.1.mapError .failed) := by
  obtain ⟨f, failing, ledger, ⟨_, ready, init⟩ | ⟨fails, _⟩⟩ := run_init b
  case inr => simp [inits] at fails
  have prompt₁ : Prompt b.config { b with flash := f } := prompt.of_line rfl
  have looked := run_now_virtual prompt₁.virtual
  have trade := trades_ticked { b with flash := f }
  have leads : Dialogue.Leads answer (Session.run b.config b.rounds) b
      (Session.serve b.config b.rounds b.config.nackOnFailure b.line.clock.now)
      (ticked { b with flash := f }) :=
    (Dialogue.leads_bind init).trans (Dialogue.leads_bind looked)
  have enough := b.length_cut_unread_le
  have ⟨same, result⟩ := run_serve (chunksFit_of_validate valid) (prompt₁.keeps trade.keeps) ready
    b.rounds b.config.nackOnFailure b.line.clock.now
    (Nat.lt_of_lt_of_le (Nat.lt_add_of_pos_left (by decide)) enough)
  have ledger₁ : (ticked { b with flash := f }).ledger b.config.nackOnFailure =
      b.ledger b.config.nackOnFailure := (trade.ledger_read _).trans (ledger _)
  have failing₁ : (ticked { b with flash := f }).flash.failing = b.flash.failing := failing
  rw [ledger₁, failing₁] at same result
  rw [serve, play, leads.run_eq]
  refine ⟨same, fun goes => result fun late => ?_⟩
  obtain ⟨moves, timely⟩ := goes late
  exact ⟨moves, enough, leads.throughout timely⟩

theorem serve_interpret (valid : b.config.validate = .ok ()) (prompt : Prompt b.config b)
    (inits : b.flash.failing.init = false) (moves : 1 ≤ b.line.clock.tick)
    (timely : (Session.run b.config b.rounds).Throughout answer KeepsTime b) :
    let told := Ledger.interpret b.config.chunkSize.toNat b.flash.failing b.unread
      (b.ledger b.config.nackOnFailure)
    b.serve.1 = told.1.mapError .failed ∧ b.serve.2.ledger told.2.nacks = told.2 := by
  have ⟨same, result⟩ := serve_told valid prompt inits
  exact ⟨result fun _ => ⟨moves, timely⟩, same⟩

/-! ## A host that breaks off -/

theorem prompt_standard (blocks : Nat) (nacks : Bool) : Prompt { nackOnFailure := nacks } (standard blocks) :=
  ⟨rfl, show standardTick < silenceNs {} by decide, nofun, rfl⟩

/-- a standard board whose host has sent some bytes -/
def fed (blocks : Nat) (bytes : List UInt8) : Board :=
  { standard blocks with line := (standard blocks).line.push 0 bytes }

/-- NACKs are asked for, the checksums of a block and of one that there is not, and to replace a block -/
def asked : List Request :=
  [.bare .nackMode 0, .bare .checksum 1, .bare .checksum 2, .write 0 (List.replicate blockSize 7)]

/-- a WRITE that breaks off within its second chunk -/
def brokenOff : List UInt8 := (Command.of .write 1).encode ++ List.replicate 100 7

theorem next?_brokenOff : Request.next? brokenOff = none := by
  rw [brokenOff, Request.next?_command, Command.payload_write rfl, List.length_replicate, if_neg (by decide)]

/-- what becomes of the requests on a flash of two blocks that cannot be programmed -/
theorem takeAll_asked {content : List UInt8} (two : blockCount content = 2) :
    (Ledger.mk content false [] 0 0 0).takeAll 64 { programs := true } asked =
      { content := putBlock content 0 erasedBlock
        nacks := true
        sent := Response.ack.encode ++ Ledger.checksumReply content 1 ++ Response.nack.encode ++
          Ledger.acks 65 ++ Response.nack.encode
        resets := 0
        erases := 1
        programs := 1 } := by
  have there : readable { programs := true } content 1 = true := by
    rw [readable, two]
    rfl
  have beyond : readable { programs := true } content 2 = false := by
    rw [readable, two]
    rfl
  have erased : erasable { programs := true } content 0 = true := by
    rw [erasable, two]
    rfl
  have fails : replaces { programs := true } content 0 = false := by
    rw [replaces, erased]
    rfl
  have start : (Ledger.mk content false [] 0 0 0).take 64 { programs := true } (.bare .nackMode 0) =
      ⟨content, true, Response.ack.encode, 0, 0, 0⟩ := rfl
  have stored (l : Ledger) : l.take 64 { programs := true } (.write 0 (List.replicate blockSize 7)) =
      ((l.say (Ledger.acks 65)).store { programs := true } 0 (List.replicate blockSize 7)).say
        (Ledger.complaint { programs := true } l 0) :=
    l.take_write 64 { programs := true } (Request.isWrite_write 0 (List.replicate blockSize 7))
  rw [asked, Ledger.takeAll_cons, start]
  simp [Ledger.takeAll, Ledger.take_asked, stored, Ledger.answered, Ledger.complaint, Ledger.store, Ledger.say,
    replaced, there, beyond, erased, fails]

/-- a board with two blocks of zeros, which can be erased but not programmed, and a host that breaks off -/
def worn : Board :=
  { fed 2 (asked.flatMap Request.encode ++ brokenOff) with
    flash := { cells := ⟨⟨List.replicate (2 * blockSize) 0⟩⟩, failing := { programs := true } } }

theorem line_worn : worn.line = (fed 2 (asked.flatMap Request.encode ++ brokenOff)).line := by rw [worn]

theorem ledger_worn : worn.ledger false = ⟨List.replicate (2 * blockSize) 0, false, [], 0, 0, 0⟩ := by
  rw [worn]
  rfl

theorem cut_worn : Request.cut worn.unread = (asked, brokenOff) := by
  have whole : ∀ r ∈ asked, r.Whole := by
    simp only [asked, List.forall_mem_cons]
    exact ⟨Request.whole_bare (by decide) 0, Request.whole_bare (by decide) 1, Request.whole_bare (by decide) 2,
      Request.whole_write 0 List.length_replicate, List.forall_mem_nil _⟩
  have sent : worn.unread = asked.flatMap Request.encode ++ brokenOff := by
    rw [unread, line_worn]
    exact unread_push (standard 2) 0 _
  rw [sent, Request.cut_flatMap whole, Request.cut_of_none next?_brokenOff, List.append_nil]

/-- both WRITEs are acknowledged as far as they came, and the one that came in full leaves its block erased -/
def settledWorn : Ledger where
  content := erasedBlock ++ List.replicate blockSize 0
  nacks := true
  sent := Response.ack.encode ++ Ledger.checksumReply (List.replicate (2 * blockSize) 0) 1 ++ Response.nack.encode ++
    Ledger.acks 65 ++ Response.nack.encode ++ Ledger.acks 2
  resets := 0
  erases := 1
  programs := 1

theorem interpret_worn :
    Ledger.interpret 64 { programs := true } worn.unread (worn.ledger false) =
      (.error (.link .closed), settledWorn) := by
  have goes : ∀ r ∈ asked, r.outcome? = none := by
    simp only [asked, List.forall_mem_cons]
    exact ⟨rfl, rfl, rfl, rfl, List.forall_mem_nil _⟩
  have erased : putBlock (List.replicate (2 * blockSize) 0) 0 erasedBlock =
      erasedBlock ++ List.replicate blockSize 0 := by
    rw [putBlock_first, List.drop_replicate, Nat.two_mul, Nat.add_sub_cancel]
  have settled := Ledger.settle_append 64 { programs := true } goes [] brokenOff (worn.ledger false)
  rw [List.append_nil, ledger_worn, takeAll_asked (blockCount_replicate 2 0), erased] at settled
  rw [Ledger.interpret, cut_worn, ledger_worn, settled]
  rfl

theorem serve_interpret_worn :
    (worn.config.validate = .ok () ∧ Prompt worn.config worn ∧ worn.flash.failing.init = false ∧
      1 ≤ worn.line.clock.tick ∧ (Session.run worn.config worn.rounds).Throughout answer KeepsTime worn) ∧
    worn.serve.1 = .error (.failed (.link .closed)) ∧ worn.serve.2.ledger true = settledWorn := by
  have prompt : Prompt worn.config worn :=
    ((prompt_standard 2 false).push (asked.flatMap Request.encode ++ brokenOff)).of_line line_worn
  have timely : (Session.run worn.config worn.rounds).Throughout answer KeepsTime worn := by decide +kernel
  obtain ⟨ended, ledger⟩ := serve_interpret rfl prompt rfl (by decide) timely
  have told : Ledger.interpret worn.config.chunkSize.toNat worn.flash.failing worn.unread
      (worn.ledger worn.config.nackOnFailure) = (.error (.link .closed), settledWorn) := interpret_worn
  rw [told] at ended ledger
  exact ⟨⟨rfl, prompt, rfl, by decide, timely⟩, ended, ledger⟩

end Board

end FlashRescue
