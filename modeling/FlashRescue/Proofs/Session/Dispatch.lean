import FlashRescue.Proofs.Session.Trade

/-!
# Carrying requests out

What becomes of the request at the head of a host's input.

* `Board.Keeps`     what no request changes;
* `Session.heed`    waits for the rest of a command, reads it and carries it out;
* `Board.Heeded`    the three ways in which that can end: the request was taken, the line was closed
                    before anything was done to the flash, or to the NACK of a WRITE that failed;
* `heeded`          there is no other way.
-/

namespace FlashRescue

open Device Device.Session

namespace Board

/-! ## What no request changes -/

/-- `b'` comes after `b` in a session: what was on the line is read from its front, and of the rest only the
flash and the number of resets can differ -/
structure Keeps (b b' : Board) : Prop where
  incoming : b'.line.incoming <:+ b.line.incoming
  open_ : b.line.writesLeft = none → b'.line.writesLeft = none
  tick : b'.line.clock.tick = b.line.clock.tick
  virtual : b.line.clock.process = none → b'.line.clock.process = none
  ready : b.flash.ready = true → b'.flash.ready = true
  failing : b'.flash.failing = b.flash.failing
  others : b' = { b with line := b'.line, flash := b'.flash, resets := b'.resets }

theorem Keeps.refl (b : Board) : b.Keeps b := ⟨List.suffix_refl _, id, rfl, id, id, rfl, rfl⟩

theorem Keeps.trans {b b' b'' : Board} (h : b.Keeps b') (h' : b'.Keeps b'') : b.Keeps b'' where
  incoming := h'.incoming.trans h.incoming
  open_ := h'.open_ ∘ h.open_
  tick := h'.tick.trans h.tick
  virtual := h'.virtual ∘ h.virtual
  ready := h'.ready ∘ h.ready
  failing := h'.failing.trans h.failing
  others := by
    have h1 := h.others
    have h2 := h'.others
    rw [h1] at h2
    exact h2

theorem Trades.keeps {b b' : Board} {n : Nat} {packets : List (List UInt8)}
    (h : b.Trades b' n packets) : b.Keeps b' where
  incoming := h.incoming ▸ List.drop_suffix n _
  open_ := h.open_
  tick := h.tick
  virtual := h.virtual
  ready := fun ready => h.flash ▸ ready
  failing := by rw [h.flash]
  others := by
    obtain ⟨line, flash, image⟩ := b
    obtain ⟨line', flash', image'⟩ := b'
    have frame := h.others
    cases frame
    rfl

theorem keeps_flash (b : Board) {flash : Nor} (ready : flash.ready = true)
    (failing : flash.failing = b.flash.failing) : b.Keeps { b with flash } :=
  ⟨List.suffix_refl _, id, rfl, id, fun _ => ready, failing, rfl⟩

/-! ## Commands -/

theorem limited_of_full {b : Board} (full : b.line.writesLeft = some 0) : b.line.writesLeft ≠ none := by
  rw [full]
  nofun

theorem run_refuse (nacks : Bool) (b : Board) :
    (∃ b', (refuse nacks).run answer b = (.ok (), b') ∧ b.Keeps b' ∧ b'.unread = b.unread ∧
      b'.ledger nacks = (b.ledger nacks).refuse) ∨
    (b.line.writesLeft = some 0 ∧
      (refuse nacks).run answer b = (.error (.failed (.link .closed)), b)) := by
  cases nacks with
  | false => exact .inl ⟨b, rfl, .refl b, rfl, rfl⟩
  | true =>
    rcases run_respond .nack b with ⟨b', said, trade⟩ | closed
    · refine .inl ⟨b', said, trade.keeps, trade.unread, ?_⟩
      rw [trade.ledger, List.flatten_cons, List.flatten_nil, List.append_nil]
      rfl
    · exact .inr closed

theorem run_flash (query : Flash.Query) (b : Board) :
    (Device.flash query).run answer b =
      (.ok (Nor.answer query b.flash).1, { b with flash := (Nor.answer query b.flash).2 }) := rfl

theorem run_init (b : Board) :
    ∃ f, f.failing = b.flash.failing ∧
      (∀ nacks, ({ b with flash := f } : Board).ledger nacks = b.ledger nacks) ∧
      ((b.flash.failing.init = false ∧ f.ready = true ∧
          (Device.flash .init).run answer b = (.ok (.ok ()), { b with flash := f })) ∨
        (b.flash.failing.init = true ∧
          ∃ e, (Device.flash .init).run answer b = (.ok (.error e), { b with flash := f }))) := by
  have init : b.flash.init =
      if b.flash.failing.init then
        (.error .device, { b.flash with count.inits := b.flash.count.inits + 1 })
      else (.ok (), { b.flash with count.inits := b.flash.count.inits + 1, ready := true }) := rfl
  rw [run_flash, Nor.answer, init]
  cases b.flash.failing.init with
  | true =>
    exact ⟨{ b.flash with count.inits := b.flash.count.inits + 1 }, rfl, fun _ => rfl,
      .inr ⟨rfl, .device, rfl⟩⟩
  | false =>
    exact ⟨{ b.flash with count.inits := b.flash.count.inits + 1, ready := true }, rfl,
      fun _ => rfl, .inl ⟨rfl, rfl, rfl⟩⟩

theorem run_answerChecksum (nacks : Bool) (block : UInt16) {b : Board}
    (ready : b.flash.ready = true) :
    (∃ b', (answerChecksum nacks block).run answer b = (.ok (), b') ∧ b.Keeps b' ∧
      b'.unread = b.unread ∧
      b'.ledger nacks = if readable b.flash.failing b.flash.content block.toNat then
        (b.ledger nacks).say (Ledger.checksumReply b.flash.content block.toNat)
        else (b.ledger nacks).refuse) ∨
    (∃ b' said, (answerChecksum nacks block).run answer b =
        (.error (.failed (.link .closed)), b') ∧ b.Keeps b' ∧
      b'.ledger nacks = (b.ledger nacks).say said ∧ said.length ≤ Response.width ∧
      b.line.writesLeft ≠ none) := by
  obtain ⟨f, content, ready', failing, erases, programs, how⟩ := Nor.read_block ready block
  have keeps : b.Keeps { b with flash := f } := keeps_flash b ready' failing
  have ledger : ({ b with flash := f } : Board).ledger nacks = b.ledger nacks := by
    rw [Board.ledger, Board.ledger, content, erases, programs]
  rcases how with ⟨can, read⟩ | ⟨cannot, e, read⟩
  · rw [if_pos can]
    have fetched : (Device.flash (.read .bios (blockOffset block) blockSize)).run answer b =
        (.ok (.ok (blockAt b.flash.content block.toNat)), { b with flash := f }) := by
      rw [run_flash, Nor.answer, read]
    rw [answerChecksum, Dialogue.run_bind_ok fetched]
    rcases run_respond .ack { b with flash := f } with ⟨b₁, said₁, trade₁⟩ | ⟨full, closed⟩
    · rw [Dialogue.run_bind_ok said₁]
      rcases run_say (ByteOrder.little.encode 4
        (checksum (blockAt b.flash.content block.toNat)).toNat) b₁ with
        ⟨b₂, said₂, trade₂⟩ | ⟨full, closed⟩
      · have trade := trade₁.trans trade₂
        refine .inl ⟨b₂, said₂, keeps.trans trade.keeps, trade.unread, ?_⟩
        rw [trade.ledger, ledger]
        rfl
      · refine .inr ⟨b₁, [Response.ack.encode].flatten, closed, keeps.trans trade₁.keeps, ?_,
          Nat.le_refl _, fun open_ => limited_of_full full (trade₁.open_ open_)⟩
        rw [trade₁.ledger, ledger]
    · refine .inr ⟨_, [], Dialogue.run_bind_error closed, keeps, ?_, Nat.zero_le _,
        limited_of_full full⟩
      rw [ledger, Ledger.say_nil]
  · rw [cannot, if_neg Bool.false_ne_true]
    have fetched : (Device.flash (.read .bios (blockOffset block) blockSize)).run answer b =
        (.ok (.error e), { b with flash := f }) := by
      rw [run_flash, Nor.answer, read]
    rw [answerChecksum, Dialogue.run_bind_ok fetched]
    rcases run_refuse nacks { b with flash := f } with ⟨b₁, refused, keeps₁, unread₁, ledger₁⟩ |
      ⟨full, closed⟩
    · exact .inl ⟨b₁, refused, keeps.trans keeps₁, unread₁, by rw [ledger₁, ledger]⟩
    · refine .inr ⟨_, [], closed, keeps, ?_, Nat.zero_le _, limited_of_full full⟩
      rw [ledger, Ledger.say_nil]

/-- a block is replaced as far as the flash lets it be -/
theorem run_reprogram (block : UInt16) {content : List UInt8} (full : content.length = blockSize)
    {b : Board} (ready : b.flash.ready = true) :
    ∃ b', (reprogram block content).run answer b =
        (.ok (replaces b.flash.failing b.flash.content block.toNat), b') ∧ b.Keeps b' ∧
      b'.line = b.line ∧
      ∀ nacks, b'.ledger nacks =
        (b.ledger nacks).store b.flash.failing block.toNat content := by
  obtain ⟨f₁, ready₁, failing₁, erases₁, programs₁, how⟩ := Nor.erase_block ready block
  rcases how with ⟨can, content₁, erase⟩ | ⟨cannot, content₁, e, erase⟩
  · have erased : (Device.flash (.erase .bios (blockOffset block) blockSize)).run answer b =
        (.ok (.ok ()), { b with flash := f₁ }) := by
      rw [run_flash, Nor.answer, erase]
    have inside : block.toNat < blockCount b.flash.content := by
      rw [erasable, Bool.and_eq_true] at can
      exact of_decide_eq_true can.2
    have inside₁ : block.toNat < blockCount f₁.content := by
      rw [content₁, blockCount, length_putBlock inside length_erasedBlock]
      exact inside
    have blank : blockAt f₁.content block.toNat = erasedBlock := by
      rw [content₁, blockAt_putBlock inside length_erasedBlock]
    obtain ⟨f₂, ready₂, failing₂, erases₂, programs₂, how'⟩ :=
      Nor.program_block ready₁ block inside₁ full blank
    have keeps : b.Keeps { b with flash := f₂ } := keeps_flash b ready₂ (failing₂.trans failing₁)
    rw [failing₁] at how'
    rcases how' with ⟨can', content₂, program⟩ | ⟨cannot', content₂, e, program⟩
    · have programmed : (Device.flash (.program .bios (blockOffset block) content)).run answer
          { b with flash := f₁ } = (.ok (.ok ()), { b with flash := f₂ }) := by
        rw [run_flash, Nor.answer, program]
      have works : replaces b.flash.failing b.flash.content block.toNat = true := by
        rw [replaces, can, can']
        rfl
      refine ⟨_, ?_, keeps, rfl, fun nacks => ?_⟩
      · rw [reprogram, Dialogue.run_bind_ok erased, Dialogue.run_bind_ok programmed, works]
        rfl
      · rw [Board.ledger, content₂, content₁, putBlock_putBlock inside length_erasedBlock, erases₂,
          programs₂, erases₁, programs₁, Ledger.store, Board.ledger, can, replaced, works]
        rfl
    · have programmed : (Device.flash (.program .bios (blockOffset block) content)).run answer
          { b with flash := f₁ } = (.ok (.error e), { b with flash := f₂ }) := by
        rw [run_flash, Nor.answer, program]
      have fails : replaces b.flash.failing b.flash.content block.toNat = false := by
        rw [replaces, can, cannot']
        rfl
      refine ⟨_, ?_, keeps, rfl, fun nacks => ?_⟩
      · rw [reprogram, Dialogue.run_bind_ok erased, Dialogue.run_bind_ok programmed, fails]
        rfl
      · rw [Board.ledger, content₂, content₁, erases₂, programs₂, erases₁, programs₁, Ledger.store,
          Board.ledger, can, replaced, fails, if_neg Bool.false_ne_true, can]
        rfl
  · have erased : (Device.flash (.erase .bios (blockOffset block) blockSize)).run answer b =
        (.ok (.error e), { b with flash := f₁ }) := by
      rw [run_flash, Nor.answer, erase]
    have fails : replaces b.flash.failing b.flash.content block.toNat = false := by
      rw [replaces, cannot]
      rfl
    refine ⟨_, ?_, keeps_flash b ready₁ failing₁, rfl, fun nacks => ?_⟩
    · rw [reprogram, Dialogue.run_bind_ok erased, fails]
      rfl
    · rw [Board.ledger, content₁, erases₁, programs₁, Ledger.store, Board.ledger, cannot, replaced,
        fails, if_neg Bool.false_ne_true, cannot]
      rfl

/-- how a WRITE ends whose command was read: the block is taken in full, acknowledged and replaced as far
as that works; or the line is closed before the last ACK is out, and the flash is untouched; or it is closed
to the NACK -/
theorem run_replace {config : Config} (fit : chunksFit config.chunkSize = true) (nacks : Bool)
    (block : UInt16) {b : Board} (ready : b.flash.ready = true) :
    let count := 1 + blockSize / config.chunkSize.toNat
    let content := b.unread.take blockSize
    let written := ((b.ledger nacks).say (Ledger.acks count)).store b.flash.failing block.toNat content
    (blockSize ≤ b.unread.length ∧ ∃ b', (replace config nacks block).run answer b = (.ok (), b') ∧
      b.Keeps b' ∧ b'.unread = b.unread.drop blockSize ∧
      b'.ledger nacks =
        if replaces b.flash.failing b.flash.content block.toNat then written else written.refuse) ∨
    (∃ b' j, j < count ∧
      (replace config nacks block).run answer b = (.error (.failed (.link .closed)), b') ∧
      b.Keeps b' ∧ b'.ledger nacks = (b.ledger nacks).say (Ledger.acks j) ∧
      (b.line.writesLeft = none →
        b.unread.length < blockSize ∧ j = 1 + b.unread.length / config.chunkSize.toNat)) ∨
    (blockSize ≤ b.unread.length ∧ ∃ b',
      (replace config nacks block).run answer b = (.error (.failed (.link .closed)), b') ∧
      b.Keeps b' ∧ b'.unread = b.unread.drop blockSize ∧ b'.ledger nacks = written ∧
      b.line.writesLeft ≠ none) := by
  intro count content written
  rcases run_respond .ack b with ⟨b₁, said₁, trade₁⟩ | ⟨full, closed⟩
  · have unread₁ : b₁.unread = b.unread := trade₁.unread
    rw [replace, Dialogue.run_bind_ok said₁]
    rcases run_receiveBlock fit b₁ with ⟨enough, b₂, received, trade₂⟩ |
      ⟨b₂, m, j, less, closed, trade₂, counts⟩
    · rw [unread₁] at enough received
      have trade := trade₁.trans trade₂
      rw [Nat.zero_add] at trade
      have ready₂ : b₂.flash.ready = true := by rw [trade.flash, ready]
      obtain ⟨b₃, done, keeps₃, line₃, ledger₃⟩ :=
        run_reprogram block (List.length_take_of_le enough) ready₂
      have keeps := trade.keeps.trans keeps₃
      have unread₃ : b₃.unread = b.unread.drop blockSize := by
        rw [Board.unread, line₃]
        exact trade.unread
      have written₃ : b₃.ledger nacks = written := by
        rw [ledger₃, trade.flash, trade.ledger]
        exact congrArg (fun l : Ledger => l.store b.flash.failing block.toNat content)
          (congrArg (b.ledger nacks).say (Ledger.acks_add 1 _).symm)
      rw [Dialogue.run_bind_ok received, Dialogue.run_bind_ok done, trade.flash]
      cases works : replaces b.flash.failing b.flash.content block.toNat with
      | true => exact .inl ⟨enough, b₃, rfl, keeps, unread₃, written₃⟩
      | false =>
        rcases run_refuse nacks b₃ with ⟨b₄, refused, keeps₄, unread₄, ledger₄⟩ | ⟨full, closed⟩
        · refine .inl ⟨enough, b₄, refused, keeps.trans keeps₄, unread₄.trans unread₃, ?_⟩
          rw [ledger₄, written₃]
          rfl
        · rw [line₃] at full
          exact .inr (.inr ⟨enough, b₃, closed, keeps, unread₃, written₃,
            fun open_ => limited_of_full full (trade.open_ open_)⟩)
    · have trade := trade₁.trans trade₂
      refine .inr (.inl ⟨b₂, 1 + j, Nat.add_lt_add_left less 1, Dialogue.run_bind_error closed,
        trade.keeps, ?_, fun open_ => ?_⟩)
      · rw [trade.ledger]
        exact congrArg (b.ledger nacks).say (Ledger.acks_add 1 j).symm
      · obtain ⟨short, stopped⟩ := counts (trade₁.open_ open_)
        rw [unread₁] at short stopped
        exact ⟨short, congrArg (1 + ·) stopped⟩
  · refine .inr (.inl ⟨b, 0, Nat.lt_of_lt_of_le Nat.one_pos (Nat.le_add_right ..),
      Dialogue.run_bind_error closed, .refl b, (Ledger.say_nil _).symm,
      fun open_ => absurd open_ (limited_of_full full)⟩)

end Board

/-! ## One request -/

namespace Device.Session

/-- waits until a command is there in full, reads it and carries it out -/
def heed (config : Config) (nacks : Bool) : Action Step := do
  pause config.pollSettleMs
  let command ← demand Link.readCommand
  dispatch config nacks command

theorem serve_succ (config : Config) (rounds : Nat) (nacks : Bool) (last : UInt64) :
    serve config (rounds + 1) nacks last = (do
      if ← Link.poll then
        let step ← heed config nacks
        let last ← now
        match step with
        | .finish outcome => return outcome
        | .proceed nacks => watch config last (serve config rounds nacks last)
      else watch config last (serve config rounds nacks last)) := by
  simp only [heed, bind_assoc]
  rfl

def after (r : Request) (nacks : Bool) : Step :=
  match r.outcome? with
  | some outcome => .finish outcome
  | none => .proceed nacks

end Device.Session

namespace Board

/-- how it can end to heed the input -/
inductive Heeded (config : Config) (nacks : Bool) (b : Board) :
    Except (Stop Error) Session.Step → Board → Prop where
  /-- the first request was there in full, and was taken -/
  | taken {b' : Board} {r : Request} {l : Ledger}
      (next : Request.next? b.unread = some (r, b'.unread)) (keeps : b.Keeps b')
      (step : l = (b.ledger nacks).take config.chunkSize.toNat b.flash.failing r)
      (ledger : b'.ledger l.nacks = l) :
      Heeded config nacks b (.ok (after r l.nacks)) b'
  /-- the line was closed, and the flash is untouched; what was said is less than the ACKs of a WRITE.  A
  line that lets all writes through is closed to a request that is cut short only -/
  | dropped {b' : Board} {said : List UInt8} (keeps : b.Keeps b')
      (ledger : b'.ledger nacks = (b.ledger nacks).say said)
      (fewer : said.length < (Ledger.acks (1 + blockSize / config.chunkSize.toNat)).length)
      (open_ : b.line.writesLeft = none →
        Request.next? b.unread = none ∧ said = Ledger.shortReply config.chunkSize.toNat b.unread) :
      Heeded config nacks b (.error (.failed (.link .closed))) b'
  /-- a WRITE was acknowledged in full, and the line was closed to the NACK of its failure -/
  | unreported {b' : Board} {r : Request}
      (next : Request.next? b.unread = some (r, b'.unread)) (write : r.command.opcode? = some .write)
      (keeps : b.Keeps b')
      (ledger : b'.ledger nacks =
        ((b.ledger nacks).say (Ledger.acks (1 + blockSize / config.chunkSize.toNat))).store
          b.flash.failing r.command.block.toNat r.content)
      (limited : b.line.writesLeft ≠ none) :
      Heeded config nacks b (.error (.failed (.link .closed))) b'

theorem Heeded.proceed {config : Config} {nacks nacks' : Bool} {b b' : Board} {r : Request}
    (next : Request.next? b.unread = some (r, b'.unread)) (keeps : b.Keeps b')
    (goes : r.outcome? = none)
    (ledger : b'.ledger nacks' = (b.ledger nacks).take config.chunkSize.toNat b.flash.failing r) :
    Heeded config nacks b (.ok (.proceed nacks')) b' := by
  have same := congrArg Ledger.nacks ledger
  have step : after r nacks' = .proceed nacks' := by rw [after, goes]
  rw [← step]
  exact .taken next keeps ledger rfl

theorem Heeded.finish {config : Config} {nacks : Bool} {b b' : Board} {r : Request} {outcome : Outcome}
    (next : Request.next? b.unread = some (r, b'.unread)) (keeps : b.Keeps b')
    (ends : r.outcome? = some outcome)
    (ledger : b'.ledger nacks = (b.ledger nacks).take config.chunkSize.toNat b.flash.failing r) :
    Heeded config nacks b (.ok (.finish outcome)) b' := by
  have step : after r nacks = .finish outcome := by rw [after, ends]
  rw [← step]
  exact .taken next keeps ledger rfl

/-! ## The command is read -/

structure Called (b b' : Board) (command : Command) : Prop where
  unread : b.unread = command.encode ++ b'.unread
  keeps : b.Keeps b'
  flash : b'.flash = b.flash
  ledger : ∀ nacks, b'.ledger nacks = b.ledger nacks

variable {config : Config} {nacks : Bool} {b b' : Board} {command : Command}

theorem Called.bare (h : b.Called b' command) (other : command.opcode? ≠ some .write) :
    Request.next? b.unread = some (⟨command, []⟩, b'.unread) := by
  have whole : (⟨command, []⟩ : Request).Whole := (Command.payload_other other).symm
  have next := Request.next?_encode whole b'.unread
  rwa [Request.encode, List.append_nil, ← h.unread] at next

/-- a WRITE is acknowledged more than once -/
theorem width_lt_length_acks (fit : chunksFit config.chunkSize = true) :
    Response.width < (Ledger.acks (1 + blockSize / config.chunkSize.toNat)).length := by
  have chunks := some_of_fit fit
  have width : Response.width = 3 := rfl
  rw [Ledger.length_acks, width]
  omega

theorem Called.dropped (fit : chunksFit config.chunkSize = true) (h : b.Called b' command)
    {b'' : Board} {said : List UInt8} (keeps : b'.Keeps b'')
    (ledger : b''.ledger nacks = (b'.ledger nacks).say said) (few : said.length ≤ Response.width)
    (limited : b'.line.writesLeft ≠ none) :
    Heeded config nacks b (.error (.failed (.link .closed))) b'' := by
  refine .dropped (h.keeps.trans keeps) (ledger.trans (by rw [h.ledger])) ?_
    fun free => absurd (h.keeps.open_ free) limited
  exact Nat.lt_of_le_of_lt few (width_lt_length_acks fit)

theorem heeded_nackMode (fit : chunksFit config.chunkSize = true) (h : b.Called b' command)
    (op : command.opcode? = some .nackMode) :
    Heeded config nacks b ((dispatch config nacks command).run answer b').1
      ((dispatch config nacks command).run answer b').2 := by
  have other : command.opcode? ≠ some .write := by simp [op]
  rw [dispatch, op]
  rcases run_respond .ack b' with ⟨b₁, said, trade⟩ | ⟨full, closed⟩
  · rw [Dialogue.run_bind_ok said]
    have next : Request.next? b.unread = some (⟨command, []⟩, b₁.unread) := by
      rw [trade.unread]
      exact h.bare other
    refine .proceed next (h.keeps.trans trade.keeps) (by rw [Request.outcome?, op]) ?_
    have ledger : b₁.ledger true = (b'.ledger true).say [Response.ack.encode].flatten :=
      trade.ledger true
    rw [Ledger.take, op, ← h.ledger]
    exact ledger
  · rw [Dialogue.run_bind_error closed]
    exact h.dropped fit (.refl b') (Ledger.say_nil _).symm (Nat.zero_le _) (limited_of_full full)

theorem heeded_checksum (fit : chunksFit config.chunkSize = true) (h : b.Called b' command)
    (op : command.opcode? = some .checksum) (ready : b'.flash.ready = true) :
    Heeded config nacks b ((dispatch config nacks command).run answer b').1
      ((dispatch config nacks command).run answer b').2 := by
  have other : command.opcode? ≠ some .write := by simp [op]
  rw [dispatch, op]
  rcases run_answerChecksum nacks command.block ready with
    ⟨b₁, answered, keeps, unread, ledger⟩ | ⟨b₁, said, closed, keeps, ledger, few, limited⟩
  · rw [Dialogue.run_bind_ok answered]
    refine .proceed (unread ▸ h.bare other) (h.keeps.trans keeps) (by rw [Request.outcome?, op]) ?_
    rw [Ledger.take, op, ← h.ledger, ← h.flash]
    exact ledger
  · rw [Dialogue.run_bind_error closed]
    exact h.dropped fit keeps ledger few limited

theorem heeded_write (fit : chunksFit config.chunkSize = true) (h : b.Called b' command)
    (op : command.opcode? = some .write) (ready : b'.flash.ready = true) :
    Heeded config nacks b ((dispatch config nacks command).run answer b').1
      ((dispatch config nacks command).run answer b').2 := by
  have enough_next (enough : blockSize ≤ b'.unread.length) : Request.next? b.unread =
      some (⟨command, b'.unread.take blockSize⟩, b'.unread.drop blockSize) := by
    rw [h.unread, Request.next?_command, Command.payload_write op, if_pos enough]
  rw [dispatch, op]
  rcases run_replace fit nacks command.block ready with
    ⟨enough, b₁, replaced, keeps, unread, ledger⟩ | ⟨b₁, j, less, closed, keeps, ledger, counts⟩ |
    ⟨enough, b₁, closed, keeps, unread, ledger, limited⟩
  · rw [Dialogue.run_bind_ok replaced]
    refine .proceed (unread ▸ enough_next enough) (h.keeps.trans keeps)
      (by rw [Request.outcome?, op]) ?_
    rw [Ledger.take, op, ← h.ledger, ← h.flash]
    exact ledger
  · rw [Dialogue.run_bind_error closed]
    refine .dropped (h.keeps.trans keeps) (ledger.trans (by rw [h.ledger])) ?_ fun free => ?_
    · rw [Ledger.length_acks, Ledger.length_acks]
      exact Nat.mul_lt_mul_of_pos_right less (by decide)
    · obtain ⟨short, stopped⟩ := counts (h.keeps.open_ free)
      have length : b.unread.length = Command.size + b'.unread.length := by
        rw [h.unread, List.length_append, Command.length_encode]
      constructor
      · rw [h.unread, Request.next?_command, Command.payload_write op,
          if_neg (Nat.not_le_of_lt short)]
      · rw [Ledger.shortReply, length, if_neg (by omega), Nat.add_sub_cancel_left, stopped]
  · rw [Dialogue.run_bind_error closed]
    refine .unreported (unread ▸ enough_next enough) op (h.keeps.trans keeps) ?_
      fun free => limited (h.keeps.open_ free)
    rw [ledger, h.ledger, h.flash]

theorem heeded (fit : chunksFit config.chunkSize = true) (ready : b.flash.ready = true) :
    Heeded config nacks b ((heed config nacks).run answer b).1 ((heed config nacks).run answer b).2 := by
  obtain ⟨b₁, paused, trade₁⟩ := run_pause config.pollSettleMs b
  have unread₁ : b₁.unread = b.unread := trade₁.unread
  rw [heed, Dialogue.run_bind_ok paused]
  rcases run_readCommand b₁ with ⟨command, b₂, received, split, trade₂⟩ | ⟨short, closed⟩
  · have trade := trade₁.trans trade₂
    rw [unread₁] at split
    have called : b.Called b₂ command := ⟨split, trade.keeps, trade.flash, trade.ledger_read⟩
    have ready₂ : b₂.flash.ready = true := called.flash ▸ ready
    rw [Dialogue.run_bind_ok received]
    cases op : command.opcode? with
    | none =>
      rw [dispatch, op]
      refine .proceed (called.bare (by simp [op])) called.keeps (by rw [Request.outcome?, op]) ?_
      rw [Ledger.take, op]
      exact called.ledger nacks
    | some op' =>
      cases op' with
      | hello | read =>
        rw [dispatch, op]
        refine .proceed (called.bare (by simp [op])) called.keeps
          (by rw [Request.outcome?, op]) ?_
        rw [Ledger.take, op]
        exact called.ledger nacks
      | exit =>
        rw [dispatch, op]
        refine .finish (called.bare (by simp [op])) called.keeps
          (by rw [Request.outcome?, op]) ?_
        rw [Ledger.take, op]
        exact called.ledger nacks
      | reset =>
        rw [dispatch, op]
        have keeps : b₂.Keeps { b₂ with resets := b₂.resets + 1 } :=
          ⟨List.suffix_refl _, id, rfl, id, id, rfl, rfl⟩
        refine .finish (called.bare (by simp [op])) (called.keeps.trans keeps)
          (by rw [Request.outcome?, op]) ?_
        rw [Ledger.take, op, ← called.ledger]
        rfl
      | nackMode => exact heeded_nackMode fit called op
      | checksum => exact heeded_checksum fit called op ready₂
      | write => exact heeded_write fit called op ready₂
  · rw [Dialogue.run_bind_error closed]
    rw [unread₁] at short
    have silent : b₁.ledger nacks = (b.ledger nacks).say [] := trade₁.ledger nacks
    exact .dropped trade₁.keeps silent
      (Nat.lt_of_le_of_lt (Nat.zero_le _) (width_lt_length_acks fit))
      fun _ => ⟨Request.next?_short short, (if_pos short).symm⟩

end Board

end FlashRescue
