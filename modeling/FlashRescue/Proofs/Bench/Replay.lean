import FlashRescue.Bench.Remote
import FlashRescue.Proofs.Session.Interpretation

/-!
# A board that is run anew

What a replayed board sends after each write of its host, told by the ledger.

* `Replay.Stands`     a board whose session can be replayed: nothing on its line, all set to go;
* `Replay.Attends`    the board has taken some requests, and was sent part of one more;
* `ledger_outcome`    what it has done then;
* `reply_short`, `reply_request`  one more write, which leaves a request cut short or completes it;
* `reply_checksum`, `reply_bare`  a command in one write;
* `reply_finish`      a write that ends the session.
-/

namespace FlashRescue

def Board.withCells (b : Board) (cells : ByteArray) : Board :=
  { b with flash := { b.flash with cells } }

namespace Replay

open Device Board

/-- a board that takes up a session with a host from whom it has heard nothing yet -/
structure Stands (b : Board) : Prop where
  valid : b.config.validate = .ok ()
  prompt : Prompt b.config b
  inits : b.flash.failing.init = false
  unheard : b.line.incoming = []

theorem stands_standard (blocks : Nat) : Stands (.standard blocks) where
  valid := show ({} : Device.Config).validate = .ok () from rfl
  prompt := Board.prompt_standard blocks false
  inits := rfl
  unheard := rfl

/-- whatever is in its flash, or fails there, and whether or not it sends NACKs -/
theorem stands_fitted (blocks : Nat) {flash : Nor} (works : flash.failing.init = false) (nacks : Bool) :
    Stands { Board.standard blocks with flash, config.nackOnFailure := nacks } where
  valid := show ({ nackOnFailure := nacks } : Device.Config).validate = .ok () by cases nacks <;> rfl
  prompt := (Board.prompt_standard blocks nacks).of_line rfl
  inits := works
  unheard := rfl

theorem content_withCells (b : Board) (cells : ByteArray) :
    (b.withCells cells).flash.content = cells.data.toList := rfl

theorem failing_withCells (b : Board) (cells : ByteArray) :
    (b.withCells cells).flash.failing = b.flash.failing := rfl

theorem Stands.withCells {b : Board} (h : Stands b) (cells : ByteArray) :
    Stands (b.withCells cells) where
  valid := h.valid
  prompt := h.prompt.of_line rfl
  inits := h.inits
  unheard := h.unheard

def told (b : Board) (requests : List Request) : Ledger :=
  (b.ledger b.config.nackOnFailure).takeAll b.config.chunkSize.toNat b.flash.failing requests

def partly (b : Board) (remnant : List UInt8) : List UInt8 :=
  Ledger.shortReply b.config.chunkSize.toNat remnant

theorem partly_nil (b : Board) : partly b [] = [] := rfl

/-- the board has heard some requests, which led to this ledger, and the bytes of a part of one more; its
answers were delivered -/
structure Attends (r : Replay) (b : Board) (l : Ledger) (remnant : List UInt8) : Prop where
  board : r.board = b
  session : r.bootstrap = false
  heard : ∃ requests, (∀ q ∈ requests, q.Whole ∧ q.outcome? = none) ∧
    r.heard = requests.flatMap Request.encode ++ remnant ∧ l = told b requests
  short : Request.next? remnant = none
  delivered : r.delivered = (l.sent ++ partly b remnant).length

theorem attends_start {b : Board} :
    Attends ⟨b, false, [], b.line.outgoing.length⟩ b (b.ledger b.config.nackOnFailure) [] where
  board := rfl
  session := rfl
  heard := ⟨[], by simp, rfl, rfl⟩
  short := rfl
  delivered := congrArg List.length (List.append_nil _).symm

/-! ## Answers -/

theorem settle_nil (chunk : Nat) (failing : Nor.Failing) (remnant : List UInt8) (l : Ledger) :
    (Ledger.settle chunk failing [] remnant l).2 = l.say (Ledger.shortReply chunk remnant) := by
  cases remnant with
  | nil => exact congrArg (fun sent => ({ l with sent } : Ledger)) (List.append_nil _).symm
  | cons byte bytes => rfl

variable {r : Replay} {b : Board} {l : Ledger} {remnant bytes more : List UInt8}

/-- the session of a board that has heard some requests and then some more bytes -/
theorem serve_heard (stands : Stands b) (board : r.board = b) (session : r.bootstrap = false)
    {requests : List Request} (taken : ∀ q ∈ requests, q.Whole ∧ q.outcome? = none)
    (heard : r.heard = requests.flatMap Request.encode ++ bytes) :
    let told := Ledger.settle b.config.chunkSize.toNat b.flash.failing (Request.cut bytes).1
      (Request.cut bytes).2 (told b requests)
    (r.outcome.2.ledger told.2.nacks = told.2) ∧
      (told.1 ≠ .error .livenessTimeout → r.outcome.1 = told.1.mapError .failed) := by
  obtain ⟨hearing, same⟩ : ∃ hearing, hearing = { b with line := b.line.push 0 r.heard } := ⟨_, rfl⟩
  have prompt : Prompt hearing.config hearing := by
    rw [same]
    exact stands.prompt.push r.heard
  have unread : hearing.unread = requests.flatMap Request.encode ++ bytes := by
    have first : b.unread = [] := by
      rw [Board.unread, stands.unheard, List.map_nil]
    rw [same, unread_push, first, List.nil_append, heard]
  have ran : r.outcome = hearing.serve := by
    rw [outcome, session, board, same]
    rfl
  have ledger : hearing.ledger b.config.nackOnFailure = b.ledger b.config.nackOnFailure := by
    rw [same]
    rfl
  have config : hearing.config = b.config := by rw [same]
  have failing : hearing.flash.failing = b.flash.failing := by rw [same]
  have whole := fun q mem => (taken q mem).1
  have ends := serve_told (config ▸ stands.valid) prompt (failing ▸ stands.inits)
  rw [config, failing, ledger, unread, Ledger.interpret, Request.cut_flatMap whole,
    Ledger.settle_append _ _ (fun q mem => (taken q mem).2)] at ends
  rw [ran]
  exact ⟨ends.1, fun finite => ends.2 fun late => absurd late finite⟩

theorem ledger_outcome (stands : Stands b) (h : Attends r b l remnant) :
    ∃ nacks, r.outcome.2.ledger nacks = l.say (partly b remnant) := by
  obtain ⟨requests, taken, heard, same⟩ := h.heard
  have ends := (serve_heard stands h.board h.session taken heard).1
  rw [Request.cut_of_none h.short, settle_nil, ← same] at ends
  exact ⟨_, ends⟩

/-! ## Writes -/

/-- the replay after a write, apart from what was delivered -/
def hears (r : Replay) (bytes : List UInt8) : Replay := { r with heard := r.heard ++ bytes }

/-- of an output that begins with what was delivered before, the rest is delivered -/
theorem reply_eq {sent : List UInt8} (delivered : r.delivered = sent.length)
    (output : (r.hears bytes).outcome.2.line.outgoing = sent ++ more) :
    r.reply bytes =
      ([.bytes more], { r.hears bytes with delivered := (sent ++ more).length }) := by
  have reply : r.reply bytes = (r.hears bytes).deliver (r.hears bytes).outcome.2.line.outgoing := rfl
  have skip : (r.hears bytes).delivered = sent.length := delivered
  have longer : max sent.length (sent ++ more).length = (sent ++ more).length := by
    rw [List.length_append]
    omega
  rw [reply, output, deliver, skip, List.drop_left, longer]

theorem reply_short (stands : Stands b) (h : Attends r b l remnant)
    (short : Request.next? (remnant ++ bytes) = none)
    (answer : partly b (remnant ++ bytes) = partly b remnant ++ more) :
    ∃ r', r.reply bytes = ([.bytes more], r') ∧ Attends r' b l (remnant ++ bytes) := by
  obtain ⟨requests, taken, heard, same⟩ := h.heard
  have heard' : r.heard ++ bytes = requests.flatMap Request.encode ++ (remnant ++ bytes) := by
    rw [heard, List.append_assoc]
  have ends := (serve_heard stands (r := r.hears bytes) h.board h.session taken heard').1
  rw [Request.cut_of_none short, settle_nil, ← same] at ends
  have output : (r.hears bytes).outcome.2.line.outgoing = l.sent ++ partly b remnant ++ more := by
    have sent := congrArg Ledger.sent ends
    rw [List.append_assoc, ← answer]
    exact sent
  refine ⟨_, reply_eq h.delivered output, h.board, h.session, ⟨requests, taken, heard', same⟩, short,
    ?_⟩
  rw [answer, ← List.append_assoc]

theorem reply_request (stands : Stands b) (h : Attends r b l remnant) {q : Request}
    (next : Request.next? (remnant ++ bytes) = some (q, [])) (goes : q.outcome? = none)
    (answer : (l.take b.config.chunkSize.toNat b.flash.failing q).sent =
      l.sent ++ partly b remnant ++ more) :
    ∃ r', r.reply bytes = ([.bytes more], r') ∧
      Attends r' b (l.take b.config.chunkSize.toNat b.flash.failing q) [] := by
  obtain ⟨requests, taken, heard, same⟩ := h.heard
  obtain ⟨whole, split⟩ := Request.next?_eq_some next
  have taken' : ∀ q' ∈ requests ++ [q], q'.Whole ∧ q'.outcome? = none := by
    intro q' mem
    rcases List.mem_append.mp mem with mem | mem
    · exact taken q' mem
    · rw [List.mem_singleton.mp mem]
      exact ⟨whole, goes⟩
  have heard' : r.heard ++ bytes = (requests ++ [q]).flatMap Request.encode ++ [] := by
    rw [heard, List.append_assoc, split]
    simp
  have same' : l.take b.config.chunkSize.toNat b.flash.failing q = told b (requests ++ [q]) := by
    rw [told, Ledger.takeAll_append, same]
    rfl
  have ends := (serve_heard stands (r := r.hears bytes) h.board h.session taken' heard').1
  rw [Request.cut_nil, settle_nil, ← same'] at ends
  have output : (r.hears bytes).outcome.2.line.outgoing = l.sent ++ partly b remnant ++ more := by
    have sent := congrArg Ledger.sent ends
    rw [← answer]
    exact sent.trans (List.append_nil _)
  refine ⟨_, reply_eq h.delivered output, h.board, h.session, ⟨_, taken', heard', same'⟩, rfl, ?_⟩
  rw [answer]
  exact congrArg List.length (List.append_nil _).symm

theorem reply_encode (stands : Stands b) (h : Attends r b l []) {q : Request} (whole : q.Whole)
    (goes : q.outcome? = none)
    (answer : (l.take b.config.chunkSize.toNat b.flash.failing q).sent = l.sent ++ more) :
    ∃ r', r.reply q.encode = ([.bytes more], r') ∧
      Attends r' b (l.take b.config.chunkSize.toNat b.flash.failing q) [] := by
  have next : Request.next? ([] ++ q.encode) = some (q, []) := by
    rw [List.nil_append, ← List.append_nil q.encode]
    exact Request.next?_encode whole []
  refine reply_request stands h next goes ?_
  rw [partly_nil, List.append_nil]
  exact answer

theorem take_checksum (chunk : Nat) {failing : Nor.Failing} {l : Ledger} {block : UInt16}
    (can : readable failing l.content block.toNat = true) :
    l.take chunk failing (Request.bare .checksum block) =
      l.say (Ledger.checksumReply l.content block.toNat) := by
  rw [l.take_asked, Ledger.answered, if_pos can]

theorem reply_checksum (stands : Stands b) (h : Attends r b l []) {block : UInt16}
    (can : readable b.flash.failing l.content block.toNat = true) :
    ∃ r', r.reply (Command.of .checksum block).encode =
        ([.bytes (Ledger.checksumReply l.content block.toNat)], r') ∧
      Attends r' b (l.say (Ledger.checksumReply l.content block.toNat)) [] := by
  have goes : (Request.bare .checksum block).outcome? = none := Request.outcome?_of (by decide) _ _
  have taken := take_checksum b.config.chunkSize.toNat can
  have replied := reply_encode stands h (Request.whole_bare (by decide) block) goes
    (congrArg Ledger.sent taken)
  rwa [taken, Request.encode_bare] at replied

/-- a command without content that lets the session go on leaves the flash alone -/
theorem reply_bare (stands : Stands b) (h : Attends r b l []) {op : Opcode} (block : UInt16)
    (small : op ≠ .write) (goes : (Request.bare op block).outcome? = none) :
    ∃ l', Attends (r.reply (Command.of op block).encode).2 b l' [] ∧ l'.content = l.content := by
  obtain ⟨more, answer⟩ :=
    l.sent_take b.config.chunkSize.toNat b.flash.failing (Request.bare op block)
  obtain ⟨r', replied, attends⟩ :=
    reply_encode stands h (Request.whole_bare small block) goes answer.symm
  obtain ⟨said, nacks, resets, step⟩ := l.take_other b.config.chunkSize.toNat b.flash.failing
    (Request.isWrite_bare small block)
  rw [← Request.encode_bare, replied]
  refine ⟨_, attends, ?_⟩
  rw [step]
  rfl

/-- a board that leaves does not answer -/
theorem sent_take_finish (chunk : Nat) (failing : Nor.Failing) (l : Ledger) {q : Request}
    {outcome : Outcome} (ends : q.outcome? = some outcome) :
    (l.take chunk failing q).sent = l.sent := by
  rw [Ledger.take]
  cases op : q.command.opcode? with
  | none => rfl
  | some op' =>
    cases op' with
    | reset | exit | hello | read => rfl
    | checksum | write | nackMode => simp [Request.outcome?, op] at ends

theorem reply_finish (stands : Stands b) (h : Attends r b l []) {q : Request} {outcome : Outcome}
    (whole : q.Whole) (ends : q.outcome? = some outcome) :
    ∃ r', r.reply q.encode = ([.bytes []], r') ∧ r'.outcome.1 = .ok outcome ∧
      ∃ nacks, r'.outcome.2.ledger nacks = l.take b.config.chunkSize.toNat b.flash.failing q := by
  obtain ⟨requests, taken, heard, same⟩ := h.heard
  have heard' : r.heard ++ q.encode = requests.flatMap Request.encode ++ (q.encode ++ []) := by
    rw [heard, List.append_nil, List.append_nil]
  have finished := serve_heard stands (r := r.hears q.encode) h.board h.session taken heard'
  rw [Request.cut_encode whole, Ledger.settle, ends, ← same] at finished
  have output : (r.hears q.encode).outcome.2.line.outgoing = l.sent ++ partly b [] ++ [] := by
    have sent := congrArg Ledger.sent finished.1
    rw [sent_take_finish _ _ _ ends] at sent
    show _ = l.sent ++ [] ++ []
    rw [List.append_nil, List.append_nil]
    exact sent
  exact ⟨_, reply_eq h.delivered output, finished.2 (by simp), _, finished.1⟩

end Replay

end FlashRescue
