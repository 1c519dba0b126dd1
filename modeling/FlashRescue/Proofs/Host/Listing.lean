import FlashRescue.Proofs.Dialogue.Walk
import FlashRescue.Proofs.Host.Finishing
import FlashRescue.Proofs.Host.Persistence

/-!
# Checksums are listed

The checksums of some blocks are asked for one after the other, and each is printed before the next is asked for.
The last of all block numbers is not reached: the list is broken off before that block is asked about.

* `Host.printed`      what the operator was told;
* `Host.reach`, `Host.conclusion`  how many of the blocks are listed, and how the list ends then;
                      `listChecksums_eq`: they are listed in turn;
* `Host.Listed`       the ways in which a block can be listed; `recorded_listed`: there are no others;
* `Host.Attentive`    a port that answers; `Attentive.recorded_list`: all that is asked of it and printed then;
* `lists_in_turn`     what comes of a list.
-/

namespace FlashRescue.Host

open Dialogue

/-! ## What is printed -/

/-- the text that a call shows to the operator -/
def text? : Call → Option String
  | ⟨.print text, _⟩ => some text
  | _ => none

/-- what the operator was told -/
def printed (calls : List Call) : List String := calls.filterMap text?

theorem printed_append (calls calls' : List Call) : printed (calls ++ calls') = printed calls ++ printed calls' :=
  List.filterMap_append

/-- a query about the line -/
def OnLine : machine.Query → Prop
  | .link _ => True
  | _ => False

theorem printed_onLine {calls : List Call} (h : ∀ call ∈ calls, OnLine call.query) : printed calls = [] := by
  apply List.filterMap_eq_nil_iff.mpr
  intro call mem
  have good := h call mem
  obtain ⟨query, reply⟩ := call
  cases query with
  | link query => rfl
  | _ => cases good

theorem onLine_checksumOnce (block : UInt16) : (Client.checksumOnce block).Only OnLine := by
  apply Client.checksumOnce_only
  · intro n
    trivial
  · trivial

theorem onLine_checksum (c : Client) (block : UInt16) : (c.checksum block).Only OnLine := by
  apply Client.insist_only
  · trivial
  · trivial
  · exact onLine_checksumOnce block

/-! ## One block after the other -/

/-- the line for a block -/
def checksumLine (number : Nat) (crc : UInt32) : String :=
  hexText 4 number ++ ": " ++ hexText 8 crc.toNat ++ "\n"

def listChecksum (c : Client) (number : Nat) : Talk Unit := do
  let crc ← c.checksum (UInt16.ofNat number)
  print (checksumLine number crc)

/-- how many of the blocks are listed, which do not reach the last number there is -/
def reach (block count : Nat) : Nat := min count (0xffff - block)

/-- how a list ends when all went well -/
def conclusion (block count : Nat) : Except (Stop Error) Unit :=
  if block + count ≤ 0xffff then .ok () else .error (.broken .overflow)

theorem listChecksums_eq (c : Client) (count : Nat) (block : UInt16) :
    listChecksums c count block =
      ((List.range' block.toNat (reach block.toNat count)).forM (listChecksum c) >>= fun _ =>
        resume (conclusion block.toNat count)) := by
  induction count generalizing block with
  | zero =>
    have small := block.toNat_lt
    have ends : conclusion block.toNat 0 = .ok () := if_pos (by omega)
    rw [ends, reach, Nat.zero_min]
    rfl
  | succ count ih =>
    rw [listChecksums]
    by_cases top : block = 0xffff
    · subst top
      have broken : conclusion (0xffff : UInt16).toNat (count + 1) = .error (.broken .overflow) := by
        apply if_neg
        show ¬ 65535 + (count + 1) ≤ 65535
        omega
      have none_ : reach (0xffff : UInt16).toNat (count + 1) = 0 := Nat.min_zero _
      rw [if_pos rfl, broken, none_]
      rfl
    · have below : block.toNat < 0xffff := by
        have small := block.toNat_lt
        have other : block.toNat ≠ 0xffff := fun same => top (UInt16.toNat_inj.mp same)
        omega
      have next : (block + 1).toNat = block.toNat + 1 := by
        rw [UInt16.toNat_add]
        exact Nat.mod_eq_of_lt (Nat.succ_lt_succ below)
      have more : reach block.toNat (count + 1) = reach (block.toNat + 1) count + 1 := by
        unfold reach
        omega
      have same : conclusion (block.toNat + 1) count = conclusion block.toNat (count + 1) := by
        unfold conclusion
        rw [Nat.add_assoc, Nat.add_comm 1 count]
      rw [if_neg top, ih, next, more, same, List.range'_succ]
      show _ = (listChecksum c block.toNat >>= fun _ => List.forM _ (listChecksum c)) >>= _
      rw [listChecksum, UInt16.ofNat_toNat]
      simp only [LawfulMonad.bind_assoc]
      rfl

/-! ## The ways of a block -/

section
variable {σ : Type} {answer : machine.Answerer σ} {s s' : σ} {calls : List Call} {c : Client}
  {ended : Except (Stop Error) Unit}

/-- CHECKSUM was sent for a block and nothing else, some number of times that are not too many -/
def Requested (c : Client) (number : Nat) (calls : List Call) : Prop :=
  ∃ k ≤ c.retries.toNat + 1, packets calls =
    List.replicate k (Command.of .checksum (UInt16.ofNat number)).encode

/-- the ways in which a block can be listed -/
inductive Listed (answer : machine.Answerer σ) (c : Client) (number : Nat) :
    List Call → Except (Stop Error) Unit → Prop
  /-- its checksum cannot be had, and nothing is printed -/
  | failed {calls : List Call} {why : Stop Error} {s s' : σ}
      (asked : Recorded answer (c.checksum (UInt16.ofNat number)) s calls (.error why) s')
      (requested : Requested c number calls) (silent : printed calls = []) (unbroken : ∀ fault, why ≠ .broken fault) :
      Listed answer c number calls (.error why)
  | listed {calls : List Call} {crc : UInt32} {s s' : σ}
      (asked : Recorded answer (c.checksum (UInt16.ofNat number)) s calls (.ok crc) s')
      (requested : Requested c number calls) (silent : printed calls = []) :
      Listed answer c number (calls ++ [⟨.print (checksumLine number crc), ()⟩]) (.ok ())

theorem recorded_listed {number : Nat} (h : Recorded answer (listChecksum c number) s calls ended s') :
    Listed answer c number calls ended := by
  have silent {asking : List Call} {s₁ : σ} {crc : Except (Stop Error) UInt32}
      (asked : Recorded answer (c.checksum (UInt16.ofNat number)) s asking crc s₁) : printed asking = [] :=
    printed_onLine ((onLine_checksum c _).recorded asked)
  have requested {asking : List Call} {s₁ : σ} {crc : Except (Stop Error) UInt32}
      (asked : Recorded answer (c.checksum (UInt16.ofNat number)) s asking crc s₁) : Requested c number asking := by
    obtain ⟨k, persisted⟩ := (Client.insisted asked).persisted recorded_inquired
    exact ⟨k, persisted.le, persisted.packets Inquired.packets⟩
  rcases h.of_bind with ⟨why, rfl, stopped⟩ | ⟨asking, crc, s₁, rest, rfl, asked, telling⟩
  · apply Listed.failed stopped (requested stopped) (silent stopped)
    rintro fault rfl
    obtain ⟨k, persisted⟩ := (Client.insisted stopped).persisted recorded_inquired
    exact persisted.unbroken Inquired.unbroken rfl
  · obtain ⟨rest, rfl, done_⟩ := Recorded.of_ask telling
    obtain ⟨rfl, rfl, -⟩ := done_.unique (recorded_done () _)
    exact .listed asked (requested asked) (silent asked)

/-! ## Ports that answer -/

variable {value : Nat → UInt32} {ready : Nat → σ → Prop} {last : Nat}

/-- a port that answers every CHECKSUM about a block before the last with an ACK and a checksum, once what was
queued is thrown away.  It is `ready n` when block `n` is the next, and what is printed does not matter to it -/
structure Attentive (answer : machine.Answerer σ) (c : Client) (value : Nat → UInt32) (ready : Nat → σ → Prop)
    (last : Nat) : Prop where
  replies : ∀ n s, n < last → ready n s → ∃ (s₁ s₂ s₃ s₄ : σ) (response : Response),
    c.discard.run answer s = (.ok (), s₁) ∧
    (demand (Link.sendCommand (.of .checksum (UInt16.ofNat n))) : Talk Unit).run answer s₁ = (.ok (), s₂) ∧
    (demand Link.readResponse : Talk Response).run answer s₂ = (.ok response, s₃) ∧ response.isAck = true ∧
    (demand Link.readChecksum : Talk UInt32).run answer s₃ = (.ok (value n), s₄) ∧ ready (n + 1) s₄
  printing : ∀ n s text, ready n s → ready n (answer (.print text) s).2

/-- the packets of a list that is answered -/
def questions (numbers : List Nat) : List (List UInt8) :=
  numbers.map fun n => (Command.of .checksum (UInt16.ofNat n)).encode

def answers (value : Nat → UInt32) (numbers : List Nat) : List String :=
  numbers.map fun n => checksumLine n (value n)

/-- a request that is answered at its first attempt -/
theorem recorded_insist_ok {α : Type} {request : Talk α} {result : α} {thrown asked : List Call} {s₁ : σ}
    (again : Nat) (drain : Recorded answer c.discard s thrown (.ok ()) s₁)
    (went : Recorded answer request s₁ asked (.ok result) s') :
    Recorded answer (c.insist request again) s (thrown ++ asked) (.ok result) s' := by
  cases again with
  | zero => exact drain.bind_ok went
  | succ again =>
    have whole : Recorded answer (c.insist request (again + 1)) s (thrown ++ (asked ++ [])) (.ok result) s' :=
      drain.bind_ok (went.trial.bind_ok (recorded_done result s'))
    rwa [List.append_nil] at whole

theorem Attentive.recorded_checksum (h : Attentive answer c value ready last) {n : Nat} (inside : n < last)
    (start : ready n s) : ∃ calls s', Recorded answer (c.checksum (UInt16.ofNat n)) s calls (.ok (value n)) s' ∧
      packets calls = questions [n] ∧ ready (n + 1) s' := by
  obtain ⟨s₁, s₂, s₃, s₄, response, quiet, sent, read, isAck, summed, next⟩ := h.replies n s inside start
  have acknowledged : (Client.awaitAck .checksum (UInt16.ofNat n)).run answer s₂ = (.ok (), s₃) := by
    rw [Client.awaitAck, run_bind_ok read, if_pos isAck]
    rfl
  have once : (Client.checksumOnce (UInt16.ofNat n)).run answer s₁ = (.ok (value n), s₄) := by
    rw [Client.checksumOnce, run_bind_ok sent, run_bind_ok acknowledged]
    exact summed
  have drain := recorded quiet
  have asked := recorded once
  refine ⟨_, s₄, recorded_insist_ok _ drain asked, ?_, next⟩
  rw [packets_append, Client.packets_discard drain, (recorded_inquired asked).packets]
  rfl

/-- one block: its CHECKSUM goes out, and its line is printed -/
theorem Attentive.recorded_line (h : Attentive answer c value ready last) {n : Nat} (inside : n < last)
    (start : ready n s) : ∃ calls s', Recorded answer (listChecksum c n) s calls (.ok ()) s' ∧
      packets calls = questions [n] ∧ printed calls = answers value [n] ∧ ready (n + 1) s' := by
  obtain ⟨calls, s₁, asked, sent, next⟩ := h.recorded_checksum inside start
  have told : Recorded answer (print (checksumLine n (value n))) s₁ _ (.ok ()) _ := recorded_ask rfl
  refine ⟨_, _, asked.bind_ok told, ?_, ?_, h.printing _ _ _ next⟩
  · rw [packets_append, sent]
    rfl
  · rw [printed_append, printed_onLine ((onLine_checksum c _).recorded asked)]
    rfl

/-- so many blocks in turn -/
theorem Attentive.recorded_list (h : Attentive answer c value ready last) {n k : Nat} (inside : n + k ≤ last)
    (start : ready n s) : ∃ calls s', Recorded answer ((List.range' n k).forM (listChecksum c)) s calls (.ok ()) s' ∧
      packets calls = questions (List.range' n k) ∧ printed calls = answers value (List.range' n k) := by
  induction k generalizing n s with
  | zero => exact ⟨[], s, recorded_done PUnit.unit s, rfl, rfl⟩
  | succ k ih =>
    obtain ⟨first, s₁, listed, sent, told, next⟩ := h.recorded_line (by omega) start
    obtain ⟨rest, s', more, sent', told'⟩ := ih (by omega) next
    refine ⟨first ++ rest, s', listed.bind_ok more, ?_, ?_⟩
    · rw [packets_append, sent, sent', List.range'_succ]
      rfl
    · rw [printed_append, told, told', List.range'_succ]
      rfl

end

/-! ## A whole list -/

theorem reach_le (block count : Nat) : block + reach block count ≤ block + count :=
  Nat.add_le_add_left (Nat.min_le_left ..) block

theorem recorded_resume {σ : Type} {answer : machine.Answerer σ} (ended : Except (Stop Error) Unit) (s : σ) :
    Recorded answer (resume ended) s [] ended s := by
  cases ended with
  | ok value => exact recorded_done value s
  | error why => exact recorded_stop why s

/-- the checksums of blocks are listed in turn, each in its own line, up to the first that cannot be had: then
nothing is sent for the others.  The last number of all is not reached, and breaks the list off, even where a port
answers every CHECKSUM; all other lists that are answered are complete -/
theorem lists_in_turn (color : Bool) (c : Client) (block count : UInt16) :
    let numbers := List.range' block.toNat (reach block.toNat count.toNat)
    (∀ {σ : Type} {answer : machine.Answerer σ} {s s' : σ} {calls : List Call} {ended : Except (Stop Error) Unit},
      Recorded answer (doJob color c (.checksum block count)) s calls ended s' →
        ∃ listing, Walk (Listed answer c) numbers calls listing ∧
          ended = listing.bind fun _ => conclusion block.toNat count.toNat) ∧
    (∀ {σ : Type} {answer : machine.Answerer σ} {s : σ} {value : Nat → UInt32} {ready : Nat → σ → Prop},
      Attentive answer c value ready (block.toNat + count.toNat) → ready block.toNat s →
        ∃ calls s', Recorded answer (doJob color c (.checksum block count)) s calls
            (conclusion block.toNat count.toNat) s' ∧
          packets calls = questions numbers ∧ printed calls = answers value numbers) := by
  intro numbers
  have whole : doJob color c (.checksum block count) =
      (numbers.forM (listChecksum c) >>= fun _ => resume (conclusion block.toNat count.toNat)) :=
    listChecksums_eq c count.toNat block
  rw [whole]
  constructor
  · intro σ answer s s' calls ended h
    have walked {calls : List Call} {listing : Except (Stop Error) Unit} {s' : σ}
        (h : Recorded answer (numbers.forM (listChecksum c)) s calls listing s') :
        Walk (Listed answer c) numbers calls listing :=
      recorded_walk (fun _ _ _ _ _ _ => recorded_listed) h
    rcases h.of_bind with ⟨why, rfl, stopped⟩ | ⟨first, _, s₁, rest, rfl, went, ending⟩
    · exact ⟨_, walked stopped, rfl⟩
    · obtain ⟨rfl, rfl, -⟩ := ending.unique (recorded_resume _ s₁)
      rw [List.append_nil]
      exact ⟨_, walked went, rfl⟩
  · intro σ answer s value ready attentive start
    obtain ⟨calls, s', listed, sent, told⟩ := attentive.recorded_list (reach_le _ _) start
    refine ⟨calls, s', ?_, sent, told⟩
    have ended : Recorded answer (numbers.forM (listChecksum c) >>= fun _ =>
        resume (conclusion block.toNat count.toNat)) s (calls ++ []) _ s' :=
      listed.bind_ok (recorded_resume _ s')
    rwa [List.append_nil] at ended

section
open Desk Replay
variable {b : Board} {content : List UInt8} {c : Client} {last : Nat}

/-- a board on a lossless cable answers as long as its flash can be read -/
theorem attentive_linked (stands : Stands b) (rounds : c.rounds ≠ 0) (small : last ≤ blockNumbers)
    (can : ∀ n < last, readable b.flash.failing content n = true) :
    Attentive Desk.answer c (fun n => checksum (blockAt content n))
      (fun _ d => ∃ l, Linked d b l [] [] ∧ l.content = content) last := by
  constructor
  · rintro n d inside ⟨l, linked, rfl⟩
    have number : (UInt16.ofNat n).toNat = n := by
      rw [UInt16.toNat_ofNat']
      exact Nat.mod_eq_of_lt (Nat.lt_of_lt_of_le inside small)
    have can₀ : readable b.flash.failing l.content (UInt16.ofNat n).toNat = true := by
      rw [number]
      exact can n inside
    obtain ⟨d₁, written, linked₁⟩ := run_write linked fun r attends => reply_checksum stands attends can₀
    rw [List.nil_append] at linked₁
    have packets : Ledger.checksumReply l.content (UInt16.ofNat n).toNat = Response.ack.encode ++
        (ByteOrder.little.encode 4 (checksum (blockAt l.content n)).toNat ++ []) := by
      rw [List.append_nil, number]
      rfl
    obtain ⟨ack, d₂, read₂, ack_eq, linked₂⟩ := run_read linked₁ packets (Response.length_encode .ack)
    obtain ⟨sum, d₃, read₃, sum_eq, linked₃⟩ := run_read linked₂ rfl (ByteOrder.length_encode ..)
    have first : ack = #v[1, 0, 0] := Vector.toList_inj.mp ack_eq
    refine ⟨d, d₁, d₂, d₃, _, Desk.run_discard linked rounds, written, run_readResponse read₂, ?_,
      Client.run_readChecksum read₃ _ sum_eq, _, linked₃, rfl⟩
    rw [first]
    rfl
  · rintro n d text ⟨l, linked, same⟩
    exact ⟨l, linked_print linked text, same⟩

/-- both blocks of a board -/
theorem lists_in_turn_board :
    let b := Board.standard 2
    let c : Client := {}
    let d : Desk := { cable := .connect .duplex 500 (.replayed { board := b, bootstrap := false })
                      folder := Desk.working [] }
    ∃ calls d', Recorded Desk.answer (doJob false c (.checksum 0 2)) d calls (.ok ()) d' ∧
      packets calls = questions [0, 1] ∧ Walk (Listed Desk.answer c) [0, 1] calls (.ok ()) := by
  intro b c d
  have rounds : c.rounds ≠ 0 := by decide
  have can : ∀ n < 2, readable b.flash.failing b.flash.content n = true := by
    intro n inside
    apply readable_flawless rfl
    rw [content_standard, blockCount_replicate]
    exact Nat.lt_of_lt_of_le inside (by decide)
  have attentive := attentive_linked (stands_standard 2) rounds (by decide) can
  have start : ∃ l, Linked d b l [] [] ∧ l.content = b.flash.content :=
    ⟨_, linked_connect rfl rfl, Board.content_ledger ..⟩
  obtain ⟨calls, d', went, sent, -⟩ := (lists_in_turn false c 0 2).2 attentive start
  obtain ⟨listing, walk, same⟩ := (lists_in_turn false c 0 2).1 went
  refine ⟨calls, d', went, sent, ?_⟩
  cases listing with
  | ok value => exact walk
  | error why => cases same

/-- a port that answers the CHECKSUMs of the last two blocks there are, and of which only the first is asked -/
theorem top_block_unlisted :
    let c : Client := {}
    let reply (crc : UInt32) := [Delivery.bytes (Response.ack.encode ++ ByteOrder.little.encode 4 crc.toNat)]
    let d : Desk := { cable := .connect .serial 500 (.scripted [] [reply 0x12, reply 0xffffffff])
                      folder := Desk.working [] }
    ∃ calls d' d'', Recorded Desk.answer (doJob false c (.checksum 0xfffe 2)) d calls
        (.error (.broken .overflow)) d' ∧
      packets calls = questions [0xfffe] ∧ printed calls = ["0xfffe: 0x00000012\n"] ∧
      (c.checksum 0xffff).run Desk.answer d' = (.ok 0xffffffff, d'') := by
  intro c reply d
  have ran : ((doJob false c (.checksum 0xfffe 2)).run Desk.answer d).1 = .error (.broken .overflow) := by
    decide +kernel
  have went := recorded (Prod.ext ran rfl : (doJob false c (.checksum 0xfffe 2)).run Desk.answer d =
    (.error (.broken .overflow), _))
  have sent : packets ((doJob false c (.checksum 0xfffe 2)).transcript Desk.answer d) = questions [0xfffe] := by
    decide +kernel
  have told : printed ((doJob false c (.checksum 0xfffe 2)).transcript Desk.answer d) =
      ["0xfffe: 0x00000012\n"] := by
    decide +kernel
  have more : ((c.checksum 0xffff).run Desk.answer
      ((doJob false c (.checksum 0xfffe 2)).run Desk.answer d).2).1 = .ok 0xffffffff := by
    decide +kernel
  exact ⟨_, _, _, went, sent, told, Prod.ext more rfl⟩

end

end FlashRescue.Host
