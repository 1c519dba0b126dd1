import FlashRescue.Proofs.Session.Interpretation

/-!
# The flash after a session

Whatever the line does, and wherever a session breaks off: the flash holds what the first WRITEs of the
host have made of it, and these are the WRITEs that were read and acknowledged in full.

* `writes`, `rewritten`   the WRITEs among some requests, and what they make of a content;
* `Board.Account`         what a session has done to the flash, read off the line and the counters;
* `Board.Accepted`        a WRITE was read in full and all its ACKs were sent;
* `flash_integrity`       every end of a session is accounted for.
-/

namespace FlashRescue

open Device Device.Session

/-! ## WRITEs -/

def writes (requests : List Request) : List Request := requests.filter Request.isWrite

def rewritten (failing : Nor.Failing) (content : List UInt8) (requests : List Request) : List UInt8 :=
  requests.foldl (fun content r => replaced failing content r.command.block.toNat r.content) content

theorem Request.Whole.length_content {r : Request} (whole : r.Whole) (write : r.isWrite = true) :
    r.content.length = blockSize :=
  whole.trans (Command.payload_write (of_decide_eq_true write))

theorem writes_append (first second : List Request) :
    writes (first ++ second) = writes first ++ writes second := List.filter_append ..

theorem writes_cons {r : Request} (write : r.isWrite = true) (requests : List Request) :
    writes (r :: requests) = r :: writes requests := List.filter_cons_of_pos write

theorem mem_writes {requests : List Request} {r : Request} :
    r ∈ writes requests ↔ r ∈ requests ∧ r.isWrite = true := List.mem_filter

theorem rewritten_write (failing : Nor.Failing) (content : List UInt8) (block : UInt16) (data : List UInt8) :
    rewritten failing content (writes [.write block data]) = replaced failing content block.toNat data := by
  rw [writes_cons (Request.isWrite_write block data)]
  rfl

theorem length_rewritten (failing : Nor.Failing) (content : List UInt8) {requests : List Request}
    (whole : ∀ r ∈ requests, r.content.length = blockSize) :
    (rewritten failing content requests).length = content.length := by
  induction requests generalizing content with
  | nil => rfl
  | cons r requests ih =>
    have h1 := ih (replaced failing content r.command.block.toNat r.content)
      fun r' h' => whole r' (List.mem_cons_of_mem _ h')
    exact h1.trans (length_replaced failing r.command.block.toNat (whole r List.mem_cons_self))

theorem blockAt_rewritten (failing : Nor.Failing) (content : List UInt8) {requests : List Request}
    (whole : ∀ r ∈ requests, r.content.length = blockSize) {block : Nat}
    (spared : ∀ r ∈ requests, r.command.block.toNat ≠ block) :
    blockAt (rewritten failing content requests) block = blockAt content block := by
  induction requests generalizing content with
  | nil => rfl
  | cons r requests ih =>
    have h1 := ih (replaced failing content r.command.block.toNat r.content)
      (fun r' h' => whole r' (List.mem_cons_of_mem _ h'))
      (fun r' h' => spared r' (List.mem_cons_of_mem _ h'))
    exact h1.trans (blockAt_replaced_of_ne failing (whole r List.mem_cons_self)
      (spared r List.mem_cons_self).symm)

/-- where no block can be erased nothing is replaced -/
theorem rewritten_of_erases {failing : Nor.Failing} (fails : failing.erases = true)
    (content : List UInt8) (requests : List Request) :
    rewritten failing content requests = content := by
  induction requests with
  | nil => rfl
  | cons r requests ih =>
    have step : replaced failing content r.command.block.toNat r.content = content := by
      simp [replaced, replaces, erasable, fails]
    rw [rewritten, List.foldl_cons, step]
    exact ih

/-- the last WRITE to a block decides what is in it -/
theorem blockAt_rewritten_last (failing : Nor.Failing) (content : List UInt8)
    {before after : List Request} {r : Request}
    (whole : ∀ r' ∈ before ++ r :: after, r'.content.length = blockSize)
    (last : ∀ r' ∈ after, r'.command.block.toNat ≠ r.command.block.toNat)
    (inside : r.command.block.toNat < blockCount content) :
    blockAt (rewritten failing content (before ++ r :: after)) r.command.block.toNat =
      if failing.erases then blockAt content r.command.block.toNat
      else if failing.programs then erasedBlock
      else r.content := by
  have whole₁ : ∀ r' ∈ before, r'.content.length = blockSize := fun r' h' =>
    whole r' (List.mem_append_left _ h')
  have whole₂ : ∀ r' ∈ after, r'.content.length = blockSize := fun r' h' =>
    whole r' (List.mem_append_right _ (List.mem_cons_of_mem _ h'))
  have full : r.content.length = blockSize :=
    whole r (List.mem_append_right _ List.mem_cons_self)
  have inside' : r.command.block.toNat < blockCount (rewritten failing content before) := by
    rw [blockCount, length_rewritten failing content whole₁]
    exact inside
  have split : rewritten failing content (before ++ r :: after) =
      rewritten failing (replaced failing (rewritten failing content before)
        r.command.block.toNat r.content) after := by
    rw [rewritten, List.foldl_append, List.foldl_cons]
    rfl
  rw [split, blockAt_rewritten failing _ whole₂ last, blockAt_replaced failing inside' full]
  split
  · rename_i fails
    rw [rewritten_of_erases fails]
  · rfl

theorem erasable_congr (failing : Nor.Failing) {content content' : List UInt8}
    (h : content.length = content'.length) :
    erasable failing content = erasable failing content' := by
  funext block
  rw [erasable, erasable, blockCount, blockCount, h]

namespace Ledger

variable (chunk : Nat) (failing : Nor.Failing)

/-- the flash side of a ledger after some requests -/
theorem flash_takeAll (l : Ledger) {requests : List Request} (whole : ∀ r ∈ requests, r.Whole) :
    (l.takeAll chunk failing requests).content = rewritten failing l.content (writes requests) ∧
      (l.takeAll chunk failing requests).erases = l.erases + (writes requests).length ∧
      (l.takeAll chunk failing requests).programs = l.programs +
        (writes requests).countP fun r => erasable failing l.content r.command.block.toNat := by
  induction requests generalizing l with
  | nil => exact ⟨rfl, rfl, rfl⟩
  | cons r requests ih =>
    obtain ⟨content, erases, programs⟩ := ih (l.take chunk failing r)
      fun r' h' => whole r' (List.mem_cons_of_mem _ h')
    rw [takeAll_cons, content, erases, programs]
    cases h : r.isWrite with
    | true =>
      have same : erasable failing (replaced failing l.content r.command.block.toNat r.content) =
          erasable failing l.content :=
        erasable_congr failing
          (length_replaced failing _ ((whole r List.mem_cons_self).length_content h))
      rw [l.take_write chunk failing h, writes_cons h, List.length_cons, List.countP_cons]
      refine ⟨rfl, ?_, ?_⟩
      · show l.erases + 1 + _ = _
        omega
      · show l.programs + (if erasable failing l.content r.command.block.toNat then 1 else 0) +
          (writes requests).countP (fun r => erasable failing
            (replaced failing l.content _ _) r.command.block.toNat) = _
        rw [same]
        omega
    | false =>
      obtain ⟨said, nacks, resets, step⟩ := l.take_other chunk failing h
      have head : writes (r :: requests) = writes requests :=
        List.filter_cons_of_neg (by simp [h])
      rw [step, head]
      exact ⟨rfl, rfl, rfl⟩

end Ledger

namespace Board

/-! ## Accounts -/

/-- what a session that began with these unread bytes and this ledger has done: some requests were taken,
and at most part of one more -/
structure Account (config : Config) (failing : Nor.Failing) (unread : List UInt8) (l : Ledger)
    (done : List Request) (b' : Board) : Prop where
  first : done <+: (Request.cut unread).1
  read : ∃ more, unread = done.flatMap Request.encode ++ more ++ b'.unread
  content : b'.flash.content = (l.takeAll config.chunkSize.toNat failing done).content
  erases : b'.flash.count.erases = (l.takeAll config.chunkSize.toNat failing done).erases
  programs : b'.flash.count.programs = (l.takeAll config.chunkSize.toNat failing done).programs
  grows : l.sent <+: b'.line.outgoing
  acknowledged : ∀ before r after, done = before ++ r :: after → r.isWrite = true →
    (l.takeAll config.chunkSize.toNat failing before).sent ++
      Ledger.acks (1 + blockSize / config.chunkSize.toNat) <+: b'.line.outgoing
  short : b'.line.outgoing.length < (l.takeAll config.chunkSize.toNat failing done).sent.length +
    (Ledger.acks (1 + blockSize / config.chunkSize.toNat)).length

variable {config : Config} {failing : Nor.Failing} {l : Ledger} {done : List Request}

theorem acks_positive (fit : chunksFit config.chunkSize = true) :
    0 < (Ledger.acks (1 + blockSize / config.chunkSize.toNat)).length :=
  Nat.lt_of_le_of_lt (Nat.zero_le _) (width_lt_length_acks fit)

theorem Account.nil {unread said : List UInt8} {b' : Board} {nacks : Bool}
    (rest : b'.unread <:+ unread) (ledger : b'.ledger nacks = l.say said)
    (fewer : said.length < (Ledger.acks (1 + blockSize / config.chunkSize.toNat)).length) :
    Account config failing unread l [] b' where
  first := List.nil_prefix
  read := by
    obtain ⟨more, split⟩ := rest
    exact ⟨more, split.symm⟩
  content := congrArg Ledger.content ledger
  erases := congrArg Ledger.erases ledger
  programs := congrArg Ledger.programs ledger
  grows := ⟨said, (congrArg Ledger.sent ledger).symm⟩
  acknowledged := by
    intro before r after split
    simp at split
  short := by
    have sent : b'.line.outgoing = l.sent ++ said := congrArg Ledger.sent ledger
    rw [sent, List.length_append]
    exact Nat.add_lt_add_left fewer _

theorem Account.cons {unread rest : List UInt8} {r : Request} {b' : Board}
    (next : Request.next? unread = some (r, rest))
    (h : Account config failing rest (l.take config.chunkSize.toNat failing r) done b') :
    Account config failing unread l (r :: done) b' where
  first := by
    rw [Request.cut_of_some next]
    exact (List.prefix_cons_inj r).mpr h.first
  read := by
    obtain ⟨more, split⟩ := h.read
    refine ⟨more, ?_⟩
    rw [(Request.next?_eq_some next).2, split, List.flatMap_cons, List.append_assoc,
      List.append_assoc, List.append_assoc]
  content := h.content
  erases := h.erases
  programs := h.programs
  grows := (l.sent_take _ _ r).trans h.grows
  acknowledged := by
    intro before r' after split write
    cases before with
    | nil =>
      obtain ⟨rfl, rfl⟩ := List.cons.inj split
      have grows := h.grows
      rw [l.take_write config.chunkSize.toNat failing write] at grows
      exact List.IsPrefix.trans ⟨_, rfl⟩ grows
    | cons r'' before =>
      obtain ⟨rfl, later⟩ := List.cons.inj split
      exact h.acknowledged before r' after later write
  short := h.short

theorem Account.unreported (fit : chunksFit config.chunkSize = true) {unread : List UInt8} {r : Request}
    {b' : Board} {nacks : Bool} (next : Request.next? unread = some (r, b'.unread))
    (write : r.isWrite = true) (ledger : b'.ledger nacks =
      (l.say (Ledger.acks (1 + blockSize / config.chunkSize.toNat))).store failing
        r.command.block.toNat r.content) : Account config failing unread l [r] b' := by
  have sent : b'.line.outgoing =
      l.sent ++ Ledger.acks (1 + blockSize / config.chunkSize.toNat) := congrArg Ledger.sent ledger
  have taken : l.takeAll config.chunkSize.toNat failing [r] =
      (b'.ledger nacks).say (Ledger.complaint failing l r.command.block.toNat) := by
    rw [ledger]
    exact l.take_write config.chunkSize.toNat failing write
  refine ⟨?_, ⟨[], ?_⟩, ?_, ?_, ?_, ?_, ?_, ?_⟩
  · rw [Request.cut_of_some next]
    exact ⟨_, rfl⟩
  · rw [List.append_nil, List.flatMap_cons, List.flatMap_nil, List.append_nil]
    exact (Request.next?_eq_some next).2
  · rw [taken]
    rfl
  · rw [taken]
    rfl
  · rw [taken]
    rfl
  · rw [sent]
    exact ⟨_, rfl⟩
  · intro before r' after split _
    rw [sent]
    cases before with
    | nil => exact List.prefix_rfl
    | cons r'' before => simp at split
  · have length : (l.takeAll config.chunkSize.toNat failing [r]).sent.length =
        b'.line.outgoing.length + (Ledger.complaint failing l r.command.block.toNat).length := by
      rw [taken]
      exact List.length_append
    have positive := acks_positive fit
    omega

/-! ## The loop -/

section
variable {nacks : Bool} {b b' b'' : Board}

theorem Account.idle (fit : chunksFit config.chunkSize = true) (trade : b.Trades b' 0 []) :
    Account config b.flash.failing b.unread (b.ledger nacks) [] b' := by
  have silent : b'.ledger nacks = (b.ledger nacks).say [] := trade.ledger nacks
  refine .nil ?_ silent (acks_positive fit)
  rw [trade.unread]
  exact List.suffix_refl _

/-- time that passes before a session does not count -/
theorem Account.late (trade : b.Trades b' 0 [])
    (h : Account config b'.flash.failing b'.unread (b'.ledger nacks) done b'') :
    Account config b.flash.failing b.unread (b.ledger nacks) done b'' := by
  have unread : b'.unread = b.unread := trade.unread
  rwa [trade.flash, unread, trade.ledger_read] at h

end

/-- what one request does is accounted for, and from there on what the rest does -/
theorem account_serve (fit : chunksFit config.chunkSize = true) (rounds : Nat) (nacks : Bool)
    (last : UInt64) {b : Board} (ready : b.flash.ready = true) :
    ∃ done, Account config b.flash.failing b.unread (b.ledger nacks) done
      ((Session.serve config rounds nacks last).run answer b).2 := by
  induction rounds generalizing nacks last b with
  | zero => exact ⟨[], .idle fit (.refl b)⟩
  | succ rounds ih =>
    have watched (nacks : Bool) (last : UInt64) {b : Board} (ready : b.flash.ready = true) :
        ∃ done, Account config b.flash.failing b.unread (b.ledger nacks) done
          ((watch config last (Session.serve config rounds nacks last)).run answer b).2 := by
      obtain ⟨b', trade, ended | goes⟩ :=
        run_watch config last (Session.serve config rounds nacks last) b
      · rw [ended]
        exact ⟨[], .idle fit trade⟩
      · obtain ⟨done, account⟩ := ih nacks last (trade.flash ▸ ready)
        rw [goes]
        exact ⟨done, account.late trade⟩
    obtain ⟨seen, b₁, looked, trade₁⟩ := run_poll b
    have ready₁ : b₁.flash.ready = true := trade₁.flash ▸ ready
    rw [serve_succ, Dialogue.run_bind_ok looked]
    cases seen with
    | false =>
      obtain ⟨done, account⟩ := watched nacks last ready₁
      exact ⟨done, account.late trade₁⟩
    | true =>
      suffices ∃ done, Account config b₁.flash.failing b₁.unread (b₁.ledger nacks) done _ by
        obtain ⟨done, account⟩ := this
        exact ⟨done, account.late trade₁⟩
      rw [if_pos rfl]
      have how : Heeded config nacks b₁ _ _ := heeded fit ready₁
      generalize ran : (heed config nacks).run answer b₁ = ended at how
      obtain ⟨result, b₂⟩ := ended
      cases how with
      | taken next keeps step ledger =>
        rename_i r l
        obtain ⟨last', b₃, timed, trade₃⟩ := run_now b₂
        rw [Dialogue.run_bind_ok ran, Dialogue.run_bind_ok timed, after]
        -- the rest of the session starts from the ledger after this request
        have rest {done : List Request} {b' : Board}
            (h : Account config b₂.flash.failing b₂.unread (b₂.ledger l.nacks) done b') :
            Account config b₁.flash.failing b₁.unread (b₁.ledger nacks) (r :: done) b' := by
          rw [ledger, keeps.failing, step] at h
          exact h.cons next
        cases r.outcome? with
        | some outcome => exact ⟨[r], rest (.idle fit trade₃)⟩
        | none =>
          obtain ⟨done, account⟩ := watched l.nacks last' (trade₃.flash ▸ keeps.ready ready₁)
          exact ⟨r :: done, rest (account.late trade₃)⟩
      | dropped keeps ledger fewer _ =>
        rw [Dialogue.run_bind_error ran]
        exact ⟨[], .nil (keeps.incoming.map _) ledger fewer⟩
      | unreported next write keeps ledger limited =>
        rename_i r
        rw [Dialogue.run_bind_error ran]
        exact ⟨[r], .unreported fit next (decide_eq_true write) ledger⟩

theorem account_run (fit : chunksFit config.chunkSize = true) (rounds : Nat) (b : Board) :
    ∃ done, Account config b.flash.failing b.unread (b.ledger config.nackOnFailure) done
      (b.play (Session.run config rounds)).2 := by
  obtain ⟨f, failing, ledger, ⟨_, ready, init⟩ | ⟨_, e, init⟩⟩ := run_init b
  · obtain ⟨start, b₁, timed, trade⟩ := run_now { b with flash := f }
    have ready₁ : b₁.flash.ready = true := by
      rw [trade.flash]
      exact ready
    obtain ⟨done, account⟩ := account_serve fit rounds config.nackOnFailure start ready₁
    have account := account.late trade
    rw [ledger, failing] at account
    rw [play, Session.run, Dialogue.run_bind_ok init, Dialogue.run_bind_ok timed]
    exact ⟨done, account⟩
  · have account : Account config f.failing b.unread
        (({ b with flash := f } : Board).ledger config.nackOnFailure) [] { b with flash := f } :=
      .idle fit (.refl { b with flash := f })
    rw [ledger, failing] at account
    rw [play, Session.run, Dialogue.run_bind_ok init]
    exact ⟨[], account⟩

/-! ## Integrity -/

/-- the WRITE that follows some other requests was read in full, and all its ACKs were sent -/
def Accepted (config : Config) (b b' : Board) (before : List Request) (r : Request) : Prop :=
  (∃ more, b.unread = (before ++ [r]).flatMap Request.encode ++ more ++ b'.unread) ∧
    ((b.ledger config.nackOnFailure).takeAll config.chunkSize.toNat b.flash.failing before).sent ++
      Ledger.acks (1 + blockSize / config.chunkSize.toNat) <+: b'.line.outgoing

/-- the flash of `b'` is that of `b` after the WRITEs among the first requests of the host -/
structure Intact (config : Config) (b b' : Board) (done : List Request) : Prop where
  first : done <+: (Request.cut b.unread).1
  content : b'.flash.content = rewritten b.flash.failing b.flash.content (writes done)
  length : b'.flash.content.length = b.flash.content.length
  /-- what the last WRITE to a block leaves there -/
  landed : ∀ before r after, done = before ++ r :: after → r.isWrite = true →
    (∀ r' ∈ writes after, r'.command.block ≠ r.command.block) →
    r.command.block.toNat < blockCount b.flash.content →
    blockAt b'.flash.content r.command.block.toNat =
      if b.flash.failing.erases then blockAt b.flash.content r.command.block.toNat
      else if b.flash.failing.programs then erasedBlock
      else r.content
  spared : ∀ block, (∀ r ∈ writes done, r.command.block.toNat ≠ block) →
    blockAt b'.flash.content block = blockAt b.flash.content block
  erases : b'.flash.count.erases = b.flash.count.erases + (writes done).length
  programs : b'.flash.count.programs = b.flash.count.programs +
    (writes done).countP fun r => erasable b.flash.failing b.flash.content r.command.block.toNat
  /-- a WRITE counts if and only if it was accepted -/
  counted : ∀ before r after, (Request.cut b.unread).1 = before ++ r :: after → r.isWrite = true →
    (before.length < done.length ↔ Accepted config b b' before r)

theorem Account.counted {b b' : Board}
    (h : Account config b.flash.failing b.unread (b.ledger config.nackOnFailure) done b')
    {before after : List Request} {r : Request}
    (split : (Request.cut b.unread).1 = before ++ r :: after) (write : r.isWrite = true) :
    before.length < done.length ↔ Accepted config b b' before r := by
  obtain ⟨later, order⟩ := h.first
  rw [split] at order
  -- a request that was not taken is not acknowledged: too little was said for that
  have untaken (more : List Request) (beyond : before = done ++ more) :
      before.length < done.length ↔ Accepted config b b' before r := by
    have lengths : before.length = done.length + more.length := by
      rw [beyond, List.length_append]
    constructor
    · intro inside
      omega
    · rintro ⟨-, sent⟩
      have grows := ((b.ledger config.nackOnFailure).takeAll config.chunkSize.toNat b.flash.failing
        done).sent_takeAll config.chunkSize.toNat b.flash.failing more
      rw [← Ledger.takeAll_append, ← beyond] at grows
      have h1 := grows.length_le
      have h2 := sent.length_le
      have h3 := h.short
      rw [List.length_append] at h2
      omega
  rcases List.append_eq_append_iff.mp order with ⟨more, beyond, -⟩ | ⟨rest, same, tail⟩
  · exact untaken more beyond
  · cases rest with
    | nil => exact untaken [] (by simp [same])
    | cons r' rest =>
      obtain ⟨rfl, -⟩ := List.cons.inj tail
      refine iff_of_true ?_ ⟨?_, h.acknowledged before r rest same write⟩
      · rw [same, List.length_append, List.length_cons]
        omega
      · obtain ⟨more, read⟩ := h.read
        refine ⟨rest.flatMap Request.encode ++ more, ?_⟩
        rw [read, same]
        simp

theorem flash_integrity {config : Config} (valid : config.validate = .ok ()) (rounds : Nat)
    (b : Board) : ∃ done, Intact config b (b.play (Session.run config rounds)).2 done := by
  obtain ⟨done, account⟩ := account_run (chunksFit_of_validate valid) rounds b
  have whole : ∀ r ∈ done, r.Whole := fun r mem =>
    Request.whole_of_mem_cut r (account.first.subset mem)
  have full : ∀ r ∈ writes done, r.content.length = blockSize := by
    intro r mem
    obtain ⟨mem, write⟩ := mem_writes.mp mem
    exact (whole r mem).length_content write
  obtain ⟨content, erases, programs⟩ := (b.ledger config.nackOnFailure).flash_takeAll
    config.chunkSize.toNat b.flash.failing whole
  have content := account.content.trans content
  refine ⟨done, account.first, content, ?_, ?_, ?_, account.erases.trans erases,
    account.programs.trans programs, ?_⟩
  · rw [content]
    exact length_rewritten _ _ full
  · intro before r after split write last inside
    rw [content]
    rw [split, writes_append, writes_cons write] at full ⊢
    exact blockAt_rewritten_last _ _ full
      (fun r' mem same => last r' mem (UInt16.toNat_inj.mp same)) inside
  · intro block spared
    rw [content]
    exact blockAt_rewritten _ _ full spared
  · intro before r after split write
    exact account.counted split write

/-- a host that has replaced a block and breaks off within the next -/
def halfway : Board := fed 2 ((Request.write 0 (List.replicate blockSize 7)).encode ++ brokenOff)

theorem cut_halfway :
    Request.cut halfway.unread = ([.write 0 (List.replicate blockSize 7)], brokenOff) := by
  have sent : halfway.unread = (Request.write 0 (List.replicate blockSize 7)).encode ++ brokenOff :=
    unread_push (standard 2) 0 _
  rw [sent, Request.cut_encode (Request.whole_write 0 List.length_replicate),
    Request.cut_of_none next?_brokenOff]

theorem erases_halfway : halfway.serve.2.flash.count.erases = 1 := by
  have prompt : Prompt halfway.config halfway := (prompt_standard 2 false).push _
  have told : Ledger.interpret halfway.config.chunkSize.toNat halfway.flash.failing halfway.unread
      (halfway.ledger halfway.config.nackOnFailure) =
      (.error (.link .closed), ((halfway.ledger false).take 64 {} (.write 0 (List.replicate blockSize 7))).say
        (Ledger.acks 2)) := by
    rw [Ledger.interpret, cut_halfway]
    rfl
  have ledger := (serve_told (b := halfway) rfl prompt rfl).1
  rw [told, (halfway.ledger false).take_write 64 {} (Request.isWrite_write 0 (List.replicate blockSize 7))] at ledger
  have counted (b : Board) (nacks : Bool) : b.flash.count.erases = (b.ledger nacks).erases := rfl
  rw [counted, ledger]
  rfl

/-- the flash holds the block that was sent in full, and nothing of the other -/
theorem flash_integrity_halfway :
    halfway.config.validate = .ok () ∧
      Intact halfway.config halfway halfway.serve.2 [.write 0 (List.replicate blockSize 7)] ∧
      halfway.serve.2.flash.content = List.replicate blockSize 7 ++ erasedBlock := by
  obtain ⟨done, intact⟩ : ∃ done, Intact halfway.config halfway halfway.serve.2 done :=
    flash_integrity rfl halfway.rounds halfway
  have same : done = [.write 0 (List.replicate blockSize 7)] := by
    have first := intact.first
    have erases := intact.erases
    rw [cut_halfway] at first
    rw [erases_halfway] at erases
    rcases List.prefix_cons_iff.mp first with rfl | ⟨rest, rfl, none_⟩
    · cases erases
    · rw [List.prefix_nil.mp none_]
  subst same
  refine ⟨rfl, intact, ?_⟩
  have blank : halfway.flash.content = List.replicate (2 * blockSize) Nor.erased := Nor.content_blank 2
  have works : replaces halfway.flash.failing halfway.flash.content 0 = true := by
    rw [blank, replaces, erasable, blockCount_replicate]
    rfl
  calc halfway.serve.2.flash.content
      = replaced halfway.flash.failing halfway.flash.content 0 (List.replicate blockSize 7) := by
        rw [intact.content, rewritten_write]
        rfl
    _ = putBlock halfway.flash.content 0 (List.replicate blockSize 7) := if_pos works
    _ = List.replicate blockSize 7 ++ erasedBlock := by
        rw [putBlock_first, blank, List.drop_replicate, Nat.two_mul, Nat.add_sub_cancel, erasedBlock]

end Board

end FlashRescue
