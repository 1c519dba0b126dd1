import FlashRescue.Proofs.Host.Flashing
import FlashRescue.Proofs.Host.Visits

/-!
# A board is let go when it is finished

* `Host.LetGo`, `Host.GivenUp`  a pass with its EXIT, and one without;
* `Host.Toured`      how an image is flashed;
* `flash_finishes`   how a file is, whatever the machine replies;
* `run_flash`        on a lossless cable nothing stands in the way.
-/

namespace FlashRescue.Host

open Dialogue

/-! ## The end of a pass -/

/-- after a pass without errors: the summary, and EXIT with what came of it -/
def farewell (color : Bool) (image : Image) (written : Nat) (reply : Except LinkError Unit) : List Call :=
  let (tint, word) : Tint × String := match reply with
    | .ok () => (.green, "ok")
    | .error _ => (.red, "failed")
  [⟨.print (toString written ++ " of " ++ toString image.blocks ++ " blocks rewritten\n"), ()⟩,
    ⟨.print "Continuing boot... ", ()⟩, ⟨.link (.write (Command.of .exit 0).encode), reply⟩,
    ⟨.print (tint.paint color word ++ "\n"), ()⟩]

/-- all went well, and the board is let go.  The operator is told how many WRITEs were sent -/
structure LetGo (color : Bool) (image : Image) (visits : List Visit) (calls : List Call)
    (ended : Except (Stop Error) Unit) : Prop where
  well : Complete image.numbers visits
  calls_eq : ∃ reply, ended = reply.mapError (fun e => Stop.failed (Error.packet e)) ∧
    calls = visits.flatMap (Visit.lines color image) ++
      farewell color image ((commands (spoken calls)).countP isWriting) reply
  commands_eq : commands (spoken calls) = visits.flatMap Visit.commands ++ [.of .exit 0]

/-- a block failed, and nothing was asked after it -/
structure GivenUp (color : Bool) (c : Client) (image : Image) (visits : List Visit) (calls : List Call)
    (ended : Except (Stop Error) Unit) : Prop where
  failed : ∃ first v why, visits = first ++ [v] ∧ (∀ w ∈ first, ∃ sync, w.ended = .ok sync) ∧
    v.ended = .error why ∧ ended = .error why ∧ Returned c.rounds v.calls why
  calls_eq : calls = visits.flatMap (Visit.lines color image)
  commands_eq : commands (spoken calls) = visits.flatMap Visit.commands

/-- how an image is flashed -/
structure Toured {σ : Type} (answer : machine.Answerer σ) (color : Bool) (c : Client) (image : Image)
    (visits : List Visit) (calls : List Call) (ended : Except (Stop Error) Unit) : Prop where
  genuine : ∀ v ∈ visits, v.Genuine answer c image
  /-- the blocks are visited in their order, and none is left out -/
  order : visits.map Visit.number <+: image.numbers
  told : ∀ v ∈ visits, Told v.block (image.block v.number) v.calls v.ended
  outcome : LetGo color image visits calls ended ∨ GivenUp color c image visits calls ended
  exits : .of .exit 0 ∈ commands (spoken calls) ↔ Complete image.numbers visits
  once : ∀ block, (commands (spoken calls)).count (.of .write block) ≤ 1

section
variable {σ : Type} {answer : machine.Answerer σ} {s s' : σ} {calls : List Call} {color : Bool}
  {c : Client} {image : Image} {visits : List Visit}

/-- what comes after a pass without errors -/
theorem recorded_farewell (color : Bool) (image : Image) (written : Nat) (s : σ) :
    ∃ reply s', Recorded answer (do
        print (toString written ++ " of " ++ toString image.blocks ++ " blocks rewritten\n")
        print "Continuing boot... "
        report color Client.exit) s (farewell color image written reply)
      (reply.mapError fun e => Stop.failed (Error.packet e)) s' := by
  let summary := toString written ++ " of " ++ toString image.blocks ++ " blocks rewritten\n"
  let parted := (answer (.print "Continuing boot... ") (answer (.print summary) s).2).2
  have asked : Recorded answer Client.exit parted _ _ _ := recorded_write (Command.of .exit 0).encode parted
  generalize (answer (.link (.write (Command.of .exit 0).encode)) parted).1 = reply at asked
  refine ⟨reply, ?_⟩
  cases reply with
  | ok value =>
    exact ⟨_, recorded_print (recorded_print (asked.trial.bind_ok (recorded_printWord (recorded_done ()))))⟩
  | error e =>
    exact ⟨_, recorded_print (recorded_print (asked.trial.bind_ok
      (recorded_printWord (recorded_stop (.failed (Error.packet e))))))⟩

/-! ## Images -/

variable {numbers : List Nat}

theorem Pass.inside {ended : Except (Stop Error) (List Sync)}
    (h : Pass answer c image image.numbers visits ended) : ∀ v ∈ visits, v.number < image.blocks :=
  fun _ mem => List.mem_range.mp (h.order.subset (List.mem_map_of_mem mem))

theorem Pass.told (some_ : c.chunkSize ≠ 0) {ended : Except (Stop Error) (List Sync)}
    (h : Pass answer c image image.numbers visits ended) :
    ∀ v ∈ visits, Told v.block (image.block v.number) v.calls v.ended := by
  intro v mem
  have full := image.length_block (h.inside v mem)
  obtain ⟨s, s', went⟩ := h.genuine v mem
  obtain ⟨requests, left, synced⟩ := c.synced some_ full went
  exact Host.told full synced

theorem commands_exit : commands (Command.of .exit 0).encode = [.of .exit 0] := by
  have whole : ∀ r ∈ [Request.bare .exit 0], r.Whole :=
    List.forall_mem_singleton.mpr (Request.whole_bare (by decide) 0)
  have one := commands_requests whole
  rwa [List.flatMap_singleton, Request.encode_bare] at one

theorem commands_farewell (color : Bool) (image : Image)
    (whole : ∀ v ∈ visits, Entire v.calls) (written : Nat) (reply : Except LinkError Unit) :
    commands (spoken (visits.flatMap (Visit.lines color image) ++ farewell color image written reply)) =
      visits.flatMap Visit.commands ++ [.of .exit 0] := by
  have parting : spoken (farewell color image written reply) = (Command.of .exit 0).encode := by
    cases reply <;> exact List.append_nil _
  rw [spoken_append, spoken_visits, parting, commands_visits whole, commands_exit]

theorem of_exit_notMem (sequence : ∀ v ∈ visits, Sequence v.block v.commands) :
    Command.of .exit 0 ∉ visits.flatMap Visit.commands := by
  intro mem
  obtain ⟨v, among, mem⟩ := List.mem_flatMap.mp mem
  rcases (sequence v among).about _ mem with asked | written
  · cases congrArg Command.opcode asked
  · cases congrArg Command.opcode written

theorem Pass.letGo (some_ : c.chunkSize ≠ 0) {answers : List Sync}
    (h : Pass answer c image image.numbers visits (.ok answers)) (reply : Except LinkError Unit) :
    LetGo color image visits
      (visits.flatMap (Visit.lines color image) ++ farewell color image (answers.count .written) reply)
      (reply.mapError fun e => .failed (.packet e)) := by
  obtain ⟨well, ended⟩ := h.complete
  have told := h.told some_
  have whole : ∀ v ∈ visits, Entire v.calls := by
    intro v mem
    obtain ⟨sync, went⟩ := well.2 v mem
    exact (told v mem).whole sync went
  have commands_eq := commands_farewell color image whole (answers.count .written) reply
  refine ⟨well, ⟨reply, rfl, ?_⟩, commands_eq⟩
  rw [commands_eq, List.countP_append, countP_visits ended fun v mem => (told v mem).counted]
  rfl

theorem Pass.givenUp (some_ : c.chunkSize ≠ 0) {why : Stop Error}
    (h : Pass answer c image image.numbers visits (.error why)) :
    GivenUp color c image visits (visits.flatMap (Visit.lines color image)) (.error why) := by
  obtain ⟨first, v, rfl, well, fails⟩ := h.incomplete
  have told := h.told some_
  obtain ⟨s, s', went⟩ := h.genuine v List.mem_concat_self
  rw [fails] at went
  refine ⟨⟨first, v, why, rfl, well, fails, rfl, c.returns_sync some_ v.block _ went⟩, rfl, ?_⟩
  -- only what was said about the block that failed may be cut short, and nothing is said after it
  have whole : ∀ w ∈ first, Entire w.calls := by
    intro w mem
    obtain ⟨sync, through⟩ := well w mem
    exact (told w (List.mem_append_left _ mem)).whole sync through
  rw [spoken_visits, List.flatMap_append, List.flatMap_singleton, commands_visits whole,
    List.flatMap_append, List.flatMap_singleton]
  rfl

theorem GivenUp.incomplete {ended : Except (Stop Error) Unit}
    (h : GivenUp color c image visits calls ended) : ¬ Complete image.numbers visits := by
  intro complete
  obtain ⟨first, v, why, rfl, -, fails, -⟩ := h.failed
  obtain ⟨sync, well⟩ := complete.2 v List.mem_concat_self
  cases fails.symm.trans well

theorem Pass.toured (some_ : c.chunkSize ≠ 0) {passed : Except (Stop Error) (List Sync)}
    (h : Pass answer c image image.numbers visits passed) {ended : Except (Stop Error) Unit}
    (outcome : LetGo color image visits calls ended ∨ GivenUp color c image visits calls ended) :
    Toured answer color c image visits calls ended := by
  have told := h.told some_
  have sequence : ∀ v ∈ visits, Sequence v.block v.commands := fun v mem => (told v mem).sequence
  have inside : ∀ v ∈ visits, v.number < blockNumbers :=
    fun v mem => Nat.lt_of_lt_of_le (h.inside v mem) image.blocks_le
  have once := count_visits (h.order.sublist.nodup List.nodup_range) inside sequence
  refine ⟨h.genuine, h.order, told, outcome, ?_, fun block => ?_⟩
  · rcases outcome with letGo | givenUp
    · refine iff_of_true ?_ letGo.well
      rw [letGo.commands_eq]
      exact List.mem_concat_self
    · refine iff_of_false ?_ givenUp.incomplete
      rw [givenUp.commands_eq]
      exact of_exit_notMem sequence
  · rcases outcome with letGo | givenUp
    · have exit_ne : Command.of .exit 0 ≠ .of .write block := by
        intro same
        cases congrArg Command.opcode same
      rw [letGo.commands_eq, List.count_append, List.count_cons_of_ne exit_ne, List.count_nil]
      exact once block
    · rw [givenUp.commands_eq]
      exact once block

theorem toured {ended : Except (Stop Error) Unit} (some_ : c.chunkSize ≠ 0)
    (h : Recorded answer (flashImage color c image) s calls ended s') :
    ∃ visits, Toured answer color c image visits calls ended := by
  rcases h.of_bind with ⟨why, rfl, stopped⟩ | ⟨first, answers, s₁, rest, rfl, passed, parting⟩
  · obtain ⟨visits, pass, rfl⟩ := recorded_pass stopped
    exact ⟨visits, pass.toured some_ (.inr (pass.givenUp some_))⟩
  · obtain ⟨visits, pass, rfl⟩ := recorded_pass passed
    obtain ⟨reply, s₂, parted⟩ := recorded_farewell color image (answers.count .written) s₁
    obtain ⟨rfl, rfl, -⟩ := parting.unique parted
    exact ⟨visits, pass.toured some_ (.inl (pass.letGo some_ reply))⟩

/-- the image in a file, if the file could be read and is one -/
def imageOf (file : Except IoError ByteArray) : Except (Stop Error) Image := do
  let bytes ← file.mapError fun e => .failed (.io e)
  (Image.ofBytes? bytes).mapError .failed

theorem imageOf_ok (bytes : ByteArray) :
    imageOf (.ok bytes) = (Image.ofBytes? bytes).mapError .failed := rfl

theorem recorded_readImage (path : String) (s : σ) :
    Recorded answer (readImage path) s [⟨.readFile path, (answer (.readFile path) s).1⟩]
      (imageOf (answer (.readFile path) s).1) (answer (.readFile path) s).2 := by
  generalize replied : answer (.readFile path) s = read
  obtain ⟨file, s₁⟩ := read
  cases file with
  | error e =>
    have stopped : Recorded answer (readFile path) s _ _ s₁ :=
      .ask replied (recorded_stop (.failed (Error.io e)) s₁)
    exact stopped.bind_error
  | ok bytes =>
    have went : Recorded answer (readFile path) s _ _ s₁ := .ask replied (recorded_done bytes s₁)
    show Recorded answer _ s ([⟨.readFile path, .ok bytes⟩] ++ []) _ s₁
    refine went.bind_ok ?_
    rw [imageOf_ok]
    cases Image.ofBytes? bytes with
    | ok image => exact recorded_done image s₁
    | error e => exact recorded_stop (.failed e) s₁

/-- how a file is flashed, if it can be read and is an image -/
structure Flashes {σ : Type} (answer : machine.Answerer σ) (color : Bool) (c : Client)
    (file : Except IoError ByteArray) (calls : List Call) (ended : Except (Stop Error) Unit) : Prop where
  unreadable : ∀ e, file = .error e → calls = [] ∧ ended = .error (.failed (.io e))
  refused : ∀ bytes e, file = .ok bytes → Image.ofBytes? bytes = .error e →
    calls = [] ∧ ended = .error (.failed e) ∧ ∃ reason, e = .invalidImage reason
  toured : ∀ bytes image, file = .ok bytes → Image.ofBytes? bytes = .ok image →
    ∃ visits, Toured answer color c image visits calls ended

/-- whatever its machine replies, a client lets the board go if and only if the file is an image and each of
its blocks went well; a file that is no image is refused before anything is sent -/
theorem flash_finishes {ended : Except (Stop Error) Unit} (some_ : c.chunkSize ≠ 0) {path : String}
    (h : Recorded answer (doJob color c (.flash path)) s calls ended s') :
    ∃ rest, calls = ⟨.readFile path, (answer (.readFile path) s).1⟩ :: rest ∧
      Flashes answer color c (answer (.readFile path) s).1 rest ended := by
  rcases h.of_bind with ⟨why, rfl, stopped⟩ | ⟨first, image, s₁, rest, rfl, read, flashing⟩
  · obtain ⟨rfl, same, -⟩ := stopped.unique (recorded_readImage path s)
    generalize (answer (.readFile path) s).1 = file at same ⊢
    refine ⟨[], rfl, ?_, ?_, ?_⟩
    · rintro e rfl
      cases same
      exact ⟨rfl, rfl⟩
    · rintro bytes e rfl invalid
      rw [imageOf_ok, invalid] at same
      cases same
      exact ⟨rfl, rfl, Image.ofBytes?_error invalid⟩
    · rintro bytes image rfl valid
      rw [imageOf_ok, valid] at same
      cases same
  · obtain ⟨rfl, same, -⟩ := read.unique (recorded_readImage path s)
    generalize (answer (.readFile path) s).1 = file at same ⊢
    refine ⟨rest, rfl, ?_, ?_, ?_⟩
    · rintro e rfl
      cases same
    · rintro bytes e rfl invalid
      rw [imageOf_ok, invalid] at same
      cases same
    · rintro bytes image' rfl valid
      rw [imageOf_ok, valid] at same
      cases same
      exact toured some_ flashing

end

section
open Desk Replay
variable {d : Desk} {b : Board} {l : Ledger} {c : Client} {image : Image}

theorem linked_print (h : Linked d b l [] []) (text : String) :
    Linked (Desk.answer (.print text) d).2 b l [] [] :=
  ⟨h.duplex, h.connected, h.settled, h.queued, h.remote⟩

theorem answer_readFile {path : String} {bytes : ByteArray} (file : d.folder.read path = .ok bytes) :
    Desk.answer (.readFile path) d = (.ok bytes, d) := by
  show ((d.folder.read path).mapError PathError.ioError, d) = _
  rw [file]
  rfl

theorem run_readImage {path : String} (file : d.folder.read path = .ok image.bytes) :
    (readImage path).run Desk.answer d = (.ok image, d) := by
  have read : (readFile path).run Desk.answer d = (.ok image.bytes, d) :=
    (Recorded.ask (answer_readFile file) (recorded_done image.bytes d)).run
  rw [readImage, run_bind_ok read, image.ofBytes?_bytes]
  rfl

theorem run_syncBlock (stands : Stands b) (flawless : b.flash.failing = {}) (rounds : c.rounds ≠ 0)
    (same : c.chunkSize = b.config.chunkSize) (color : Bool) {number : Nat} (among : number < image.blocks)
    (fits : image.blocks ≤ blockCount l.content) (h : Linked d b l [] []) :
    ∃ sync d' l', (syncBlock color c image number).run Desk.answer d = (.ok sync, d') ∧
      Linked d' b l' [] [] ∧ l'.content.length = l.content.length := by
  have inside : (UInt16.ofNat number).toNat < blockCount l.content := by
    rw [image.toNat_number among]
    exact Nat.lt_of_lt_of_le among fits
  have full := image.length_block among
  let heading := "Block " ++ hexText 4 number ++ " (" ++
    hexText 8 (checksum (image.block number)).toNat ++ ")... "
  obtain ⟨d₁, l₁, went, linked, content, -⟩ :=
    run_sync stands flawless full rounds same (linked_print h heading) inside
  have length : l₁.content.length = l.content.length := by
    rw [content, length_stored inside full]
  generalize synced l.content (UInt16.ofNat number).toNat (image.block number) = sync at went
  refine ⟨sync, ?_⟩
  cases sync with
  | unchanged => exact ⟨_, l₁, run_bind_ok (run_trial_ok went), linked_print linked _, length⟩
  | written => exact ⟨_, l₁, run_bind_ok (run_trial_ok went), linked_print linked _, length⟩

theorem run_pass (stands : Stands b) (flawless : b.flash.failing = {}) (rounds : c.rounds ≠ 0)
    (same : c.chunkSize = b.config.chunkSize) (color : Bool) {numbers : List Nat}
    (among : ∀ n ∈ numbers, n < image.blocks) (fits : image.blocks ≤ blockCount l.content)
    (h : Linked d b l [] []) :
    ∃ answers d' l', (numbers.mapM (syncBlock color c image)).run Desk.answer d = (.ok answers, d') ∧
      Linked d' b l' [] [] := by
  induction numbers generalizing d l with
  | nil => exact ⟨[], d, l, rfl, h⟩
  | cons n numbers ih =>
    obtain ⟨among₀, among⟩ := List.forall_mem_cons.mp among
    obtain ⟨sync, d₁, l₁, went, linked, length⟩ :=
      run_syncBlock stands flawless rounds same color among₀ fits h
    have fits₁ : image.blocks ≤ blockCount l₁.content := by
      rw [blockCount, length]
      exact fits
    obtain ⟨answers, d₂, l₂, rest, linked₂⟩ := ih among fits₁ linked
    refine ⟨sync :: answers, d₂, l₂, ?_, linked₂⟩
    rw [List.mapM_cons, run_bind_ok went, run_bind_ok rest]
    rfl

theorem run_farewell (stands : Stands b) (color : Bool) (image : Image) (written : Nat)
    (h : Linked d b l [] []) : ∃ d', (do
      print (toString written ++ " of " ++ toString image.blocks ++ " blocks rewritten\n")
      print "Continuing boot... "
      report color Client.exit : Talk Unit).run Desk.answer d = (.ok (), d') := by
  let summary := toString written ++ " of " ++ toString image.blocks ++ " blocks rewritten\n"
  obtain ⟨d', r, exited, -⟩ :=
    run_exit stands (linked_print (linked_print h summary) "Continuing boot... ")
  exact ⟨_, run_bind_ok (run_trial_ok exited)⟩

/-- an image that fits is flashed to any board on a lossless cable -/
theorem run_flash (stands : Stands b) (flawless : b.flash.failing = {}) (rounds : c.rounds ≠ 0)
    (same : c.chunkSize = b.config.chunkSize) (color : Bool) {path : String}
    (file : d.folder.read path = .ok image.bytes) (fits : image.blocks ≤ blockCount l.content)
    (h : Linked d b l [] []) : ∃ d', (doJob color c (.flash path)).run Desk.answer d = (.ok (), d') := by
  obtain ⟨answers, d₁, l₁, passed, linked⟩ :=
    run_pass stands flawless rounds same color (fun n mem => List.mem_range.mp mem) fits h
  obtain ⟨d₂, parted⟩ := run_farewell stands color image (answers.count .written) linked
  exact ⟨d₂, (run_bind_ok (run_readImage file)).trans ((run_bind_ok passed).trans parted)⟩

theorem read_working (bytes : ByteArray) : (working [("image.bin", bytes)]).read "image.bin" = .ok bytes := rfl

/-- one block, on a board that had another -/
theorem flash_finishes_marked :
    let b := Board.standard 1
    let c : Client := { chunkSize := b.config.chunkSize }
    let remote := Remote.replayed { board := b, bootstrap := false }
    let d : Desk :=
      { cable := .connect .duplex 500 remote, folder := working [("image.bin", markedImage.bytes)] }
    c.chunkSize ≠ 0 ∧ ∃ calls d',
      Recorded Desk.answer (doJob false c (.flash "image.bin")) d calls (.ok ()) d' ∧
      ∃ visits, Toured Desk.answer false c markedImage visits (calls.drop 1) (.ok ()) ∧
        visits.map Visit.number = [0] ∧ .of .exit 0 ∈ commands (spoken calls) := by
  intro b c remote d
  have fits : markedImage.blocks ≤ blockCount (b.ledger b.config.nackOnFailure).content := by
    rw [Board.content_ledger, content_standard, blockCount_replicate]
    decide
  have rounds : c.rounds ≠ 0 := show ({} : Client).rounds ≠ 0 by decide
  have file : d.folder.read "image.bin" = .ok markedImage.bytes := read_working markedImage.bytes
  obtain ⟨d', ran⟩ := run_flash (stands_standard 1) rfl rounds rfl false file fits
    (linked_connect rfl (d := d) rfl)
  have some_ : c.chunkSize ≠ 0 := by decide
  -- for any desk, lest the block be spelled out
  have known {d d' : Desk} {image : Image} {calls : List Call}
      (file : d.folder.read "image.bin" = .ok image.bytes)
      (went : Recorded Desk.answer (doJob false c (.flash "image.bin")) d calls (.ok ()) d') :
      ∃ visits, Toured Desk.answer false c image visits (calls.drop 1) (.ok ()) ∧
        visits.map Visit.number = image.numbers ∧ .of .exit 0 ∈ commands (spoken calls) := by
    have told := flash_finishes some_ went
    rw [answer_readFile file] at told
    obtain ⟨rest, rfl, flashes⟩ := told
    obtain ⟨visits, toured⟩ := flashes.toured _ image rfl image.ofBytes?_bytes
    refine ⟨visits, toured, ?_⟩
    rcases toured.outcome with letGo | givenUp
    · exact ⟨letGo.well.1, toured.exits.mpr letGo.well⟩
    · obtain ⟨first, v, why, -, -, -, failed, -⟩ := givenUp.failed
      cases failed
  exact ⟨some_, _, d', recorded ran, known file (recorded ran)⟩

end

end FlashRescue.Host
