import FlashRescue.Host.Console
import FlashRescue.Proofs.Host.Speech

/-!
# Visits to the blocks of an image

A pass over an image, block by block, against a machine that replies whatever it likes.

* `Host.Sequence`   CHECKSUMs about a block, with one WRITE among them at most;
* `Host.Told`       what is said about a block, with its WRITE only after a CHECKSUM that differed;
                    `Host.Entire`: nothing of it is cut short;
* `Host.Visit`      a block that was visited, with all that was asked about it;
* `Host.Pass`       the ways in which a pass can go: up to the end, or up to the block that failed;
                    `recorded_pass`: there are no others;
* `count_visits`, `countP_visits`  the WRITEs of a pass.
-/

namespace FlashRescue.Host

open Dialogue

/-! ## Commands about a block -/

/-- CHECKSUMs about a block, and one WRITE between them or none -/
inductive Sequence (block : UInt16) : List Command → Prop
  | asked (k : Nat) : Sequence block (List.replicate k (.of .checksum block))
  | written (k j : Nat) : Sequence block (List.replicate k (.of .checksum block) ++
      .of .write block :: List.replicate j (.of .checksum block))

def isWriting (command : Command) : Bool := command.opcode? = some .write

section
variable {block : UInt16} {commands : List Command}

theorem of_write_ne_checksum (block block' : UInt16) :
    Command.of .write block ≠ Command.of .checksum block' := by
  intro same
  cases congrArg Command.opcode same

theorem Sequence.about (h : Sequence block commands) :
    ∀ command ∈ commands, command = .of .checksum block ∨ command = .of .write block := by
  cases h with
  | asked k => exact fun command mem => .inl (List.eq_of_mem_replicate mem)
  | written k j =>
    intro command mem
    rcases List.mem_append.mp mem with before | after
    · exact .inl (List.eq_of_mem_replicate before)
    · rcases List.mem_cons.mp after with same | after
      · exact .inr same
      · exact .inl (List.eq_of_mem_replicate after)

theorem count_asked (block : UInt16) (k : Nat) :
    (List.replicate k (Command.of .checksum block)).count (.of .write block) = 0 := by
  refine List.count_eq_zero.mpr fun mem => ?_
  exact of_write_ne_checksum block block (List.eq_of_mem_replicate mem)

theorem countP_asked (block : UInt16) (k : Nat) :
    (List.replicate k (Command.of .checksum block)).countP isWriting = 0 := by
  refine List.countP_eq_zero.mpr fun command mem => ?_
  rw [List.eq_of_mem_replicate mem, isWriting, Command.opcode?_of]
  decide

theorem countP_written (block : UInt16) (k j : Nat) :
    (List.replicate k (Command.of .checksum block) ++
      Command.of .write block :: List.replicate j (Command.of .checksum block)).countP isWriting = 1 := by
  rw [List.countP_append, List.countP_cons, countP_asked, countP_asked, isWriting, Command.opcode?_of]
  rfl

theorem Sequence.once (h : Sequence block commands) : commands.count (.of .write block) ≤ 1 := by
  cases h with
  | asked k =>
    rw [count_asked]
    exact Nat.zero_le 1
  | written k j =>
    refine Nat.le_of_eq ?_
    rw [List.count_append, List.count_cons_self, count_asked, count_asked]

end

section
variable {block : UInt16} {data : List UInt8} {calls : List Call} {requests : List Request}
  {left : List UInt8} {ended : Except (Stop Error) Sync}

theorem whole_asks (block : UInt16) (k : Nat) : ∀ r ∈ asks block k, r.Whole := by
  intro r mem
  rw [List.eq_of_mem_replicate mem]
  exact Request.whole_bare (by decide) block

theorem commands_asks (block : UInt16) (k : Nat) :
    commands ((asks block k).flatMap Request.encode) = List.replicate k (.of .checksum block) := by
  rw [commands_requests (whole_asks block k)]
  exact List.map_replicate

theorem whole_written (full : data.length = blockSize) (k j : Nat) :
    ∀ r ∈ asks block k ++ .write block data :: asks block j, r.Whole := by
  simp only [List.forall_mem_append, List.forall_mem_cons]
  exact ⟨whole_asks block k, Request.whole_write block full, whole_asks block j⟩

theorem commands_written (full : data.length = blockSize) (k j : Nat) :
    commands ((asks block k ++ .write block data :: asks block j).flatMap Request.encode) =
      List.replicate k (.of .checksum block) ++
        .of .write block :: List.replicate j (.of .checksum block) := by
  rw [commands_requests (whole_written full k j), List.map_append, List.map_cons, asks, asks,
    List.map_replicate, List.map_replicate]
  rfl

theorem commands_broken (full : data.length = blockSize) {m : Nat} (short : m < blockSize) (k : Nat) :
    commands ((asks block k).flatMap Request.encode ++ ((Command.of .write block).encode ++ data.take m)) =
      List.replicate k (.of .checksum block) ++
        .of .write block :: List.replicate 0 (.of .checksum block) := by
  have length : (data.take m).length < blockSize := by
    rw [List.length_take, full]
    omega
  rw [commands_flatMap (whole_asks block k), commands_cut block length, asks, List.map_replicate]
  rfl

/-- what was said are whole requests -/
def Entire (calls : List Call) : Prop :=
  ∃ requests : List Request, (∀ r ∈ requests, r.Whole) ∧ spoken calls = requests.flatMap Request.encode

/-- what was said about a block that was to have a content -/
structure Told (block : UInt16) (data : List UInt8) (calls : List Call)
    (ended : Except (Stop Error) Sync) : Prop where
  sequence : Sequence block (commands (spoken calls))
  /-- a WRITE comes after a CHECKSUM whose answer differed -/
  differed : .of .write block ∈ commands (spoken calls) → ∃ asked later crc, calls = asked ++ later ∧
    Answered block crc asked ∧ crc ≠ checksum data ∧
    ∀ command ∈ commands (spoken asked), command = .of .checksum block
  /-- if all went well nothing is left of a WRITE that was cut short -/
  whole : ∀ sync, ended = .ok sync → Entire calls
  counted : ∀ sync, ended = .ok sync → (commands (spoken calls)).countP isWriting = [sync].count .written

theorem told (full : data.length = blockSize) (h : Synced block data calls requests left ended) :
    Told block data calls ended := by
  have unwritten {k : Nat} {asked : List Call}
      (said : spoken asked = (asks block k).flatMap Request.encode) :
      ∀ command ∈ commands (spoken asked), command = .of .checksum block := by
    rw [said, commands_asks]
    exact fun command mem => List.eq_of_mem_replicate mem
  cases h with
  | @unwritten _ k why said =>
    refine ⟨?_, fun mem => ?_, nofun, nofun⟩
    · rw [said, commands_asks]
      exact .asked k
    · exact absurd (unwritten said _ mem) (of_write_ne_checksum block block)
  | @unchanged _ k said answered =>
    refine ⟨?_, fun mem => ?_, fun _ _ => ⟨_, whole_asks block k, said⟩, ?_⟩
    · rw [said, commands_asks]
      exact .asked k
    · exact absurd (unwritten said _ mem) (of_write_ne_checksum block block)
    · rintro sync same
      cases same
      rw [said, commands_asks, countP_asked]
      rfl
  | @cut asked wrote k m crc why said answered differs written short =>
    refine ⟨?_, fun _ => ⟨asked, wrote, crc, rfl, answered, differs, unwritten said⟩, nofun, nofun⟩
    rw [spoken_append, said, written, commands_broken full short]
    exact .written k 0
  | @written asked wrote k j crc _ said answered differs written result =>
    have all : spoken (asked ++ wrote) =
        (asks block k ++ .write block data :: asks block j).flatMap Request.encode := by
      rw [spoken_append, said, written, List.flatMap_append]
    refine ⟨?_, fun _ => ⟨asked, wrote, crc, rfl, answered, differs, unwritten said⟩,
      fun _ _ => ⟨_, whole_written full k j, all⟩, ?_⟩
    · rw [all, commands_written full]
      exact .written k j
    · intro sync same
      rw [all, commands_written full, countP_written, result sync same]
      rfl

end

/-! ## Visits -/

/-- a block that was visited: its number, what was asked of the machine, and what came of it -/
structure Visit where
  number : Nat
  calls : List Call
  ended : Except (Stop Error) Sync

namespace Visit

def block (v : Visit) : UInt16 := UInt16.ofNat v.number

/-- the commands that the block was sent -/
def commands (v : Visit) : List Command := Host.commands (spoken v.calls)

/-- the operator is told what came of a block -/
def verdict (color : Bool) : Except (Stop Error) Sync → List Call
  | .ok .unchanged => [⟨.print (Tint.dimmed.paint color "unchanged" ++ "\n"), ()⟩]
  | .ok .written => [⟨.print (Tint.green.paint color "rewritten" ++ "\n"), ()⟩]
  | .error (.failed _) => [⟨.print (Tint.red.paint color "failed" ++ "\n"), ()⟩]
  | .error (.broken _) | .error .unfinished => []

/-- the visit with what the operator is told -/
def lines (color : Bool) (image : Image) (v : Visit) : List Call :=
  ⟨.print ("Block " ++ hexText 4 v.number ++ " (" ++ hexText 8 (checksum (image.block v.number)).toNat ++
    ")... "), ()⟩ :: (v.calls ++ verdict color v.ended)

/-- the block was synchronised with that of the image, from some state of the machine on -/
def Genuine {σ : Type} (answer : machine.Answerer σ) (c : Client) (image : Image) (v : Visit) : Prop :=
  ∃ s s', Recorded answer (c.sync v.block (image.block v.number)) s v.calls v.ended s'

end Visit

section
variable {σ : Type} {answer : machine.Answerer σ} {s s' : σ} {calls : List Call} {color : Bool}
  {c : Client} {image : Image}

theorem recorded_print {α : Type} {text : String} {next : Unit → Talk α} {ended : Except (Stop Error) α}
    (h : Recorded answer (next ()) (answer (.print text) s).2 calls ended s') :
    Recorded answer (print text >>= next) s (⟨.print text, ()⟩ :: calls) ended s' :=
  Recorded.ask (show answer (.print text) s = ((), (answer (.print text) s).2) from rfl) h

/-- a step that only tells the operator something -/
theorem recorded_printWord {α : Type} {tint : Tint} {word : String} {next : Unit → Talk α}
    {ended : Except (Stop Error) α} (stays : ∀ s, Recorded answer (next ()) s [] ended s) :
    Recorded answer (printWord color tint word >>= next) s [⟨.print (tint.paint color word ++ "\n"), ()⟩]
      ended (answer (.print (tint.paint color word ++ "\n")) s).2 :=
  recorded_print (stays _)

theorem recorded_syncBlock {number : Nat} {ended : Except (Stop Error) Sync}
    (h : Recorded answer (syncBlock color c image number) s calls ended s') :
    ∃ v : Visit, v.number = number ∧ v.Genuine answer c image ∧ calls = v.lines color image ∧
      ended = v.ended := by
  let heading := "Block " ++ hexText 4 number ++ " (" ++
    hexText 8 (checksum (image.block number)).toNat ++ ")... "
  have went := recorded (Prod.eta ((c.sync (UInt16.ofNat number) (image.block number)).run answer
    (answer (.print heading) s).2)).symm
  generalize ((c.sync _ _).run answer _).1 = ended₀ at went
  generalize ((c.sync _ _).run answer _).2 = s₁ at went
  generalize (c.sync _ _).transcript answer _ = calls₀ at went
  -- a break ends the step without a word to the operator, all other ends have theirs
  have whole : ∃ s₂, Recorded answer (syncBlock color c image number) s
      (Visit.lines color image ⟨number, calls₀, ended₀⟩) ended₀ s₂ := by
    cases ended₀ with
    | ok sync =>
      cases sync with
      | unchanged =>
        exact ⟨_, recorded_print (went.trial.bind_ok (recorded_printWord (recorded_done Sync.unchanged)))⟩
      | written =>
        exact ⟨_, recorded_print (went.trial.bind_ok (recorded_printWord (recorded_done Sync.written)))⟩
    | error why =>
      cases why with
      | failed e =>
        exact ⟨_, recorded_print (went.trial.bind_ok (recorded_printWord (recorded_stop (.failed e))))⟩
      | broken fault =>
        refine ⟨s₁, recorded_print ?_⟩
        rw [Visit.verdict, List.append_nil]
        exact went.trial.bind_error
      | unfinished =>
        refine ⟨s₁, recorded_print ?_⟩
        rw [Visit.verdict, List.append_nil]
        exact went.trial.bind_error
  obtain ⟨s₂, whole⟩ := whole
  obtain ⟨rfl, rfl, -⟩ := h.unique whole
  exact ⟨⟨number, calls₀, ended⟩, rfl, ⟨_, s₁, went⟩, rfl, rfl⟩

/-! ## Passes -/

/-- the ways in which a pass over some blocks can go: to its end, or up to the block that fails -/
inductive Pass (answer : machine.Answerer σ) (c : Client) (image : Image) :
    List Nat → List Visit → Except (Stop Error) (List Sync) → Prop
  | done : Pass answer c image [] [] (.ok [])
  | failed {numbers : List Nat} {v : Visit} {why : Stop Error} (genuine : v.Genuine answer c image)
      (fails : v.ended = .error why) : Pass answer c image (v.number :: numbers) [v] (.error why)
  | goes {numbers : List Nat} {v : Visit} {visits : List Visit} {sync : Sync}
      {ended : Except (Stop Error) (List Sync)} (genuine : v.Genuine answer c image)
      (went : v.ended = .ok sync) (rest : Pass answer c image numbers visits ended) :
      Pass answer c image (v.number :: numbers) (v :: visits) (ended.map (sync :: ·))

theorem recorded_pass {numbers : List Nat} {ended : Except (Stop Error) (List Sync)}
    (h : Recorded answer (numbers.mapM (syncBlock color c image)) s calls ended s') :
    ∃ visits, Pass answer c image numbers visits ended ∧ calls = visits.flatMap (Visit.lines color image) := by
  induction numbers generalizing s calls ended with
  | nil =>
    obtain ⟨rfl, rfl, -⟩ := h.unique (recorded_done [] s)
    exact ⟨[], .done, rfl⟩
  | cons number numbers ih =>
    rw [List.mapM_cons] at h
    rcases h.of_bind with ⟨why, rfl, stopped⟩ | ⟨first, sync, s₁, rest, rfl, went, later⟩
    · obtain ⟨v, rfl, genuine, rfl, fails⟩ := recorded_syncBlock stopped
      exact ⟨[v], .failed genuine fails.symm, (List.append_nil _).symm⟩
    · obtain ⟨v, rfl, genuine, rfl, well⟩ := recorded_syncBlock went
      have onward : ∃ ended', Recorded answer (numbers.mapM (syncBlock color c image)) s₁ rest ended' s' ∧
          ended = ended'.map (sync :: ·) := by
        rcases later.of_bind with ⟨why, rfl, stopped⟩ | ⟨rest, syncs, s₂, nothing, rfl, passed, done_⟩
        · exact ⟨_, stopped, rfl⟩
        · obtain ⟨rfl, rfl, rfl⟩ := done_.unique (recorded_done (sync :: syncs) s₂)
          rw [List.append_nil]
          exact ⟨_, passed, rfl⟩
      obtain ⟨ended', passed, rfl⟩ := onward
      obtain ⟨visits, pass, rfl⟩ := ih passed
      exact ⟨v :: visits, .goes genuine well.symm pass, rfl⟩

variable {numbers : List Nat} {visits : List Visit} {ended : Except (Stop Error) (List Sync)}

theorem Pass.genuine (h : Pass answer c image numbers visits ended) :
    ∀ v ∈ visits, v.Genuine answer c image := by
  induction h with
  | done => exact List.forall_mem_nil _
  | failed genuine fails => exact List.forall_mem_singleton.mpr genuine
  | goes genuine went rest ih => exact List.forall_mem_cons.mpr ⟨genuine, ih⟩

/-- the blocks are visited in their order -/
theorem Pass.order (h : Pass answer c image numbers visits ended) :
    visits.map Visit.number <+: numbers := by
  induction h with
  | done => exact List.nil_prefix
  | @failed numbers v => exact List.prefix_append [v.number] numbers
  | goes genuine went rest ih => exact (List.prefix_cons_inj _).mpr ih

/-- all blocks were visited, and all visits went well -/
def Complete (numbers : List Nat) (visits : List Visit) : Prop :=
  visits.map Visit.number = numbers ∧ ∀ v ∈ visits, ∃ sync, v.ended = .ok sync

theorem Pass.complete {answers : List Sync} (h : Pass answer c image numbers visits (.ok answers)) :
    Complete numbers visits ∧ visits.map Visit.ended = answers.map .ok := by
  generalize same : (Except.ok answers : Except (Stop Error) (List Sync)) = ended at h
  induction h generalizing answers with
  | done =>
    cases same
    exact ⟨⟨rfl, List.forall_mem_nil _⟩, rfl⟩
  | failed genuine fails => cases same
  | @goes numbers v visits sync ended genuine went rest ih =>
    cases ended with
    | error why => cases same
    | ok syncs =>
      cases same
      obtain ⟨⟨all, well⟩, told⟩ := ih rfl
      refine ⟨⟨?_, List.forall_mem_cons.mpr ⟨⟨sync, went⟩, well⟩⟩, ?_⟩
      · rw [List.map_cons, all]
      · rw [List.map_cons, told, went, List.map_cons]

/-- the last visit has failed, and the pass with it -/
theorem Pass.incomplete {why : Stop Error} (h : Pass answer c image numbers visits (.error why)) :
    ∃ first v, visits = first ++ [v] ∧ (∀ w ∈ first, ∃ sync, w.ended = .ok sync) ∧
      v.ended = .error why := by
  generalize same : (Except.error why : Except (Stop Error) (List Sync)) = ended at h
  induction h with
  | done => cases same
  | @failed numbers v why' genuine fails =>
    cases same
    exact ⟨[], v, rfl, List.forall_mem_nil _, fails⟩
  | @goes numbers v visits sync ended genuine went rest ih =>
    cases ended with
    | ok syncs => cases same
    | error why' =>
      cases same
      obtain ⟨first, last, rfl, well, fails⟩ := ih rfl
      exact ⟨v :: first, last, rfl, List.forall_mem_cons.mpr ⟨⟨sync, went⟩, well⟩, fails⟩

/-! ## Commands of a pass -/

theorem spoken_lines (v : Visit) : spoken (v.lines color image) = spoken v.calls := by
  have silent : spoken (Visit.verdict color v.ended) = [] := by
    cases v.ended with
    | ok sync => cases sync <;> rfl
    | error why => cases why <;> rfl
  rw [Visit.lines, spoken_cons, spoken_append, silent, List.append_nil]
  rfl

theorem spoken_visits (visits : List Visit) :
    spoken (visits.flatMap (Visit.lines color image)) = visits.flatMap fun v => spoken v.calls := by
  induction visits with
  | nil => rfl
  | cons v visits ih => rw [List.flatMap_cons, spoken_append, spoken_lines, ih, List.flatMap_cons]

/-- behind visits that went well a board waits for a command -/
theorem commands_visits (whole : ∀ v ∈ visits, Entire v.calls) (bytes : List UInt8) :
    commands ((visits.flatMap fun v => spoken v.calls) ++ bytes) =
      visits.flatMap Visit.commands ++ commands bytes := by
  induction visits with
  | nil => rfl
  | cons v visits ih =>
    obtain ⟨first, rest⟩ := List.forall_mem_cons.mp whole
    obtain ⟨requests, all, said⟩ := first
    rw [List.flatMap_cons, List.flatMap_cons, List.append_assoc, List.append_assoc, ← ih rest,
      Visit.commands, said, commands_flatMap all, commands_requests all]

theorem block_inj {v w : Visit} (hv : v.number < blockNumbers) (hw : w.number < blockNumbers)
    (same : v.block = w.block) : v.number = w.number := by
  have equal : (UInt16.ofNat v.number).toNat = (UInt16.ofNat w.number).toNat := congrArg UInt16.toNat same
  unfold blockNumbers at hv hw
  rwa [UInt16.toNat_ofNat', UInt16.toNat_ofNat', Nat.mod_eq_of_lt hv, Nat.mod_eq_of_lt hw] at equal

/-- no block is written twice -/
theorem count_visits (once : (visits.map Visit.number).Nodup) (inside : ∀ v ∈ visits, v.number < blockNumbers)
    (sequence : ∀ v ∈ visits, Sequence v.block v.commands) (block : UInt16) :
    (visits.flatMap Visit.commands).count (.of .write block) ≤ 1 := by
  induction visits with
  | nil => exact Nat.zero_le 1
  | cons v visits ih =>
    rw [List.map_cons, List.nodup_cons] at once
    obtain ⟨inside₀, inside⟩ := List.forall_mem_cons.mp inside
    obtain ⟨sequence₀, sequence⟩ := List.forall_mem_cons.mp sequence
    rw [List.flatMap_cons, List.count_append]
    -- a WRITE of the block can only be among what was said at its own visit
    by_cases this : block = v.block
    · subst this
      have others : (visits.flatMap Visit.commands).count (.of .write v.block) = 0 := by
        refine List.count_eq_zero.mpr fun mem => ?_
        obtain ⟨w, among, mem⟩ := List.mem_flatMap.mp mem
        rcases (sequence w among).about _ mem with asked | written
        · exact of_write_ne_checksum _ _ asked
        · have same : v.number = w.number :=
            block_inj inside₀ (inside w among) (congrArg Command.block written)
          exact once.1 (same ▸ List.mem_map_of_mem among)
      rw [others]
      exact sequence₀.once
    · have none_ : v.commands.count (.of .write block) = 0 := by
        refine List.count_eq_zero.mpr fun mem => ?_
        rcases sequence₀.about _ mem with asked | written
        · exact of_write_ne_checksum _ _ asked
        · exact this (congrArg Command.block written)
      rw [none_, Nat.zero_add]
      exact ih once.2 inside sequence

/-- as many WRITEs were sent as blocks were written -/
theorem countP_visits {answers : List Sync} (ended : visits.map Visit.ended = answers.map .ok)
    (counted : ∀ v ∈ visits, ∀ sync, v.ended = .ok sync →
      v.commands.countP isWriting = [sync].count .written) :
    (visits.flatMap Visit.commands).countP isWriting = answers.count .written := by
  induction visits generalizing answers with
  | nil =>
    cases answers with
    | nil => rfl
    | cons sync answers => cases ended
  | cons v visits ih =>
    cases answers with
    | nil => cases ended
    | cons sync answers =>
      rw [List.map_cons, List.map_cons, List.cons.injEq] at ended
      obtain ⟨counted₀, counted⟩ := List.forall_mem_cons.mp counted
      rw [List.flatMap_cons, List.countP_append, counted₀ sync ended.1, ih ended.2 counted,
        ← List.count_append]
      rfl

end

end FlashRescue.Host
