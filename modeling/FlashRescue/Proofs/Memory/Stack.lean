import FlashRescue.Proofs.Boot.Memory
import FlashRescue.Proofs.Dialogue.History
import Mathlib.Algebra.GroupWithZero.Nat
import Mathlib.Data.List.Induction

/-!
# The arena as a stack

An arena keeps one address.  As long as only ranges are given back that it has handed out and not taken back
since, that address stands for all of them: the arena is a stack of ranges.

* `end?_eq_some_iff`     where some pages end, counted without a limit;
* `Arena.services`       what an arena is asked;
* `Arena.live`           the ranges that are in use after some calls;
* `Stack`                what an arena should be, with all of its ranges in mind;
* `Misleads`             a range that the arena takes back though it is not the latest one, or cannot judge;
* `Arena.Holds`          the address an arena keeps is the top of the stack;
* `Orderly`              what the ranges in use are like, and what the arena does next;
* `hands_out_in_turn`    all of it, whatever is allocated and in whatever order it is given back.
-/

namespace FlashRescue

/-! ## Ranges -/

namespace PageRange

variable {range : PageRange} {last address : UInt64}

def bytes (range : PageRange) : Nat := range.pages.toNat * pageSize.toNat

theorem end?_eq_some_iff : range.end? = some last ↔ last.toNat = range.base.toNat + range.bytes := by
  constructor
  · intro ends
    obtain ⟨length, product, sum⟩ := Option.bind_eq_some_iff.mp ends
    rw [toNat_add? sum, toNat_mul? product]
    rfl
  · intro same
    have bound := last.toNat_lt
    have product : range.length? = some (range.pages * pageSize) := by
      refine if_pos ?_
      unfold bytes at same
      unfold UInt64.size
      omega
    have sum : Word.add? range.base (range.pages * pageSize) = some (range.base + range.pages * pageSize) := by
      refine if_pos ?_
      rw [toNat_mul? product, ← bytes, ← same]
      exact bound
    rw [end?, product, Option.bind_some, sum, Option.some_inj, ← UInt64.toNat_inj, same, toNat_add? sum,
      toNat_mul? product]
    rfl

theorem end?_eq_none_iff : range.end? = none ↔ UInt64.size ≤ range.base.toNat + range.bytes := by
  constructor
  · intro ends
    refine Nat.le_of_not_lt fun fits => ?_
    have last : range.end? = some (UInt64.ofNat (range.base.toNat + range.bytes)) := by
      rw [end?_eq_some_iff, UInt64.toNat_ofNat_of_lt' fits]
    rw [ends] at last
    cases last
  · intro beyond
    cases ends : range.end? with
    | none => rfl
    | some last =>
      have same := end?_eq_some_iff.mp ends
      have bound : last.toNat < UInt64.size := last.toNat_lt
      omega

theorem bytes_pos (some_ : range.pages ≠ 0) : 0 < range.bytes := by
  have pages : range.pages.toNat ≠ 0 := fun none => some_ (UInt64.toNat_inj.mp none)
  rw [bytes, toNat_pageSize]
  omega

theorem Contains.bounds (h : range.Contains address) :
    range.base.toNat ≤ address.toNat ∧ address.toNat < range.base.toNat + range.bytes := by
  obtain ⟨last, ends, above, below⟩ := h
  rw [← end?_eq_some_iff.mp ends]
  exact ⟨UInt64.le_iff_toNat_le.mp above, UInt64.lt_iff_toNat_lt.mp below⟩

end PageRange

namespace Arena

/-! ## What is asked of an arena -/

inductive Query where
  | allocate (pages : UInt64)
  | release (range : PageRange)

@[reducible] def Reply : Query → Type
  | .allocate _ => Option PageRange
  | .release _ => Except Fault Bool

@[reducible] def services : Interface := ⟨Query, Reply⟩

abbrev Call : Type := services.Exchange

/-- what is broken off leaves the arena as it was -/
def answer : services.Answerer Arena
  | .allocate pages, a => a.allocate pages
  | .release range, a =>
    match a.release range with
    | .ok (released, a') => (.ok released, a')
    | .error fault => (.error fault, a)

/-- the ranges in use after one more call, the latest first -/
def keep (live : List PageRange) : Call → List PageRange
  | ⟨.allocate _, some range⟩ => range :: live
  | ⟨.release range, .ok true⟩ => live.erase range
  | _ => live

def live (calls : List Call) : List PageRange := calls.foldl keep []

theorem live_concat (calls : List Call) (call : Call) :
    live (calls ++ [call]) = keep (live calls) call := by
  rw [live, live, List.foldl_append]
  rfl

/-- every range that is to be given back is suitable, with these ranges in use -/
def Releases (Suits : List PageRange → PageRange → Prop) (calls : List Call) : Prop :=
  ∀ past range reply rest, calls = past ++ ⟨.release range, reply⟩ :: rest → Suits (live past) range

theorem releases_nil (Suits : List PageRange → PageRange → Prop) : Releases Suits [] := by
  intro past range reply rest split
  simp at split

theorem releases_concat {Suits : List PageRange → PageRange → Prop} {calls : List Call} {call : Call} :
    Releases Suits (calls ++ [call]) ↔
      Releases Suits calls ∧ ∀ range, call.query = .release range → Suits (live calls) range := by
  constructor
  · intro all
    refine ⟨fun past range reply rest split => ?_, fun range asked => ?_⟩
    · exact all past range reply (rest ++ [call]) (by simp [split])
    · obtain ⟨query, reply⟩ := call
      cases asked
      exact all calls range reply [] rfl
  · rintro ⟨before, here⟩ past range reply rest split
    rcases split_concat split with ⟨rfl, rfl, -⟩ | ⟨rest', rfl, earlier⟩
    · exact here range rfl
    · exact before past range reply rest' earlier

end Arena

/-! ## The stack -/

/-- a stack of ranges, the latest first, between two addresses -/
structure Stack where
  start : Nat
  limit : Nat
  live : List PageRange

/-- the bytes of some ranges together -/
def totalBytes (live : List PageRange) : Nat := (live.map PageRange.bytes).sum

def totalPages (live : List PageRange) : Nat := (live.map fun range => range.pages.toNat).sum

theorem totalBytes_eq (live : List PageRange) : totalBytes live = pageSize.toNat * totalPages live := by
  induction live with
  | nil => rfl
  | cons range live ih =>
    show range.bytes + totalBytes live = pageSize.toNat * (range.pages.toNat + totalPages live)
    rw [ih, Nat.mul_add, PageRange.bytes, Nat.mul_comm]

/-- with these ranges in use from `start` on, an arena is misled by a range that is not the latest one and ends
where the latest one does, or at no address at all -/
def Misleads (start : Nat) (live : List PageRange) (range : PageRange) : Prop :=
  live.head? ≠ some range ∧ range.pages ≠ 0 ∧
    (range.base.toNat + range.bytes = start + totalBytes live ∨ UInt64.size ≤ range.base.toNat + range.bytes)

instance (start : Nat) (live : List PageRange) (range : PageRange) : Decidable (Misleads start live range) :=
  inferInstanceAs (Decidable (_ ∧ _ ∧ _))

namespace Stack

def top (s : Stack) : Nat := s.start + totalBytes s.live

/-- pages from the top on -/
def allocate (pages : UInt64) (s : Stack) : Option PageRange × Stack :=
  if pages = 0 ∨ s.limit < s.top + pages.toNat * pageSize.toNat then (none, s)
  else (some ⟨UInt64.ofNat s.top, pages⟩, { s with live := ⟨UInt64.ofNat s.top, pages⟩ :: s.live })

/-- takes back the latest range and no other one -/
def release (range : PageRange) (s : Stack) : Bool × Stack :=
  if s.live.head? = some range then (true, { s with live := s.live.tail }) else (false, s)

def answer : Arena.services.Answerer Stack
  | .allocate pages, s => s.allocate pages
  | .release range, s => (.ok (s.release range).1, (s.release range).2)

/-- each range begins where the one before it ends, and none reaches past the limit -/
def Piled (start limit : Nat) : List PageRange → Prop
  | [] => True
  | range :: live => range.pages ≠ 0 ∧ range.base.toNat = start + totalBytes live ∧
      range.base.toNat + range.bytes ≤ limit ∧ Piled start limit live

namespace Piled

variable {start limit : Nat} {range : PageRange} {live : List PageRange}

theorem bounds (piled : Piled start limit live) (mem : range ∈ live) :
    range.pages ≠ 0 ∧ start ≤ range.base.toNat ∧ range.base.toNat + range.bytes ≤ limit ∧
      range.base.toNat + range.bytes ≤ start + totalBytes live := by
  induction live with
  | nil => cases mem
  | cons latest live ih =>
    obtain ⟨some_, base, fits, rest⟩ := piled
    have total : totalBytes (latest :: live) = latest.bytes + totalBytes live := rfl
    rcases List.mem_cons.mp mem with rfl | mem
    · exact ⟨some_, by omega, fits, by omega⟩
    · obtain ⟨some_, above, fits, below⟩ := ih rest mem
      exact ⟨some_, above, fits, by omega⟩

theorem aligned (piled : Piled start limit live) (whole : start % pageSize.toNat = 0) (mem : range ∈ live) :
    range.base.toNat % pageSize.toNat = 0 := by
  induction live with
  | nil => cases mem
  | cons latest live ih =>
    obtain ⟨-, base, -, rest⟩ := piled
    rcases List.mem_cons.mp mem with rfl | mem
    · rw [base, totalBytes_eq, Nat.add_mul_mod_self_left, whole]
    · exact ih rest mem

theorem disjoint (piled : Piled start limit live) :
    live.Pairwise fun range range' => ∀ address, ¬ (range.Contains address ∧ range'.Contains address) := by
  induction live with
  | nil => exact List.Pairwise.nil
  | cons latest live ih =>
    obtain ⟨-, base, -, rest⟩ := piled
    refine List.pairwise_cons.mpr ⟨?_, ih rest⟩
    rintro range mem address ⟨here, there⟩
    obtain ⟨-, -, -, below⟩ := rest.bounds mem
    have above := here.bounds.1
    have under := there.bounds.2
    omega

/-- a range that is in use is the latest one or ends before it -/
theorem not_misleads (piled : Piled start limit live) (small : limit < UInt64.size) (mem : range ∈ live) :
    ¬ Misleads start live range := by
  rintro ⟨first, -, misleads⟩
  cases live with
  | nil => cases mem
  | cons latest live =>
    obtain ⟨some_, base, fits, rest⟩ := piled
    have total : totalBytes (latest :: live) = latest.bytes + totalBytes live := rfl
    rcases List.mem_cons.mp mem with rfl | mem
    · exact first rfl
    · obtain ⟨-, -, below, under⟩ := rest.bounds mem
      have room := PageRange.bytes_pos some_
      rcases misleads with top | beyond <;> omega

end Piled

end Stack

/-! ## An arena and its stack -/

/-- the address an arena keeps is the top of the stack, which is piled up on a page boundary -/
structure Arena.Holds (a : Arena) (s : Stack) : Prop where
  start : a.start.toNat = s.start
  limit : a.limit.toNat = s.limit
  next : a.next.toNat = s.top
  whole : s.start % pageSize.toNat = 0
  piled : Stack.Piled s.start s.limit s.live

namespace Arena.Holds

variable {a : Arena} {s : Stack}

theorem small (h : a.Holds s) : s.limit < UInt64.size := h.limit ▸ a.limit.toNat_lt

theorem allocate_eq (h : a.Holds s) (pages : UInt64) :
    a.allocate pages =
      if pages = 0 ∨ s.limit < s.top + pages.toNat * pageSize.toNat then (none, a)
      else (some ⟨a.next, pages⟩, { a with next := a.next + pages * pageSize }) := by
  have bytes : PageRange.bytes ⟨a.next, pages⟩ = pages.toNat * pageSize.toNat := rfl
  have bound := h.small
  have next := h.next
  rw [Arena.allocate]
  by_cases none_ : pages = 0
  · rw [if_pos none_, if_pos (.inl none_)]
  rw [if_neg none_]
  cases ends : PageRange.end? ⟨a.next, pages⟩ with
  | none =>
    have beyond : UInt64.size ≤ a.next.toNat + pages.toNat * pageSize.toNat :=
      PageRange.end?_eq_none_iff.mp ends
    rw [if_pos (.inr (by omega))]
  | some last =>
    have last_ := PageRange.end?_eq_some_iff.mp ends
    rw [bytes] at last_
    have same : last = a.next + pages * pageSize := by
      have small := last.toNat_lt
      rw [← UInt64.toNat_inj, UInt64.toNat_add, UInt64.toNat_mul, Nat.add_mod_mod, ← last_,
        Nat.mod_eq_of_lt small]
    have limit : last ≤ a.limit ↔ ¬ s.limit < s.top + pages.toNat * pageSize.toNat := by
      rw [UInt64.le_iff_toNat_le, h.limit, last_, ← h.next, Nat.not_lt]
    by_cases beyond : s.limit < s.top + pages.toNat * pageSize.toNat
    · rw [if_pos (.inr beyond)]
      exact if_neg fun fits => limit.mp fits beyond
    · rw [if_neg (not_or.mpr ⟨none_, beyond⟩), ← same]
      exact if_pos (limit.mpr beyond)

theorem release_eq (h : a.Holds s) (range : PageRange) :
    a.release range =
      if range.pages = 0 then .ok (false, a)
      else if UInt64.size ≤ range.base.toNat + range.bytes then .error .overflow
      else if range.base.toNat + range.bytes = s.top then .ok (true, { a with next := range.base })
      else .ok (false, a) := by
  rw [Arena.release]
  by_cases none_ : range.pages = 0
  · rw [if_pos none_, if_pos none_]
  rw [if_neg none_, if_neg none_]
  cases ends : range.end? with
  | none => rw [if_pos (PageRange.end?_eq_none_iff.mp ends)]
  | some last =>
    have last_ := PageRange.end?_eq_some_iff.mp ends
    have small : ¬ UInt64.size ≤ range.base.toNat + range.bytes :=
      Nat.not_le.mpr (last_ ▸ last.toNat_lt)
    have latest : last = a.next ↔ range.base.toNat + range.bytes = s.top := by
      rw [← UInt64.toNat_inj, last_, h.next]
    rw [if_neg small]
    by_cases ends_there : range.base.toNat + range.bytes = s.top
    · rw [if_pos ends_there]
      exact congrArg Except.ok (if_pos (latest.mpr ends_there))
    · rw [if_neg ends_there]
      exact congrArg Except.ok (if_neg fun same => ends_there (latest.mp same))

/-- the latest range ends at the top -/
theorem latest (h : a.Holds s) {range : PageRange} (first : s.live.head? = some range) :
    range.pages ≠ 0 ∧ range.base.toNat + range.bytes = s.top ∧ s.top < UInt64.size := by
  have small : s.top < UInt64.size := h.next ▸ a.next.toNat_lt
  obtain ⟨start, limit, live⟩ := s
  cases live with
  | nil => cases first
  | cons latest live =>
    cases first
    obtain ⟨some_, base, -, -⟩ := h.piled
    have total : Stack.top ⟨start, limit, range :: live⟩ = start + (range.bytes + totalBytes live) := rfl
    dsimp only at base
    exact ⟨some_, by omega, small⟩

/-- a release is right unless the range is one that the arena mistakes for the latest one -/
theorem release_eq_iff (h : a.Holds s) (range : PageRange) :
    a.release range =
        .ok (if s.live.head? = some range then (true, { a with next := range.base }) else (false, a)) ↔
      ¬ Misleads s.start s.live range := by
  rw [h.release_eq]
  by_cases first : s.live.head? = some range
  · obtain ⟨some_, top, small⟩ := h.latest first
    rw [if_pos first, if_neg some_, if_neg (by omega), if_pos top]
    exact iff_of_true rfl fun mistaken => mistaken.1 first
  · rw [if_neg first]
    by_cases none_ : range.pages = 0
    · rw [if_pos none_]
      exact iff_of_true rfl fun mistaken => mistaken.2.1 none_
    rw [if_neg none_]
    by_cases beyond : UInt64.size ≤ range.base.toNat + range.bytes
    · rw [if_pos beyond]
      exact iff_of_false (by simp) (not_not_intro ⟨first, none_, .inr beyond⟩)
    rw [if_neg beyond]
    by_cases top : range.base.toNat + range.bytes = s.top
    · rw [if_pos top]
      exact iff_of_false (by simp) (not_not_intro ⟨first, none_, .inl top⟩)
    · rw [if_neg top]
      exact iff_of_true rfl fun mistaken => mistaken.2.2.elim top beyond

theorem allocate (h : a.Holds s) (pages : UInt64) :
    (a.allocate pages).1 = (s.allocate pages).1 ∧ Holds (a.allocate pages).2 (s.allocate pages).2 := by
  rw [h.allocate_eq, Stack.allocate]
  split
  · exact ⟨rfl, h⟩
  · rename_i fits
    obtain ⟨some_, fits⟩ := not_or.mp fits
    have bound := h.small
    have next : UInt64.ofNat s.top = a.next := by rw [← h.next, UInt64.ofNat_toNat]
    have bytes : PageRange.bytes ⟨a.next, pages⟩ = pages.toNat * pageSize.toNat := rfl
    have end_ : (a.next + pages * pageSize).toNat = s.top + pages.toNat * pageSize.toNat := by
      rw [UInt64.toNat_add, UInt64.toNat_mul, Nat.add_mod_mod, h.next]
      exact Nat.mod_eq_of_lt (by unfold UInt64.size at bound; omega)
    rw [next]
    refine ⟨rfl, h.start, h.limit, ?_, h.whole, some_, h.next, ?_, h.piled⟩
    · show (a.next + pages * pageSize).toNat = s.start + (PageRange.bytes ⟨a.next, pages⟩ + totalBytes s.live)
      rw [end_, bytes, Stack.top]
      omega
    · show a.next.toNat + PageRange.bytes ⟨a.next, pages⟩ ≤ s.limit
      rw [h.next, bytes]
      omega

theorem release (h : a.Holds s) {range : PageRange} (first : s.live.head? = some range) :
    Holds { a with next := range.base } { s with live := s.live.tail } := by
  obtain ⟨start, limit, live⟩ := s
  cases live with
  | nil => cases first
  | cons latest live =>
    cases first
    obtain ⟨-, base, -, rest⟩ := h.piled
    exact ⟨h.start, h.limit, base, h.whole, rest⟩

/-- one call: the arena answers as its stack does, unless it is misled -/
theorem answer (h : a.Holds s) (query : Arena.Query)
    (clear : ∀ range, query = .release range → ¬ Misleads s.start s.live range) :
    (Arena.answer query a).1 = (Stack.answer query s).1 ∧
      Holds (Arena.answer query a).2 (Stack.answer query s).2 := by
  cases query with
  | allocate pages => exact h.allocate pages
  | release range =>
    have right := (h.release_eq_iff range).mpr (clear range rfl)
    rw [Arena.answer, Stack.answer, right, Stack.release]
    by_cases first : s.live.head? = some range
    · rw [if_pos first, if_pos first]
      exact ⟨rfl, h.release first⟩
    · rw [if_neg first, if_neg first]
      exact ⟨rfl, h⟩

end Arena.Holds

/-! ## Calls -/

open Interface.Answerer (history_concat)

namespace Stack

def empty (start limit : Nat) : Stack := ⟨start, limit, []⟩

theorem top_empty (start limit : Nat) : (empty start limit).top = start := rfl

theorem live_answer (query : Arena.Query) (s : Stack) :
    (Stack.answer query s).2 = { s with live := Arena.keep s.live ⟨query, (Stack.answer query s).1⟩ } := by
  obtain ⟨start, limit, live⟩ := s
  cases query with
  | allocate pages =>
    rw [answer, allocate]
    split
    · rfl
    · rfl
  | release range =>
    rw [answer, release]
    split
    · rename_i first
      cases live with
      | nil => cases first
      | cons latest live =>
        cases first
        exact congrArg (Stack.mk start limit) (List.erase_cons_head ..).symm
    · rfl

/-- what a stack holds can be told from its calls -/
theorem history_live (start limit : Nat) (queries : List Arena.Query) :
    (Stack.answer.history queries (empty start limit)).2 =
      ⟨start, limit, Arena.live (Stack.answer.history queries (empty start limit)).1⟩ := by
  induction queries using List.reverseRecOn with
  | nil => rfl
  | append_singleton queries query ih =>
    rw [history_concat, live_answer, Arena.live_concat, ih]

end Stack

namespace Arena

variable {start limit : Nat} {a : Arena} {queries : List Query}

/-- as long as it is not misled, an arena answers as its stack does -/
theorem in_step (made : a.Holds (.empty start limit))
    (clear : Releases (fun live range => ¬ Misleads start live range) (answer.history queries a).1) :
    (answer.history queries a).1 = (Stack.answer.history queries (.empty start limit)).1 ∧
      Holds (answer.history queries a).2 ⟨start, limit, live (answer.history queries a).1⟩ := by
  induction queries using List.reverseRecOn with
  | nil => exact ⟨rfl, made⟩
  | append_singleton queries query ih =>
    rw [history_concat] at clear
    obtain ⟨before, here⟩ := releases_concat.mp clear
    obtain ⟨same, holds⟩ := ih before
    obtain ⟨reply, after⟩ := holds.answer query here
    have stack := Stack.history_live start limit queries
    rw [← same] at stack
    rw [history_concat, history_concat, stack, ← same, ← reply]
    refine ⟨rfl, ?_⟩
    rw [Stack.live_answer, ← reply] at after
    rwa [live_concat]

/-- a range that is in use does not mislead the arena -/
theorem clear_of_live (made : a.Holds (.empty start limit))
    (lawful : Releases (fun live range => range ∈ live) (answer.history queries a).1) :
    Releases (fun live range => ¬ Misleads start live range) (answer.history queries a).1 := by
  induction queries using List.reverseRecOn with
  | nil => exact releases_nil _
  | append_singleton queries query ih =>
    rw [history_concat] at lawful ⊢
    obtain ⟨before, here⟩ := releases_concat.mp lawful
    have clear := ih before
    have holds := (in_step made clear).2
    exact releases_concat.mpr ⟨clear, fun range asked => holds.piled.not_misleads holds.small (here range asked)⟩

/-! ## A new arena -/

/-- the first page boundary from an address on -/
def roundUp (address : UInt64) : Nat :=
  (address.toNat + (pageSize.toNat - 1)) / pageSize.toNat * pageSize.toNat

theorem roundUp_mod (address : UInt64) : roundUp address % pageSize.toNat = 0 := Nat.mul_mod_left _ _

/-- there is an arena unless its start lies in the last page of all -/
theorem new?_isSome_iff (start limit : UInt64) :
    (new? start limit).isSome = true ↔ start.toNat + pageSize.toNat < UInt64.size := by
  rw [new?, Option.isSome_map, Word.add?]
  split
  · rename_i fits
    exact iff_of_true rfl fits
  · rename_i beyond
    exact iff_of_false Bool.false_ne_true beyond

theorem holds_of_new? {start limit : UInt64} (made : new? start limit = some a) :
    a.Holds (.empty (roundUp start) limit.toNat) := by
  obtain ⟨sum, sum_, same⟩ := Option.map_eq_some_iff.mp made
  have total := toNat_add? sum_
  have bound := sum.toNat_lt
  rw [toNat_pageSize] at total
  have one_le : (1 : UInt64) ≤ sum := by
    rw [UInt64.le_iff_toNat_le, total]
    show 1 ≤ start.toNat + 4096
    omega
  have first : ((sum - 1) / pageSize * pageSize).toNat = roundUp start := by
    rw [UInt64.toNat_mul, UInt64.toNat_div, UInt64.toNat_sub_of_le _ _ one_le, total, roundUp, toNat_pageSize]
    show (start.toNat + 4096 - 1) / 4096 * 4096 % 2 ^ 64 = _
    omega
  rw [← same]
  exact ⟨first, rfl, first.trans (Stack.top_empty ..).symm, roundUp_mod start, trivial⟩

/-! ## Order -/

/-- what an arena from `start` up to `limit` is like with these ranges in use, the latest first -/
structure Orderly (start limit : UInt64) (live : List PageRange) (a : Arena) : Prop where
  disjoint : live.Pairwise fun range range' => ∀ address, ¬ (range.Contains address ∧ range'.Contains address)
  aligned : ∀ range ∈ live, range.base.toNat % pageSize.toNat = 0
  inside : ∀ range ∈ live, roundUp start ≤ range.base.toNat ∧
    ∃ last, range.end? = some last ∧ range.base < last ∧ last ≤ limit
  used : ∃ bytes, a.used = .ok bytes ∧ bytes.toNat = pageSize.toNat * totalPages live
  /-- of the ranges in use the latest one is taken back and no other one -/
  release : ∀ range ∈ live, a.release range =
    .ok (if live.head? = some range then (true, { a with next := range.base }) else (false, a))
  /-- pages are refused if there are none of them, or not enough left -/
  allocate : ∀ pages, a.allocate pages =
    if pages = 0 ∨ limit.toNat < roundUp start + pageSize.toNat * (totalPages live + pages.toNat) then (none, a)
    else (some ⟨a.next, pages⟩, { a with next := a.next + pages * pageSize })

theorem orderly_of_holds {start limit : UInt64} {live : List PageRange}
    (h : a.Holds ⟨roundUp start, limit.toNat, live⟩) : Orderly start limit live a := by
  have top : Stack.top ⟨roundUp start, limit.toNat, live⟩ = roundUp start + pageSize.toNat * totalPages live :=
    congrArg _ (totalBytes_eq live)
  refine ⟨h.piled.disjoint, fun range mem => h.piled.aligned h.whole mem, fun range mem => ?_, ?_,
    fun range mem => (h.release_eq_iff range).mpr (h.piled.not_misleads h.small mem), fun pages => ?_⟩
  · obtain ⟨some_, above, fits, -⟩ := h.piled.bounds mem
    have more := PageRange.bytes_pos some_
    have small := limit.toNat_lt
    dsimp only at above fits
    refine ⟨above, UInt64.ofNat (range.base.toNat + range.bytes), ?_, ?_, ?_⟩
    · rw [PageRange.end?_eq_some_iff, UInt64.toNat_ofNat_of_lt' (Nat.lt_of_le_of_lt fits small)]
    · rw [UInt64.lt_iff_toNat_lt, UInt64.toNat_ofNat_of_lt' (Nat.lt_of_le_of_lt fits small)]
      omega
    · rw [UInt64.le_iff_toNat_le, UInt64.toNat_ofNat_of_lt' (Nat.lt_of_le_of_lt fits small)]
      exact fits
  · have le : a.start ≤ a.next := by
      rw [UInt64.le_iff_toNat_le, h.start, h.next]
      exact Nat.le_add_right _ _
    refine ⟨a.next - a.start, ?_, ?_⟩
    · rw [Arena.used, Word.sub?, if_pos le]
    · rw [UInt64.toNat_sub_of_le _ _ le, h.start, h.next, top]
      exact Nat.add_sub_cancel_left _ _
  · rw [h.allocate_eq, top, Nat.mul_add, Nat.add_assoc, Nat.mul_comm pages.toNat]

/-- whatever is allocated, and in whatever order ranges in use are given back, the ranges in use are those of a
stack, they lie apart on the pages between the start and the limit, and none but the latest of them is taken back -/
theorem hands_out_in_turn {start limit : UInt64} (made : new? start limit = some a) (queries : List Query)
    (lawful : Releases (fun live range => range ∈ live) (answer.history queries a).1) :
    Orderly start limit (live (answer.history queries a).1) (answer.history queries a).2 ∧
      (answer.history queries a).1 = (Stack.answer.history queries (.empty (roundUp start) limit.toNat)).1 ∧
      live (answer.history queries a).1 =
        (Stack.answer.history queries (.empty (roundUp start) limit.toNat)).2.live := by
  have new_ := holds_of_new? made
  obtain ⟨same, holds⟩ := in_step new_ (clear_of_live new_ lawful)
  refine ⟨orderly_of_holds holds, same, ?_⟩
  rw [Stack.history_live, ← same]

/-- two ranges are allocated from an address inside a page on; the first is offered too early, then both are
given back -/
theorem hands_out_in_turn_offered_early :
    new? 0x1001 0x10000 = some ⟨0x2000, 0x10000, 0x2000⟩ ∧
    Releases (fun live range => range ∈ live) (answer.history [.allocate 2, .allocate 3, .release ⟨0x2000, 2⟩,
      .release ⟨0x4000, 3⟩, .release ⟨0x2000, 2⟩] ⟨0x2000, 0x10000, 0x2000⟩).1 ∧
    Orderly 0x1001 0x10000 [] ⟨0x2000, 0x10000, 0x2000⟩ := by
  have made : new? 0x1001 0x10000 = some ⟨0x2000, 0x10000, 0x2000⟩ := by decide
  have lawful : Releases (fun live range => range ∈ live) (answer.history [.allocate 2, .allocate 3,
      .release ⟨0x2000, 2⟩, .release ⟨0x4000, 3⟩, .release ⟨0x2000, 2⟩] ⟨0x2000, 0x10000, 0x2000⟩).1 := by
    have calls : (answer.history [.allocate 2, .allocate 3, .release ⟨0x2000, 2⟩, .release ⟨0x4000, 3⟩,
        .release ⟨0x2000, 2⟩] ⟨0x2000, 0x10000, 0x2000⟩).1 = [] ++ [⟨.allocate 2, some ⟨0x2000, 2⟩⟩] ++
          [⟨.allocate 3, some ⟨0x4000, 3⟩⟩] ++ [⟨.release ⟨0x2000, 2⟩, .ok false⟩] ++
          [⟨.release ⟨0x4000, 3⟩, .ok true⟩] ++ [⟨.release ⟨0x2000, 2⟩, .ok true⟩] := rfl
    simp only [calls, releases_concat]
    refine ⟨⟨⟨⟨⟨releases_nil _, ?_⟩, ?_⟩, ?_⟩, ?_⟩, ?_⟩ <;> intro range asked <;> cases asked <;> decide
  exact ⟨made, lawful, (hands_out_in_turn made _ lawful).1⟩

end Arena

end FlashRescue
