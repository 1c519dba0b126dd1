import FlashRescue.Proofs.Link.Duplex
import FlashRescue.Proofs.Link.Items

/-!
# Values sent over two connected ends

Values follow each other on a link without any framing.  A reader that knows their forms gets them all, however
the bytes are cut into writes and whenever it reads or polls.

* `Link.Step`       what may be done at the two ends, one sending and one receiving;
* `Link.play`       a number of steps;
* `Link.Carried`    what was received is the front of what was sent; `Carried.take` for a step, `Carried.play`;
* `Carried.play_late`  once all is written, each read gets the next value;
* `round_trip`      all that was sent is received, and all byte strings can be sent.
-/

namespace FlashRescue.Link

open Duplex

/-! ## Steps -/

/-- a step at one of two ends, of which one sends and the other receives -/
inductive Step where
  /-- the sender sends a value -/
  | send (item : Item)
  /-- the sender writes bytes, perhaps none -/
  | write (bytes : List UInt8)
  | poll (side : Side)
  /-- the receiver reads the next value, if there are bytes enough -/
  | receive
  deriving DecidableEq, Repr

/-- two ends, the forms of the values that are still to be received, and the values that were -/
structure Stream where
  ends : Duplex
  awaited : List Form
  received : List Item := []
  deriving DecidableEq, Repr

namespace Step

/-- the bytes that a step writes -/
def written : Step → List UInt8
  | send item => item.encode
  | write bytes => bytes
  | poll _ | receive => []

/-- takes a step; a read that waits in vain is made again later -/
def take (sender : Side) (s : Stream) : Step → Except LinkError Stream
  | send item =>
    let (reply, ends) := (item.send : AtEnd _) sender s.ends
    reply.map fun _ => { s with ends }
  | write bytes =>
    let (reply, ends) := (Link.write bytes : AtEnd _) sender s.ends
    reply.map fun _ => { s with ends }
  | poll side =>
    let (_, ends) := (Link.poll : AtEnd _) side s.ends
    .ok { s with ends }
  | receive =>
    match s.awaited with
    | [] => .ok s
    | form :: awaited =>
      match (form.receive : AtEnd _) sender.across s.ends with
      | (.ok item, ends) => .ok { ends, awaited, received := s.received ++ [item] }
      | (.error e, ends) => if e.isTimeout then .ok { s with ends } else .error e

end Step

def written (steps : List Step) : List UInt8 := steps.flatMap Step.written

def play (sender : Side) (steps : List Step) (s : Stream) : Except LinkError Stream :=
  steps.foldlM (Step.take sender) s

variable {sender receiver : Side} {s s' s₁ : Stream} {d : Duplex} {forms : List Form} {bytes : List UInt8}

theorem play_cons {step : Step} {steps : List Step} (taken : step.take sender s = .ok s₁)
    (played : play sender steps s₁ = .ok s') : play sender (step :: steps) s = .ok s' := by
  rw [play, List.foldlM_cons, taken]
  exact played

theorem play_append {early late : List Step} (played : play sender early s = .ok s₁)
    (finished : play sender late s₁ = .ok s') : play sender (early ++ late) s = .ok s' := by
  unfold play at played
  rw [play, List.foldlM_append, played]
  exact finished

/-! ## What is carried -/

/-- both ends are there, and what was received and is still unread is what was written -/
structure Carried (receiver : Side) (forms : List Form) (bytes : List UInt8) (s : Stream) : Prop where
  present : ∀ side, (s.ends.endpoint side).present = true
  forms_eq : s.received.map Item.form ++ s.awaited = forms
  bytes_eq : s.received.flatMap Item.encode ++ s.ends.unread receiver = bytes
  fits : ∀ item ∈ s.received, item.Fits

theorem present_of_keeps {side : Side} {d d' : Duplex} (keeps : Keeps side d d')
    (h : ∀ side, (d.endpoint side).present = true) (side' : Side) : (d'.endpoint side').present = true := by
  rcases Side.eq_or_across side side' with rfl | rfl
  · rw [keeps.present, h]
  · rw [keeps.across, h]

namespace Carried

theorem take_write (h : Carried sender.across forms bytes s) (more : List UInt8) :
    ∃ s', (Step.write more).take sender s = .ok s' ∧ Carried sender.across forms (bytes ++ more) s' ∧
      s'.awaited = s.awaited := by
  obtain ⟨ends, wrote, unread, keeps⟩ := write_present (h.present sender.across) more
  have taken : (Step.write more).take sender s = .ok { s with ends } := by
    show ((Duplex.write sender more s.ends).1.map fun _ =>
      { s with ends := (Duplex.write sender more s.ends).2 }) = _
    rw [wrote]
    rfl
  refine ⟨_, taken, ⟨present_of_keeps keeps h.present, h.forms_eq, ?_, h.fits⟩, rfl⟩
  rw [unread, ← List.append_assoc, h.bytes_eq]

theorem take_poll (h : Carried sender.across forms bytes s) (side : Side) :
    ∃ s', (Step.poll side).take sender s = .ok s' ∧ Carried sender.across forms bytes s' ∧
      s'.awaited = s.awaited := by
  obtain ⟨ends, polled, unread, keeps⟩ := poll_eq s.ends side
  have taken : (Step.poll side).take sender s = .ok { s with ends } := by
    show Except.ok { s with ends := (Duplex.poll side s.ends).2 } = _
    rw [polled]
  have same : ends.unread sender.across = s.ends.unread sender.across := by
    rcases Side.eq_or_across side sender.across with there | there
    · rw [there, unread]
    · rw [there, Duplex.unread, keeps.across]
      rfl
  refine ⟨_, taken, ⟨present_of_keeps keeps h.present, h.forms_eq, ?_, h.fits⟩, rfl⟩
  rw [same, h.bytes_eq]

theorem receive_at (form : Form) (side : Side) (d : Duplex) : (form.receive : AtEnd _) side d =
    ((Duplex.read side form.width d).1.map form.decode, (Duplex.read side form.width d).2) := by
  rw [Form.receive_eq]
  rfl

/-- there are bytes enough for the next value -/
def Due (receiver : Side) (s : Stream) : Prop :=
  ∀ form ∈ s.awaited.head?, form.width ≤ (s.ends.unread receiver).length

theorem take_receive (h : Carried sender.across forms bytes s) :
    ∃ s', Step.receive.take sender s = .ok s' ∧ Carried sender.across forms bytes s' ∧
      (Due sender.across s → s'.awaited = s.awaited.tail) := by
  obtain ⟨ends, awaited, received⟩ := s
  cases awaited with
  | nil => exact ⟨_, rfl, h, fun _ => rfl⟩
  | cons form awaited =>
    have taken : Step.receive.take sender ⟨ends, form :: awaited, received⟩ =
        match ((Duplex.read sender.across form.width ends).1.map form.decode,
          (Duplex.read sender.across form.width ends).2) with
        | (.ok item, ends) => .ok { ends, awaited, received := received ++ [item] }
        | (.error e, ends) =>
          if e.isTimeout then .ok { ends, awaited := form :: awaited, received } else .error e := by
      rw [← receive_at]
      rfl
    by_cases enough : form.width ≤ (ends.unread sender.across).length
    · obtain ⟨front, ends', read, same, unread, keeps⟩ := read_enough enough
      rw [read] at taken
      refine ⟨_, taken, ⟨present_of_keeps keeps h.present, ?_, ?_, ?_⟩, fun _ => rfl⟩
      · rw [← h.forms_eq, List.map_append, List.map_singleton, form.form_decode, List.append_assoc]
        rfl
      · rw [← h.bytes_eq, List.flatMap_append, List.flatMap_singleton, form.encode_decode, unread, same,
          List.append_assoc, List.take_append_drop]
      · exact List.forall_mem_append.mpr ⟨h.fits, List.forall_mem_singleton.mpr (form.fits_decode front)⟩
    · obtain ⟨ends', read, unread, keeps⟩ := read_short (Nat.lt_of_not_le enough)
      have there : (ends.endpoint sender.across.across).present = true := h.present _
      rw [read, there] at taken
      refine ⟨_, taken, ⟨present_of_keeps keeps h.present, h.forms_eq, ?_, h.fits⟩, fun due => ?_⟩
      · rw [unread]
        exact h.bytes_eq
      · exact absurd (due form rfl) enough

/-- whatever is done, nothing is lost, and the next value is received once its bytes are there -/
theorem take (h : Carried sender.across forms bytes s) (step : Step) :
    ∃ s', step.take sender s = .ok s' ∧ Carried sender.across forms (bytes ++ step.written) s' ∧
      (step ≠ .receive → s'.awaited = s.awaited) ∧
      (step = .receive → Due sender.across s → s'.awaited = s.awaited.tail) := by
  cases step with
  | send item =>
    obtain ⟨s', taken, carried, same⟩ := h.take_write item.encode
    refine ⟨s', ?_, carried, fun _ => same, nofun⟩
    rw [← taken, Step.take, Item.send_eq]
    rfl
  | write more =>
    obtain ⟨s', taken, carried, same⟩ := h.take_write more
    exact ⟨s', taken, carried, fun _ => same, nofun⟩
  | poll side =>
    obtain ⟨s', taken, carried, same⟩ := h.take_poll side
    exact ⟨s', taken, by rwa [Step.written, List.append_nil], fun _ => same, nofun⟩
  | receive =>
    obtain ⟨s', taken, carried, next⟩ := h.take_receive
    exact ⟨s', taken, by rwa [Step.written, List.append_nil], nofun, fun _ => next⟩

theorem play (h : Carried sender.across forms bytes s) (steps : List Step) :
    ∃ s', play sender steps s = .ok s' ∧ Carried sender.across forms (bytes ++ written steps) s' := by
  induction steps generalizing s bytes with
  | nil => exact ⟨s, rfl, by rwa [written, List.flatMap_nil, List.append_nil]⟩
  | cons step steps ih =>
    obtain ⟨s₁, taken, carried, -⟩ := h.take step
    obtain ⟨s', played, carried'⟩ := ih carried
    refine ⟨s', play_cons taken played, ?_⟩
    rw [written, List.flatMap_cons, ← List.append_assoc]
    exact carried'

/-! ## What is received -/

/-- with all bytes written, those of the awaited values are unread -/
theorem unread_length (h : Carried receiver forms bytes s) (full : bytes.length = (forms.map Form.width).sum) :
    (s.ends.unread receiver).length = (s.awaited.map Form.width).sum := by
  have total : (s.received.flatMap Item.encode).length + (s.ends.unread receiver).length =
      (forms.map Form.width).sum := by
    rw [← List.length_append, h.bytes_eq, full]
  rw [← h.forms_eq, List.map_append, List.sum_append, ← Item.length_flatMap_encode] at total
  exact Nat.add_left_cancel total

theorem due (h : Carried receiver forms bytes s) (full : bytes.length = (forms.map Form.width).sum) :
    Due receiver s := by
  intro form next
  obtain ⟨awaited, there⟩ := List.head?_eq_some_iff.mp next
  rw [h.unread_length full, there, List.map_cons, List.sum_cons]
  exact Nat.le_add_right _ _

/-- once all bytes are written, each read gets the next value -/
theorem play_late (h : Carried sender.across forms bytes s) (full : bytes.length = (forms.map Form.width).sum)
    {late : List Step} (still : written late = []) :
    ∃ s', Link.play sender late s = .ok s' ∧ Carried sender.across forms bytes s' ∧
      s'.awaited = s.awaited.drop (late.count .receive) := by
  induction late generalizing s with
  | nil => exact ⟨s, rfl, h, rfl⟩
  | cons step late ih =>
    obtain ⟨silent, still⟩ := List.append_eq_nil_iff.mp still
    obtain ⟨s₁, taken, carried, other, next⟩ := h.take step
    rw [silent, List.append_nil] at carried
    obtain ⟨s', played, carried', awaited⟩ := ih carried still
    refine ⟨s', play_cons taken played, carried', ?_⟩
    by_cases receives : step = .receive
    · rw [awaited, next receives (h.due full), receives, List.count_cons_self, List.drop_tail]
    · rw [awaited, other receives, List.count_cons_of_ne receives]

end Carried

/-! ## Round trip -/

/-- both ends are there, and nothing is on its way to one of them -/
structure Fresh (receiver : Side) (d : Duplex) : Prop where
  present : ∀ side, (d.endpoint side).present = true
  idle : d.unread receiver = []

theorem Fresh.carried {receiver : Side} {d : Duplex} (h : Fresh receiver d) (forms : List Form) :
    Carried receiver forms [] ⟨d, forms, []⟩ :=
  ⟨h.present, rfl, h.idle, nofun⟩

theorem written_send (items : List Item) : written (items.map .send) = items.flatMap Item.encode := by
  rw [written, List.flatMap_map]
  rfl

/-- values are read from any bytes of the right number, and they stand for just these bytes -/
theorem play_all (fresh : Fresh sender.across d) {early late : List Step} (still : written late = [])
    (enough : forms.length ≤ late.count .receive)
    (full : (written early).length = (forms.map Form.width).sum) :
    ∃ items ends, play sender (early ++ late) ⟨d, forms, []⟩ = .ok ⟨ends, [], items⟩ ∧
      ends.unread sender.across = [] ∧ items.map Item.form = forms ∧ (∀ i ∈ items, i.Fits) ∧
      items.flatMap Item.encode = written early := by
  obtain ⟨s, played, carried⟩ := (fresh.carried forms).play early
  obtain ⟨⟨ends, awaited, items⟩, finished, carried', rest⟩ := carried.play_late full still
  have few : s.awaited.length ≤ forms.length := by
    rw [← carried.forms_eq, List.length_append]
    exact Nat.le_add_left _ _
  obtain rfl : awaited = [] := rest.trans (List.drop_eq_nil_of_le (Nat.le_trans few enough))
  have all : items.map Item.form = forms := (List.append_nil _).symm.trans carried'.forms_eq
  have nothing : (ends.unread sender.across).length = 0 := carried'.unread_length full
  have idle : ends.unread sender.across = [] := List.length_eq_zero_iff.mp nothing
  have bytes : items.flatMap Item.encode = written early := by
    have bytes := carried'.bytes_eq
    rwa [idle, List.append_nil, List.nil_append] at bytes
  exact ⟨items, ends, play_append played finished, idle, all, carried'.fits, bytes⟩

/-- any list of values is received as it was sent, with nothing left unread, however its bytes are written and
whenever there are reads and polls; and any bytes are read as values which, when sent, are the same bytes -/
theorem round_trip (sender : Side) {d : Duplex} (fresh : Fresh sender.across d) (early late : List Step)
    (still : written late = []) (forms : List Form) (enough : forms.length ≤ late.count .receive) :
    (∀ items : List Item, (∀ i ∈ items, i.Fits) → items.map Item.form = forms →
      written early = items.flatMap Item.encode →
      ∃ ends, play sender (early ++ late) ⟨d, forms, []⟩ = .ok ⟨ends, [], items⟩ ∧
        ends.unread sender.across = []) ∧
    ((written early).length = (forms.map Form.width).sum →
      ∃ items ends, play sender (early ++ late) ⟨d, forms, []⟩ = .ok ⟨ends, [], items⟩ ∧
        ends.unread sender.across = [] ∧ items.map Item.form = forms ∧
        ∀ d', Fresh sender.across d' →
          ∃ ends', play sender (items.map .send) ⟨d', [], []⟩ = .ok ⟨ends', [], []⟩ ∧
            ends'.unread sender.across = written early) := by
  refine ⟨fun items fits all bytes => ?_, fun full => ?_⟩
  · have full : (written early).length = (forms.map Form.width).sum := by
      rw [bytes, Item.length_flatMap_encode, all]
    obtain ⟨items', ends, played, idle, all', fits', bytes'⟩ := play_all fresh still enough full
    obtain rfl : items' = items :=
      Item.eq_of_flatMap_encode fits' fits (all'.trans all.symm) (bytes'.trans bytes)
    exact ⟨ends, played, idle⟩
  · obtain ⟨items, ends, played, idle, all, -, bytes⟩ := play_all fresh still enough full
    refine ⟨items, ends, played, idle, all, fun d' fresh' => ?_⟩
    obtain ⟨⟨ends', awaited, received⟩, sent, carried⟩ := (fresh'.carried []).play (items.map .send)
    obtain ⟨none_, rfl⟩ := List.append_eq_nil_iff.mp carried.forms_eq
    obtain rfl : received = [] := List.map_eq_nil_iff.mp none_
    refine ⟨ends', sent, ?_⟩
    rw [← bytes, ← written_send]
    exact carried.bytes_eq

/-- values of every kind, an unknown opcode and a size other than zero among them; a packet and a payload are
cut in two, there are empty writes, and reads and polls come before the bytes are there -/
theorem round_trip_split :
    let items : List Item :=
      [.command ⟨0x77, 0xabcd⟩, .response ⟨1, 0x0102⟩, .checksum 0xdeadbeef, .raw [1, 2, 3], .raw [],
        .number .big 2 0x1234, .number .little 4 0x89abcdef]
    let early : List Step :=
      [.receive, .write [0x77], .receive, .poll .right, .write [], .write [0xcd, 0xab], .poll .left,
        .send (.response ⟨1, 0x0102⟩), .receive, .send (.checksum 0xdeadbeef), .write [1], .write [2, 3, 0x12],
        .poll .right, .write [0x34, 0xef, 0xcd, 0xab], .write [0x89]]
    let late : List Step :=
      [.receive, .poll .right, .receive, .write [], .receive, .receive, .receive, .receive, .receive]
    (∃ ends, play .left (early ++ late) ⟨{}, items.map Item.form, []⟩ = .ok ⟨ends, [], items⟩ ∧
      ends.unread .right = []) ∧
    ∃ items' ends, play .left (early ++ late) ⟨{}, items.map Item.form, []⟩ = .ok ⟨ends, [], items'⟩ ∧
      ends.unread .right = [] ∧ items'.map Item.form = items.map Item.form ∧
      ∀ d', Fresh .right d' →
        ∃ ends', play .left (items'.map .send) ⟨d', [], []⟩ = .ok ⟨ends', [], []⟩ ∧
          ends'.unread .right = written early := by
  intro items early late
  have fresh : Fresh Side.left.across {} := ⟨fun side => by cases side <;> rfl, rfl⟩
  have trip := round_trip .left fresh early late (by decide) (items.map Item.form) (by decide)
  exact ⟨trip.1 items (by decide +kernel) rfl (by decide +kernel), trip.2 (by decide +kernel)⟩

end FlashRescue.Link
