import FlashRescue.Link.Duplex

/-!
# Bytes on their way

However writes wait in the channel and are received, each end reads the bytes that were written at the other
in their order.

* `Duplex.unread`      the bytes on their way to an end;
* `read_enough`, `read_short`  a read takes the first of them, if there are enough, and else none;
* `write_present`      a write adds its bytes at the end;
* `poll_eq`            a poll tells whether there are any, and takes none.
-/

namespace FlashRescue

theorem Side.eq_or_across (side side' : Side) : side' = side ∨ side' = side.across := by
  cases side <;> cases side' <;> decide

theorem Side.across_across (side : Side) : side.across.across = side := by
  cases side <;> rfl

namespace Endpoint

/-- the bytes on their way to an end, the first of them perhaps received -/
def unread (e : Endpoint) : List UInt8 := e.pending ++ e.incoming.flatten

theorem gather_eq (n : Nat) (pending : List UInt8) (incoming : List (List UInt8)) :
    (gather n pending incoming).1 ++ (gather n pending incoming).2.flatten = pending ++ incoming.flatten := by
  induction incoming generalizing pending with
  | nil => rfl
  | cons chunk incoming ih =>
    rw [gather]
    split
    · rw [ih, List.flatten_cons, List.append_assoc]
    · rfl

/-- writes are received until there are bytes enough, or else all of them are -/
theorem gather_enough (n : Nat) (pending : List UInt8) (incoming : List (List UInt8)) :
    n ≤ (gather n pending incoming).1.length ∨ (gather n pending incoming).2 = [] := by
  induction incoming generalizing pending with
  | nil => exact .inr rfl
  | cons chunk incoming ih =>
    rw [gather]
    split
    · exact ih _
    · rename_i enough
      exact .inl (Nat.le_of_not_lt enough)

theorem unread_fill (n : Nat) (e : Endpoint) : (e.fill n).unread = e.unread :=
  gather_eq n e.pending e.incoming

/-- what was received of the next bytes is all there is of them -/
theorem take_fill (n : Nat) (e : Endpoint) : (e.fill n).pending.take n = e.unread.take n := by
  rw [← unread_fill n e, unread]
  rcases gather_enough n e.pending e.incoming with enough | all
  · exact (List.take_append_of_le_length enough).symm
  · have none_ : (e.fill n).incoming = [] := all
    rw [none_, List.flatten_nil, List.append_nil]

theorem drop_fill (n : Nat) (e : Endpoint) :
    (e.fill n).pending.drop n ++ (e.fill n).incoming.flatten = e.unread.drop n := by
  rw [← unread_fill n e, unread]
  rcases gather_enough n e.pending e.incoming with enough | all
  · exact (List.drop_append_of_le_length enough).symm
  · have none_ : (e.fill n).incoming = [] := all
    rw [none_, List.flatten_nil, List.append_nil, List.append_nil]

theorem unread_drain (e : Endpoint) : e.drain.unread = e.unread :=
  List.append_nil _

end Endpoint

namespace Duplex

variable {d : Duplex} {side : Side} {n : Nat}

def unread (d : Duplex) (side : Side) : List UInt8 := (d.endpoint side).unread

theorem endpoint_setEndpoint (d : Duplex) (e : Endpoint) (side : Side) :
    (d.setEndpoint e side).endpoint side = e := by
  cases side <;> rfl

theorem endpoint_setEndpoint_across (d : Duplex) (e : Endpoint) (side : Side) :
    (d.setEndpoint e side).endpoint side.across = d.endpoint side.across := by
  cases side <;> rfl

/-- nothing is changed but what is on its way to one end -/
structure Keeps (side : Side) (d d' : Duplex) : Prop where
  across : d'.endpoint side.across = d.endpoint side.across
  present : (d'.endpoint side).present = (d.endpoint side).present

theorem keeps_setEndpoint {e : Endpoint} (present : e.present = (d.endpoint side).present) :
    Keeps side d (d.setEndpoint e side) :=
  ⟨endpoint_setEndpoint_across d e side, by rw [endpoint_setEndpoint, present]⟩

theorem read_enough (h : n ≤ (d.unread side).length) :
    ∃ bytes d', read side n d = (.ok bytes, d') ∧ bytes.toList = (d.unread side).take n ∧
      d'.unread side = (d.unread side).drop n ∧ Keeps side d d' := by
  have front : ((d.endpoint side).fill n).pending.take n = (d.unread side).take n :=
    (d.endpoint side).take_fill n
  have enough : (((d.endpoint side).fill n).pending.take n).length = n := by
    rw [front, List.length_take_of_le h]
  refine ⟨_, _, dif_pos enough, front, ?_, keeps_setEndpoint rfl⟩
  rw [unread, endpoint_setEndpoint]
  exact (d.endpoint side).drop_fill n

theorem read_short (h : (d.unread side).length < n) :
    ∃ d', read side n d =
        (.error (if (d.endpoint side.across).present then .timedOut else .closed), d') ∧
      d'.unread side = d.unread side ∧ Keeps side d d' := by
  have front : ((d.endpoint side).fill n).pending.take n = (d.unread side).take n :=
    (d.endpoint side).take_fill n
  have short : ¬ (((d.endpoint side).fill n).pending.take n).length = n := by
    rw [front, List.length_take]
    omega
  refine ⟨_, dif_neg short, ?_, keeps_setEndpoint rfl⟩
  rw [unread, endpoint_setEndpoint]
  exact (d.endpoint side).unread_fill n

theorem write_present (h : (d.endpoint side.across).present = true) (bytes : List UInt8) :
    ∃ d', write side bytes d = (.ok (), d') ∧ d'.unread side.across = d.unread side.across ++ bytes ∧
      Keeps side.across d d' := by
  refine ⟨_, if_pos h, ?_, keeps_setEndpoint rfl⟩
  rw [unread, endpoint_setEndpoint, unread, Endpoint.unread, Endpoint.unread, List.flatten_append,
    List.flatten_singleton, List.append_assoc]

theorem poll_eq (d : Duplex) (side : Side) : ∃ d', poll side d = (!(d.unread side).isEmpty, d') ∧
    d'.unread side = d.unread side ∧ Keeps side d d' := by
  refine ⟨_, rfl, ?_, keeps_setEndpoint rfl⟩
  rw [unread, endpoint_setEndpoint]
  exact (d.endpoint side).unread_drain

end Duplex

end FlashRescue
