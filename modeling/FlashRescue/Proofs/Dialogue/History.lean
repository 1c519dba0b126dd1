import FlashRescue.Proofs.Dialogue.Transcript

/-!
# Queries one after the other

What is asked of a state by somebody who is no dialogue: any queries in any order, with their replies.

* `Interface.Answerer.history`  the exchanges and the state after them;
* `history_concat`              one query more.
-/

namespace FlashRescue.Interface.Answerer

variable {I : Interface} {σ : Type} (answer : I.Answerer σ)

def history : List I.Query → σ → List I.Exchange × σ
  | [], s => ([], s)
  | query :: queries, s =>
    let (reply, s') := answer query s
    let (calls, s'') := history queries s'
    (⟨query, reply⟩ :: calls, s'')

theorem history_cons (query : I.Query) (queries : List I.Query) (s : σ) :
    history answer (query :: queries) s =
      (⟨query, (answer query s).1⟩ :: (history answer queries (answer query s).2).1,
        (history answer queries (answer query s).2).2) := rfl

theorem history_concat (queries : List I.Query) (query : I.Query) (s : σ) :
    history answer (queries ++ [query]) s =
      ((history answer queries s).1 ++ [⟨query, (answer query (history answer queries s).2).1⟩],
        (answer query (history answer queries s).2).2) := by
  induction queries generalizing s with
  | nil => rfl
  | cons first queries ih =>
    rw [List.cons_append, history_cons, ih, history_cons]
    rfl

end FlashRescue.Interface.Answerer
