import FlashRescue.Proofs.Dialogue.Transcript

/-!
# One item after the other

A dialogue that takes up the items of a list in turn stops at the first that stops it.

* `Dialogue.Walk`    the ways in which items can be taken up in turn; `recorded_walk`: there are no others;
* `Walk.of_error`    an item that stops is the last that was taken up.
-/

namespace FlashRescue.Dialogue

variable {I : Interface} {ε ι σ : Type} {answer : I.Answerer σ} {s s' : σ} {calls : List I.Exchange}
  {ended : Except (Stop ε) Unit}

section
variable (way : ι → List I.Exchange → Except (Stop ε) Unit → Prop)

/-- the ways in which items can be taken up in turn, each of them in a way of its own: all of them, or up to the one
that stops -/
inductive Walk : List ι → List I.Exchange → Except (Stop ε) Unit → Prop
  | done : Walk [] [] (.ok ())
  /-- nothing is asked for the items that are left -/
  | stopped {item : ι} {items : List ι} {calls : List I.Exchange} {why : Stop ε}
      (went : way item calls (.error why)) : Walk (item :: items) calls (.error why)
  | goes {item : ι} {items : List ι} {calls rest : List I.Exchange} {ended : Except (Stop ε) Unit}
      (went : way item calls (.ok ())) (more : Walk items rest ended) :
      Walk (item :: items) (calls ++ rest) ended

end

variable {way : ι → List I.Exchange → Except (Stop ε) Unit → Prop} {items : List ι} {step : ι → Dialogue I ε Unit}

theorem recorded_walk
    (ways : ∀ item ∈ items, ∀ s s' calls ended, Recorded answer (step item) s calls ended s' → way item calls ended)
    (h : Recorded answer (items.forM step) s calls ended s') : Walk way items calls ended := by
  induction items generalizing s calls with
  | nil =>
    obtain ⟨rfl, rfl, -⟩ := h.unique (recorded_done PUnit.unit s)
    exact .done
  | cons item items ih =>
    obtain ⟨first, later⟩ := List.forall_mem_cons.mp ways
    have taken : Recorded answer (step item >>= fun _ => items.forM step) s calls ended s' := h
    rcases taken.of_bind with ⟨why, rfl, stopped⟩ | ⟨here, _, s₁, rest, rfl, went, going⟩
    · apply Walk.stopped
      exact first s s' calls _ stopped
    · apply Walk.goes
      · exact first s s₁ here _ went
      · exact ih later going

/-- the item that stops is the last that is taken up -/
theorem Walk.of_error {why : Stop ε} (h : Walk way items calls (.error why)) :
    ∃ before item after earlier last, items = before ++ item :: after ∧ calls = earlier ++ last ∧
      Walk way before earlier (.ok ()) ∧ way item last (.error why) := by
  generalize same : (Except.error why : Except (Stop ε) Unit) = ended at h
  induction h with
  | done => cases same
  | @stopped item items calls why' went =>
    cases same
    exact ⟨[], item, items, [], calls, rfl, rfl, .done, went⟩
  | @goes item items calls rest ended went more ih =>
    obtain ⟨before, last, after, earlier, final, rfl, rfl, walked, stopped⟩ := ih same
    refine ⟨item :: before, last, after, calls ++ earlier, final, rfl, ?_, .goes went walked, stopped⟩
    rw [List.append_assoc]

end FlashRescue.Dialogue
