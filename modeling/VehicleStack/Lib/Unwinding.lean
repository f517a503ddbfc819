import VehicleStack.Lib.Mealy

/-!
# Leaving inputs out of a run

When do two parties that feed one machine disturb each other? Not if the inputs of one
can be left out of every run and the other still gets the same answers. This file says
how that is shown, of a machine `step : σ → ι → σ × ο` and of no particular one.

* `VehicleStack.Unwinding.seen` – the answers to the inputs of a party;
* `VehicleStack.Unwinding.Always` – a condition on every step of a run. It may speak of
  notes taken along the run, for what matters of the past is not always in the state;
* `VehicleStack.Unwinding` – a relation between the states of the run and of the run
  without the other's inputs. It is kept as long as the condition holds; and the step
  that breaks the condition is a step whose answer differs.

Together they say exactly which runs are not disturbed
(`VehicleStack.Unwinding.seen_filter_iff`).
-/

namespace VehicleStack

namespace Unwinding

variable {σ ι ο γ : Type*}

/-- The answers to the inputs that count, along a run. -/
def seen (step : σ → ι → σ × ο) (shown : ι → Prop) [DecidablePred shown] : σ → List ι → List ο
  | _, [] => []
  | s, i :: is =>
    if shown i then (step s i).2 :: seen step shown (step s i).1 is
    else seen step shown (step s i).1 is

/-- A condition on every step of a run: on the notes taken so far, the state and the
input. -/
def Always (step : σ → ι → σ × ο) (note : γ → σ → ι → γ) (ok : γ → σ → ι → Prop) :
    γ → σ → List ι → Prop
  | _, _, [] => True
  | g, s, i :: is => ok g s i ∧ Always step note ok (note g s i) (step s i).1 is

/-- The notes taken along a run. -/
def notes (step : σ → ι → σ × ο) (note : γ → σ → ι → γ) : γ → σ → List ι → γ
  | g, _, [] => g
  | g, s, i :: is => notes step note (note g s i) (step s i).1 is

end Unwinding

/-- The relation `R` between the states of a run and of the run without the inputs that
are `gone`: every step that meets the condition keeps it and is answered alike, and a step
that does not is one whose answer differs. -/
structure Unwinding {σ ι ο γ : Type*} (step : σ → ι → σ × ο) (gone shown : ι → Prop)
    (note : γ → σ → ι → γ) (ok : γ → σ → ι → Prop) (R : γ → σ → σ → Prop) : Prop where
  not_gone : ∀ {i}, shown i → ¬ gone i
  skip : ∀ {g s t i}, R g s t → gone i → R (note g s i) (step s i).1 t
  keep : ∀ {g s t i}, R g s t → ¬ gone i → ok g s i → R (note g s i) (step s i).1 (step t i).1
  same : ∀ {g s t i}, R g s t → shown i → ok g s i → (step s i).2 = (step t i).2
  differs : ∀ {g s t i}, R g s t → ¬ ok g s i → shown i ∧ (step s i).2 ≠ (step t i).2

namespace Unwinding

variable {σ ι ο γ : Type*} {step : σ → ι → σ × ο} {gone shown : ι → Prop} [DecidablePred gone]
  {note : γ → σ → ι → γ} {ok : γ → σ → ι → Prop} {R : γ → σ → σ → Prop}

/-- **A run whose steps all meet the condition** ends as the run without the others'
inputs does, up to the relation. -/
theorem final_filter (h : Unwinding step gone shown note ok R) {g : γ} {s t : σ} {is : List ι}
    (hR : R g s t) (hok : Always step note ok g s is) :
    R (notes step note g s is) (Mealy.final step s is)
      (Mealy.final step t (is.filter fun i => ¬ gone i)) := by
  induction is generalizing g s t with
  | nil => exact hR
  | cons i is ih =>
    by_cases hi : gone i
    · rw [List.filter_cons_of_neg (by simpa using hi)]
      exact ih (h.skip hR hi) hok.2
    · rw [List.filter_cons_of_pos (by simpa using hi)]
      exact ih (h.keep hR hi hok.1) hok.2

/-- **Which runs are not disturbed**: those whose steps all meet the condition. -/
theorem seen_filter_iff [DecidablePred shown] (h : Unwinding step gone shown note ok R) {g : γ}
    {s t : σ} {is : List ι} (hR : R g s t) :
    seen step shown s is = seen step shown t (is.filter fun i => ¬ gone i) ↔
      Always step note ok g s is := by
  induction is generalizing g s t with
  | nil => exact iff_of_true rfl trivial
  | cons i is ih =>
    by_cases hi : gone i
    · -- what is left out is answered to the other party, and meets the condition
      have hshown : ¬ shown i := fun hshown => h.not_gone hshown hi
      have hok : ok g s i := by
        by_contra hbad
        exact hshown (h.differs hR hbad).1
      rw [List.filter_cons_of_neg (by simpa using hi), seen, if_neg hshown, ih (h.skip hR hi)]
      exact ⟨fun hrest => ⟨hok, hrest⟩, fun hall => hall.2⟩
    · rw [List.filter_cons_of_pos (by simpa using hi), seen, seen]
      by_cases hok : ok g s i
      · have hrest := ih (h.keep hR hi hok)
        by_cases hshown : shown i
        · rw [if_pos hshown, if_pos hshown, h.same hR hshown hok, List.cons.injEq, hrest]
          exact ⟨fun hall => ⟨hok, hall.2⟩, fun hall => ⟨rfl, hall.2⟩⟩
        · rw [if_neg hshown, if_neg hshown, hrest]
          exact ⟨fun hall => ⟨hok, hall⟩, fun hall => hall.2⟩
      · obtain ⟨hshown, hdiffers⟩ := h.differs hR hok
        rw [if_pos hshown, if_pos hshown]
        exact iff_of_false (fun heq => hdiffers (List.cons.inj heq).1) fun hall => hok hall.1

end Unwinding

end VehicleStack
