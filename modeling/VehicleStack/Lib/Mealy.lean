import Mathlib.Data.List.Basic
import Mathlib.Data.List.Induction

/-!
# Machines that answer every input

A component that is called once per tick is a function
`step : σ → ι → σ × ο`: a state and an input give the next state and an answer.
This file is about its runs over a list of inputs and names no particular
component.

* `VehicleStack.Mealy.final` and `VehicleStack.Mealy.outputs` – the state after a
  run and the answers given along it;
* `VehicleStack.Mealy.final_induct` – a property of histories and states that
  holds of the empty history and is kept by one more input holds after every
  history. Histories grow on the right, so the property may speak of everything
  seen so far, and this is the one induction the runs of this development use;
* `VehicleStack.Mealy.AtEach` – a property of every input of a run and the state that it
  finds;
* `VehicleStack.Mealy.outputs_eq_of_simulation` – two machines whose states stay
  related answer alike;
* `VehicleStack.Mealy.calls` – a program of which a call may fail to return, and
  `VehicleStack.Mealy.calls_of_refines`, that a program which does what a machine does
  returns from every call and answers as the machine.
-/

namespace VehicleStack

namespace Mealy

variable {σ ι ο : Type*} (step : σ → ι → σ × ο)

/-- The state a run leads to. -/
def final : σ → List ι → σ
  | s, [] => s
  | s, i :: is => final (step s i).1 is

/-- The answers given along a run, one for each input. -/
def outputs : σ → List ι → List ο
  | _, [] => []
  | s, i :: is => (step s i).2 :: outputs (step s i).1 is

@[simp]
theorem final_nil (s : σ) : final step s [] = s := rfl

@[simp]
theorem final_cons (s : σ) (i : ι) (is : List ι) :
    final step s (i :: is) = final step (step s i).1 is := rfl

@[simp]
theorem outputs_nil (s : σ) : outputs step s [] = [] := rfl

@[simp]
theorem outputs_cons (s : σ) (i : ι) (is : List ι) :
    outputs step s (i :: is) = (step s i).2 :: outputs step (step s i).1 is := rfl

theorem final_append (s : σ) (is js : List ι) :
    final step s (is ++ js) = final step (final step s is) js := by
  induction is generalizing s with
  | nil => rfl
  | cons i is ih => exact ih (step s i).1

theorem outputs_append (s : σ) (is js : List ι) :
    outputs step s (is ++ js) = outputs step s is ++ outputs step (final step s is) js := by
  induction is generalizing s with
  | nil => rfl
  | cons i is ih =>
    rw [List.cons_append, outputs_cons, outputs_cons, ih (step s i).1, List.cons_append,
      final_cons]

@[simp]
theorem final_concat (s : σ) (is : List ι) (i : ι) :
    final step s (is ++ [i]) = (step (final step s is) i).1 := by
  rw [final_append, final_cons, final_nil]

@[simp]
theorem outputs_concat (s : σ) (is : List ι) (i : ι) :
    outputs step s (is ++ [i]) = outputs step s is ++ [(step (final step s is) i).2] := by
  rw [outputs_append, outputs_cons, outputs_nil]

@[simp]
theorem length_outputs (s : σ) (is : List ι) : (outputs step s is).length = is.length := by
  induction is generalizing s with
  | nil => rfl
  | cons i is ih => rw [outputs_cons, List.length_cons, ih, List.length_cons]

/-- A run over renamed inputs is a run of the machine that renames them itself. -/
theorem outputs_map {κ : Type*} (f : κ → ι) (s : σ) (ks : List κ) :
    outputs step s (ks.map f) = outputs (fun s k => step s (f k)) s ks := by
  induction ks generalizing s with
  | nil => rfl
  | cons k ks ih => rw [List.map_cons, outputs_cons, outputs_cons, ih]

/-- An answer given along a run is the answer to one of the inputs, in the state the run has
reached by then. -/
theorem mem_outputs {s : σ} {is : List ι} {o : ο} (h : o ∈ outputs step s is) :
    ∃ before i after, is = before ++ i :: after ∧ o = (step (final step s before) i).2 := by
  induction is generalizing s with
  | nil => exact absurd h List.not_mem_nil
  | cons i is ih =>
    rcases List.mem_cons.mp h with rfl | hrest
    · exact ⟨[], i, is, rfl, rfl⟩
    · obtain ⟨before, j, after, hsplit, ho⟩ := ih hrest
      exact ⟨i :: before, j, after, by rw [hsplit, List.cons_append], ho⟩

variable {step}

/-- **Induction along a run**: what holds before any input and is kept by one
more input, whatever came before it, holds after every history. -/
theorem final_induct {s₀ : σ} {P : List ι → σ → Prop} (h₀ : P [] s₀)
    (hstep : ∀ is s i, P is s → P (is ++ [i]) (step s i).1) (is : List ι) :
    P is (final step s₀ is) := by
  induction is using List.reverseRecOn with
  | nil => exact h₀
  | append_singleton is i ih =>
    rw [final_concat]
    exact hstep is _ i ih

/-- **Simulation**: two machines that are fed the same inputs, in states a relation
ties together, answer alike as long as every input they get keeps them tied. -/
theorem outputs_eq_of_simulation {τ : Type*} {step' : τ → ι → τ × ο} {R : σ → τ → Prop}
    {p : ι → Prop} (hstep : ∀ s t i, p i → R s t →
      (step s i).2 = (step' t i).2 ∧ R (step s i).1 (step' t i).1)
    {s : σ} {t : τ} (h : R s t) {is : List ι} (his : ∀ i ∈ is, p i) :
    outputs step s is = outputs step' t is := by
  induction is generalizing s t with
  | nil => rfl
  | cons i is ih =>
    obtain ⟨ho, hR⟩ := hstep s t i (his i List.mem_cons_self) h
    rw [outputs_cons, outputs_cons, ho, ih hR fun j hj => his j (List.mem_cons_of_mem i hj)]

/-- A property of states that every step keeps holds in every state a run
reaches. -/
theorem final_of_invariant {s₀ : σ} {P : σ → Prop} (h₀ : P s₀)
    (hstep : ∀ s i, P s → P (step s i).1) (is : List ι) : P (final step s₀ is) :=
  final_induct (P := fun _ s => P s) h₀ (fun _ s i h => hstep s i h) is

variable (step) in
/-- A property of every input of a run, in the state that it finds. -/
def AtEach (P : σ → ι → Prop) (s : σ) (is : List ι) : Prop :=
  ∀ before i after, is = before ++ i :: after → P (final step s before) i

/-- Properties that say the same of every input in the states a run passes through say the
same of the run. -/
theorem atEach_congr {P Q : σ → ι → Prop} {I : σ → Prop} {s : σ} (h₀ : I s)
    (hstep : ∀ s i, I s → I (step s i).1) (h : ∀ s i, I s → (P s i ↔ Q s i))
    (is : List ι) : AtEach step P s is ↔ AtEach step Q s is :=
  forall₄_congr fun before i _ _ => h _ i (final_of_invariant h₀ hstep before)

/-! ### Programs -/

/-- Where some calls lead and what they return, if each of them returns. -/
def calls (call : σ → ι → Option (σ × ο)) : σ → List ι → Option (σ × List ο)
  | s, [] => some (s, [])
  | s, i :: is => (call s i).bind fun r => (calls call r.1 is).map fun t => (t.1, r.2 :: t.2)

/-- **Refinement**: a program each of whose calls does what a machine does, in states a relation
ties together, returns from every sequence of calls, and answers as the machine. -/
theorem calls_of_refines {τ : Type*} {call : σ → ι → Option (σ × ο)} {machine : τ → ι → τ × ο}
    {R : σ → τ → Prop} (hcall : ∀ s t i, R s t →
      ∃ s', call s i = some (s', (machine t i).2) ∧ R s' (machine t i).1)
    {s : σ} {t : τ} (h : R s t) (is : List ι) :
    ∃ s', calls call s is = some (s', outputs machine t is) ∧ R s' (final machine t is) := by
  induction is generalizing s t with
  | nil => exact ⟨s, rfl, h⟩
  | cons i is ih =>
    obtain ⟨s', hs', hR⟩ := hcall s t i h
    obtain ⟨s'', hs'', hlast⟩ := ih hR
    refine ⟨s'', ?_, hlast⟩
    rw [calls, hs', Option.bind_some, hs'', Option.map_some, outputs_cons]

end Mealy

end VehicleStack
