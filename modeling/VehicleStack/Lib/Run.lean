import Mathlib.Data.List.Basic
import Mathlib.Data.List.Induction

/-!
# Runs of a partial step function

A system in which not every event can happen in every state is a function
`step : σ → ι → Option σ`. A run over a list of events has a final state only if
each event could happen when it came (`VehicleStack.Run.run`). The induction
along runs (`VehicleStack.Run.run_induct`) hands the property the events so far
as well as the state they lead to, so it serves for invariants about the history
too. What is seen along a run, step by step, is `VehicleStack.Run.observe`, and
`VehicleStack.Run.Along` says that a condition holds in every state a run passes
through.
-/

namespace VehicleStack

namespace Run

variable {σ ι ο : Type*} {step : σ → ι → Option σ}

/-- The state a run leads to, if every event of it can happen. -/
def run (step : σ → ι → Option σ) : σ → List ι → Option σ
  | s, [] => some s
  | s, i :: is => (step s i).bind fun s' => run step s' is

@[simp]
theorem run_nil (s : σ) : run step s [] = some s := rfl

theorem run_cons (s : σ) (i : ι) (is : List ι) :
    run step s (i :: is) = (step s i).bind fun s' => run step s' is := rfl

theorem run_append (s : σ) (is js : List ι) :
    run step s (is ++ js) = (run step s is).bind fun s' => run step s' js := by
  induction is generalizing s with
  | nil => rfl
  | cons i is ih =>
    rw [List.cons_append, run_cons, run_cons, Option.bind_assoc]
    exact congrArg _ (funext fun s' => ih s')

/-- A run of two parts passes through a state. -/
theorem run_append_eq_some {s s'' : σ} {is js : List ι} :
    run step s (is ++ js) = some s'' ↔
      ∃ s', run step s is = some s' ∧ run step s' js = some s'' := by
  rw [run_append, Option.bind_eq_some_iff]

theorem run_cons_eq_some {s s'' : σ} {i : ι} {is : List ι} :
    run step s (i :: is) = some s'' ↔
      ∃ s', step s i = some s' ∧ run step s' is = some s'' := by
  rw [run_cons, Option.bind_eq_some_iff]

/-- **Induction along a run**: what holds at the start and is kept by every event
that can happen, whatever came before it, holds at the end of every run. -/
theorem run_induct {s₀ : σ} {P : List ι → σ → Prop} (h₀ : P [] s₀)
    (hstep : ∀ is s i s', run step s₀ is = some s → P is s → step s i = some s' →
      P (is ++ [i]) s') {is : List ι} {s : σ} (hrun : run step s₀ is = some s) : P is s := by
  induction is using List.reverseRecOn generalizing s with
  | nil =>
    rw [run_nil, Option.some_inj] at hrun
    exact hrun ▸ h₀
  | append_singleton is i ih =>
    obtain ⟨s', hs', hi⟩ := run_append_eq_some.mp hrun
    obtain ⟨s'', hlast, hnil⟩ := run_cons_eq_some.mp hi
    rw [run_nil, Option.some_inj] at hnil
    exact hstep is s' i s hs' (ih hs') (hnil ▸ hlast)

/-- Events that change nothing can be left out of a run. -/
theorem run_filter {p : ι → Prop} [DecidablePred p] (hidle : ∀ i, ¬ p i → ∀ s, step s i = some s)
    (s : σ) (is : List ι) : run step s (is.filter p) = run step s is := by
  induction is generalizing s with
  | nil => rfl
  | cons i is ih =>
    by_cases hi : p i
    · rw [List.filter_cons, if_pos (decide_eq_true hi), run_cons, run_cons]
      exact congrArg _ (funext ih)
    · rw [List.filter_cons, if_neg (fun h => hi (of_decide_eq_true h)), run_cons, hidle i hi,
        Option.bind_some, ih]

/-- **Events that stand for several**: if each step is a run of another system, a run is
the run of all they stand for. -/
theorem run_flatMap {κ : Type*} {step' : σ → κ → Option σ} {f : κ → List ι}
    (h : ∀ s k, step' s k = run step s (f k)) (s : σ) (ks : List κ) :
    run step' s ks = run step s (ks.flatMap f) := by
  induction ks generalizing s with
  | nil => rfl
  | cons k ks ih =>
    rw [List.flatMap_cons, run_append, run_cons, h]
    exact congrArg _ (funext ih)

/-- What is seen along a run: each event that happens shows something. -/
def observe (step : σ → ι → Option σ) (obs : σ → ι → List ο) : σ → List ι → List ο
  | _, [] => []
  | s, i :: is =>
    match step s i with
    | none => []
    | some s' => obs s i ++ observe step obs s' is

theorem observe_cons (obs : σ → ι → List ο) {s s' : σ} {i : ι} (is : List ι)
    (h : step s i = some s') :
    observe step obs s (i :: is) = obs s i ++ observe step obs s' is := by
  rw [observe, h]

/-- What is seen along a run of two parts. -/
theorem observe_append (obs : σ → ι → List ο) {s s' : σ} {is : List ι} (js : List ι)
    (hrun : run step s is = some s') :
    observe step obs s (is ++ js) = observe step obs s is ++ observe step obs s' js := by
  induction is generalizing s with
  | nil =>
    rw [run_nil, Option.some_inj] at hrun
    subst hrun
    rfl
  | cons i is ih =>
    obtain ⟨t, hi, hrest⟩ := run_cons_eq_some.mp hrun
    rw [List.cons_append, observe_cons obs _ hi, observe_cons obs _ hi, ih hrest,
      List.append_assoc]

/-- One more event shows what it shows in the state it happens in. -/
theorem observe_concat (obs : σ → ι → List ο) {s s' s'' : σ} {is : List ι} {i : ι}
    (hrun : run step s is = some s') (h : step s' i = some s'') :
    observe step obs s (is ++ [i]) = observe step obs s is ++ obs s' i := by
  rw [observe_append obs [i] hrun, observe_cons obs [] h]
  exact congrArg _ (List.append_nil _)

/-- What is seen along a run is seen of one of its events, in the state it happens in. -/
theorem mem_observe {obs : σ → ι → List ο} {s : σ} {is : List ι} {o : ο}
    (h : o ∈ observe step obs s is) :
    ∃ before i later s', is = before ++ i :: later ∧ run step s before = some s' ∧
      o ∈ obs s' i := by
  induction is generalizing s with
  | nil => exact absurd h List.not_mem_nil
  | cons i is ih =>
    rw [observe] at h
    split at h
    · exact absurd h List.not_mem_nil
    · rename_i s' hstep
      rcases List.mem_append.mp h with hnow | hlater
      · exact ⟨[], i, is, s, rfl, rfl, hnow⟩
      · obtain ⟨before, j, later, t, hsplit, hrun, ho⟩ := ih hlater
        refine ⟨i :: before, j, later, t, by rw [hsplit, List.cons_append], ?_, ho⟩
        rw [run_cons, hstep]
        exact hrun

/-- A condition holds in every state a run passes through, the first and the last
included. -/
def Along (step : σ → ι → Option σ) (p : σ → Prop) : σ → List ι → Prop
  | s, [] => p s
  | s, i :: is =>
    p s ∧ match step s i with
      | none => True
      | some s' => Along step p s' is

/-- A condition that holds along a run holds along its later part. -/
theorem Along.of_append {p : σ → Prop} {s s' : σ} {is js : List ι}
    (h : Along step p s (is ++ js)) (hrun : run step s is = some s') : Along step p s' js := by
  induction is generalizing s with
  | nil =>
    rw [run_nil, Option.some_inj] at hrun
    exact hrun ▸ h
  | cons i is ih =>
    obtain ⟨t, hi, hrest⟩ := run_cons_eq_some.mp hrun
    have htail := h.2
    rw [hi] at htail
    exact ih htail hrest

/-- Along a run on which a condition holds in every state, what holds at its start
and is kept by the events that can happen under the condition holds at its end. -/
theorem Along.run_induct {p P : σ → Prop} {s s' : σ} {is : List ι} (h : Along step p s is)
    (hrun : run step s is = some s') (h₀ : P s)
    (hstep : ∀ t i t', p t → P t → step t i = some t' → P t') : P s' := by
  induction is generalizing s with
  | nil =>
    rw [run_nil, Option.some_inj] at hrun
    exact hrun ▸ h₀
  | cons i is ih =>
    obtain ⟨t, hi, hrest⟩ := run_cons_eq_some.mp hrun
    have htail := h.2
    rw [hi] at htail
    exact ih htail hrest (hstep s i t h.1 h₀ hi)

end Run

end VehicleStack
