import VehicleStack.Realtime.Envelope
import Mathlib.Data.List.Chain

/-!
# What an engine-off cycle leaves of the parking manoeuvre

A cycle with the engine off returns from `computeOutput` before
`updateAutoParkingState` is reached, so the `aps_.stop()` that stands there for
the engine-off case never runs. A later engine-on cycle restarts the manoeuvre
only if it notices a change of mode, and the mode it compares with is the one of
the last cycle, engine on or off.

`VehicleStack.Realtime.CarriesOver` says which histories carry a manoeuvre over:
some engine-on automatic cycle had usable sensors, no engine-on cycle since then
saw the mode switch between automatic and the others, and the last cycle was
automatic. The invariant `VehicleStack.Realtime.Manoeuvring` ties that condition,
which is about inputs only, to the controller's state, and
`VehicleStack.Realtime.restartIsFresh_iff` reads off when an automatic cycle
after an engine-off one starts afresh.
-/

namespace VehicleStack

namespace Realtime

open ControlLoop List

/-! ### What a cycle does to the parking controller -/

/-- The parking controller as `computeOutput` hands it this cycle's tick. -/
def ControlLoop.handed (l : ControlLoop) (inputs : ControlInputs) : AutoParkingController :=
  (updateAutoParkingState (l.handleDoorLockTransition inputs) inputs.engine inputs.mode).aps

variable {fl : ℚ → ℚ} {l : ControlLoop} {inputs : ControlInputs}

/-- Entering automatic mode starts the controller, and so does automatic mode with
a controller that is not active; leaving it stops the controller. -/
theorem handed_of_engine (he : inputs.engine = true) : l.handed inputs =
    if inputs.mode = .auto then
      if l.lastMode = .auto ∧ l.aps.active = true then l.aps else l.aps.start
    else if l.lastMode = .auto then l.aps.stop else l.aps := by
  have hstart : ∀ c : AutoParkingController, c.start.active = true := fun _ => rfl
  unfold handed updateAutoParkingState
  rw [he, handleDoorLockTransition_lastMode]
  by_cases hmode : inputs.mode = .auto
  · by_cases hlast : l.lastMode = .auto
    · cases hactive : l.aps.active with
      | true => simp [hmode, hlast, hactive, handleDoorLockTransition_aps]
      | false => simp [hmode, hlast, hactive, handleDoorLockTransition_aps]
    · simp [hmode, hlast, hstart, handleDoorLockTransition_aps]
  · by_cases hlast : l.lastMode = .auto
    · simp [hmode, hlast, handleDoorLockTransition_aps]
    · simp [hmode, hlast, handleDoorLockTransition_aps]

theorem computeOutput_lastMode : (l.computeOutput fl inputs).1.lastMode = inputs.mode := by
  unfold computeOutput
  split_ifs <;> rfl

/-- With the engine off the parking controller is not looked at. -/
theorem computeOutput_aps_of_engine_off (he : inputs.engine = false) :
    (l.computeOutput fl inputs).1.aps = l.aps := by
  rw [computeOutput, if_pos (by simp [he])]
  exact applyDoorLockFeedback_aps.trans handleDoorLockTransition_aps

/-- With the engine on it is handed the tick exactly in automatic mode. -/
theorem computeOutput_aps_of_engine (he : inputs.engine = true) :
    (l.computeOutput fl inputs).1.aps =
      if inputs.mode = .auto then (l.handed inputs).step fl (parkingTick inputs)
      else l.handed inputs := by
  have hbrake : ∀ (l' : ControlLoop) (out : ControlOutput),
      (l'.emergencyBrake inputs out).1.aps = l'.aps := by
    intro l' out
    simp only [emergencyBrake]
    split_ifs <;> rfl
  have hdrive : (l.computeOutput fl inputs).1.aps = (l.driven fl inputs).1.aps := by
    rw [computeOutput, if_neg (by simp [he])]
    exact applyDoorLockFeedback_aps.trans (hbrake _ _)
  rw [hdrive]
  by_cases hmode : inputs.mode = .auto
  · have hp := parks_updateAutoParkingState (l.handleDoorLockTransition inputs) hmode
    rw [if_pos hmode, driven, handed, he, drive, if_pos hp]
  · have hp : ¬(updateAutoParkingState (l.handleDoorLockTransition inputs) inputs.engine
        inputs.mode).parks inputs = true := by
      simp [parks, hmode]
    rw [if_neg hmode, driven, drive, if_neg hp, handed]

/-! ### Histories that carry a manoeuvre over -/

/-- The mode of the last cycle; the loop starts in assist mode. -/
def lastModeOf (history : List ControlInputs) : ControlMode :=
  (history.getLast?.map ControlInputs.mode).getD .assist

/-- An engine-on automatic cycle with usable sensors. -/
def Engages (i : ControlInputs) : Prop :=
  i.engine = true ∧ i.mode = .auto ∧ (parkingTick i).ready = true

/-- The second cycle does not switch between automatic and another mode with the
engine on. -/
def Unswitched (i j : ControlInputs) : Prop :=
  j.engine = true → (j.mode = .auto ↔ i.mode = .auto)

/-- Some cycle engaged the manoeuvre and none since then switched the mode. -/
def EngagedBy (history : List ControlInputs) : Prop :=
  ∃ before i later, history = before ++ i :: later ∧ Engages i ∧ IsChain Unswitched (i :: later)

/-- **A manoeuvre is carried over**: it is engaged, and the last cycle was in
automatic mode. -/
def CarriesOver (history : List ControlInputs) : Prop :=
  EngagedBy history ∧ lastModeOf history = .auto

theorem lastModeOf_concat (history : List ControlInputs) (i : ControlInputs) :
    lastModeOf (history ++ [i]) = i.mode := by
  rw [lastModeOf, getLast?_concat]
  rfl

theorem lastModeOf_append_cons (before later : List ControlInputs) (i : ControlInputs) :
    lastModeOf (before ++ i :: later) = ((i :: later).getLast (cons_ne_nil i later)).mode := by
  rw [lastModeOf, getLast?_append_cons, getLast?_eq_getLast_of_ne_nil (cons_ne_nil i later)]
  rfl

/-- One more cycle engages the manoeuvre itself, or leaves it engaged. -/
theorem engagedBy_concat (history : List ControlInputs) (x : ControlInputs) :
    EngagedBy (history ++ [x]) ↔ Engages x ∨
      (EngagedBy history ∧ (x.engine = true → (x.mode = .auto ↔ lastModeOf history = .auto))) := by
  constructor
  · rintro ⟨before, i, later, heq, hi, hchain⟩
    rcases eq_nil_or_concat' later with rfl | ⟨later', y, rfl⟩
    · -- the engaging cycle is the last one
      obtain ⟨-, hx⟩ := append_inj' heq rfl
      rw [singleton_inj] at hx
      exact Or.inl (hx ▸ hi)
    · have hsplit : history ++ [x] = (before ++ i :: later') ++ [y] := by
        rw [heq, append_assoc, cons_append]
      obtain ⟨rfl, hx⟩ := append_inj' hsplit rfl
      rw [singleton_inj] at hx
      subst hx
      rw [← cons_append, isChain_append] at hchain
      obtain ⟨hchain', -, hlast⟩ := hchain
      refine Or.inr ⟨⟨before, i, later', rfl, hi, hchain'⟩, ?_⟩
      rw [lastModeOf_append_cons]
      exact hlast _ (getLast?_eq_getLast_of_ne_nil _) x rfl
  · rintro (hx | ⟨⟨before, i, later, rfl, hi, hchain⟩, hx⟩)
    · exact ⟨history, x, [], rfl, hx, isChain_singleton x⟩
    · refine ⟨before, i, later ++ [x], by rw [append_assoc, cons_append], hi, ?_⟩
      rw [lastModeOf_append_cons] at hx
      rw [← cons_append, isChain_append]
      refine ⟨hchain, isChain_singleton x, fun y hy z hz => ?_⟩
      rw [getLast?_eq_getLast_of_ne_nil (cons_ne_nil i later), Option.mem_some_iff] at hy
      rw [head?_singleton, Option.mem_some_iff] at hz
      rw [← hy, ← hz]
      exact hx

/-! ### The invariant -/

/-- **The invariant**: the loop remembers the last mode, an engaged history has
begun a manoeuvre that is still active, and any other one has begun nothing. -/
structure Manoeuvring (history : List ControlInputs) (l : ControlLoop) : Prop where
  lastMode : l.lastMode = lastModeOf history
  engaged : EngagedBy history → l.aps.active = true ∧ l.aps.Begun
  idle : ¬EngagedBy history → l.aps.Pristine

/-- One tick of automatic parking, from a controller that has begun if and only if
`P` holds: afterwards it has begun if and only if `P` held or the tick was usable. -/
theorem step_begun_or_pristine (fl : ℚ → ℚ) {c : AutoParkingController} {t : Tick} {P : Prop}
    (hactive : c.active = true) (hbegun : P → c.Begun) (hpristine : ¬P → c.Pristine) :
    ((t.ready = true ∨ P) → (c.step fl t).active = true ∧ (c.step fl t).Begun) ∧
      (¬(t.ready = true ∨ P) → (c.step fl t).Pristine) := by
  cases hready : t.ready with
  | true =>
    obtain ⟨hb, ha⟩ := AutoParkingController.begun_step fl hactive hready
    exact ⟨fun _ => ⟨ha, hb⟩, fun hnot => absurd (Or.inl rfl) hnot⟩
  | false =>
    refine ⟨fun hor => ?_, fun hnot => ?_⟩
    · have hp : P := hor.resolve_left Bool.false_ne_true
      obtain ⟨hb, ha⟩ := (hbegun hp).step_of_not_ready fl hactive hready
      exact ⟨ha, hb⟩
    · exact (hpristine fun hp => hnot (Or.inr hp)).step_of_not_ready fl hactive hready

/-- What the drive branch is handed in automatic mode has begun exactly when a
manoeuvre is carried over. -/
theorem handed_of_auto {history : List ControlInputs} (hl : Manoeuvring history l)
    (he : inputs.engine = true) (hmode : inputs.mode = .auto) :
    (l.handed inputs).active = true ∧ (CarriesOver history → (l.handed inputs).Begun) ∧
      (¬CarriesOver history → (l.handed inputs).Pristine) := by
  rw [handed_of_engine he, if_pos hmode, CarriesOver, ← hl.lastMode]
  by_cases hlast : l.lastMode = .auto
  · by_cases heng : EngagedBy history
    · obtain ⟨hactive, hbegun⟩ := hl.engaged heng
      rw [if_pos ⟨hlast, hactive⟩]
      exact ⟨hactive, fun _ => hbegun, fun hnot => absurd ⟨heng, hlast⟩ hnot⟩
    · have hidle := hl.idle heng
      by_cases hactive : l.aps.active = true
      · rw [if_pos ⟨hlast, hactive⟩]
        exact ⟨hactive, fun hc => absurd hc.1 heng, fun _ => hidle⟩
      · rw [if_neg fun h => hactive h.2]
        exact ⟨rfl, fun hc => absurd hc.1 heng, fun _ => l.aps.pristine_start⟩
  · rw [if_neg fun h => hlast h.1]
    exact ⟨rfl, fun hc => absurd hc.2 hlast, fun _ => l.aps.pristine_start⟩

/-- **The invariant survives a cycle.** -/
theorem manoeuvring_concat {history : List ControlInputs} (hl : Manoeuvring history l)
    (x : ControlInputs) : Manoeuvring (history ++ [x]) (l.computeOutput fl x).1 := by
  have hlastMode : (l.computeOutput fl x).1.lastMode = lastModeOf (history ++ [x]) := by
    rw [computeOutput_lastMode, lastModeOf_concat]
  cases he : x.engine with
  | false =>
    -- the engine is off: the controller and what is engaged stay as they are
    have heng : EngagedBy (history ++ [x]) ↔ EngagedBy history := by
      rw [engagedBy_concat, he]
      simp [Engages, he]
    refine ⟨hlastMode, ?_, ?_⟩
    · rw [computeOutput_aps_of_engine_off he, heng]
      exact hl.engaged
    · rw [computeOutput_aps_of_engine_off he, heng]
      exact hl.idle
  | true =>
    by_cases hmode : x.mode = .auto
    · have heng : EngagedBy (history ++ [x]) ↔
          (parkingTick x).ready = true ∨ CarriesOver history := by
        rw [engagedBy_concat]
        simp [Engages, he, hmode, CarriesOver]
      obtain ⟨hactive, hbegun, hpristine⟩ := handed_of_auto hl he hmode
      obtain ⟨h₁, h₂⟩ := step_begun_or_pristine fl (t := parkingTick x) hactive hbegun
        hpristine
      refine ⟨hlastMode, ?_, ?_⟩
      · rw [computeOutput_aps_of_engine he, if_pos hmode, heng]
        exact h₁
      · rw [computeOutput_aps_of_engine he, if_pos hmode, heng]
        exact h₂
    · have heng : EngagedBy (history ++ [x]) ↔
          EngagedBy history ∧ l.lastMode ≠ .auto := by
        rw [engagedBy_concat, hl.lastMode]
        simp [Engages, he, hmode]
      refine ⟨hlastMode, ?_, ?_⟩
      · rw [computeOutput_aps_of_engine he, if_neg hmode, handed_of_engine he, if_neg hmode, heng]
        rintro ⟨hold, hlast⟩
        rw [if_neg hlast]
        exact hl.engaged hold
      · rw [computeOutput_aps_of_engine he, if_neg hmode, handed_of_engine he, if_neg hmode, heng]
        intro hnot
        by_cases hlast : l.lastMode = .auto
        · rw [if_pos hlast]
          exact l.aps.pristine_stop
        · rw [if_neg hlast]
          exact hl.idle fun hold => hnot ⟨hold, hlast⟩

/-- **The invariant holds after every run of the loop.** -/
theorem manoeuvring_after (fl : ℚ → ℚ) (history : List ControlInputs) :
    Manoeuvring history (after fl history) := by
  have hnone : ¬EngagedBy [] := by
    rintro ⟨before, i, later, heq, -⟩
    simp at heq
  have hinit : Manoeuvring [] ({} : ControlLoop) :=
    ⟨rfl, fun h => absurd h hnone, fun _ => ⟨false, fun _ => 0, fun _ => 0, rfl⟩⟩
  exact Mealy.final_induct hinit (fun _ _ x hl => manoeuvring_concat hl x) history

/-! ### Restarting -/

/-- **Freshly started**: searching, with no wall reference, no space measured and
no turn made, and answering all ticks to come as a controller just started. -/
structure FreshlyStarted (fl : ℚ → ℚ) (c : AutoParkingController) : Prop where
  phase : c.phase = .spaceDetection
  noReference : c.wallReferenceInitialized = false
  noSpace : c.measuredSpaceSizeCm = 0
  notTurned : c.rotateCounter = 0
  behaves : ∀ ticks, Mealy.outputs (AutoParkingController.tick fl) c ticks =
    Mealy.outputs (AutoParkingController.tick fl) c.start ticks

/-- A controller that has not begun is freshly started once it is active. -/
theorem freshlyStarted_of_pristine {c : AutoParkingController} (hactive : c.active = true)
    (hc : c.Pristine) : FreshlyStarted fl c := by
  refine ⟨?_, ?_, ?_, ?_, fun ticks => ?_⟩
  · obtain ⟨_, _, _, hc⟩ := hc
    rw [hc]
    rfl
  · obtain ⟨_, _, _, hc⟩ := hc
    rw [hc]
    rfl
  · obtain ⟨_, _, _, hc⟩ := hc
    rw [hc]
    rfl
  · obtain ⟨_, _, _, hc⟩ := hc
    rw [hc]
    rfl
  · cases ticks with
    | nil => rfl
    | cons t ticks =>
      have htick : AutoParkingController.tick fl c t =
          AutoParkingController.tick fl c.start t := by
        rw [AutoParkingController.tick, AutoParkingController.tick,
          AutoParkingController.updateSensors_snd, AutoParkingController.updateSensors_snd,
          hc.step_eq fl hactive]
      rw [Mealy.outputs_cons, Mealy.outputs_cons, htick]

/-- In any run, the manoeuvre that an engine-on automatic cycle goes on with is
freshly started exactly when none is carried over. -/
theorem freshlyStarted_handed_iff (history : List ControlInputs) (he : inputs.engine = true)
    (hmode : inputs.mode = .auto) :
    FreshlyStarted fl ((after fl history).handed inputs) ↔ ¬CarriesOver history := by
  obtain ⟨hactive, hbegun, hpristine⟩ := handed_of_auto (manoeuvring_after fl history) he hmode
  constructor
  · intro hfresh hcarries
    rcases hbegun hcarries with hphase | hwall
    · exact hphase hfresh.phase
    · exact absurd (hfresh.noReference.symm.trans hwall) Bool.false_ne_true
  · exact fun hnot => freshlyStarted_of_pristine hactive (hpristine hnot)

/-- A run that switches the engine off after `before`, stays out of engine-on
automatic cycles during `between` and resumes with one. -/
structure Resumes (run before : List ControlInputs) (off : ControlInputs)
    (between : List ControlInputs) (resume : ControlInputs) : Prop where
  isPrefix : before ++ off :: between ++ [resume] <+: run
  off : off.engine = false
  between : ∀ i ∈ between, ¬(i.engine = true ∧ i.mode = .auto)
  engine : resume.engine = true
  mode : resume.mode = .auto

/-- Switching the engine off aborts parking along a run: wherever it resumes, the
manoeuvre is freshly started. -/
def RestartIsFresh (fl : ℚ → ℚ) (run : List ControlInputs) : Prop :=
  ∀ before off between resume, Resumes run before off between resume →
    FreshlyStarted fl ((after fl (before ++ off :: between)).handed resume)

/-- **When switching the engine off aborts parking**: in a run where no manoeuvre is
carried over to a cycle that resumes, and only there. -/
theorem restartIsFresh_iff (fl : ℚ → ℚ) (run : List ControlInputs) : RestartIsFresh fl run ↔
    ∀ before off between resume, Resumes run before off between resume →
      ¬CarriesOver (before ++ off :: between) := by
  constructor
  · intro hfresh before off between resume hr
    exact (freshlyStarted_handed_iff _ hr.engine hr.mode).mp (hfresh before off between resume hr)
  · intro hnone before off between resume hr
    exact (freshlyStarted_handed_iff _ hr.engine hr.mode).mpr (hnone before off between resume hr)

/-- Parking with usable sensors, a cycle with the engine off and the mode left in
automatic, and parking again. -/
def parkingCycle : ControlInputs where
  engine := true
  mode := .auto
  sensor := { frontTofMm := 2000, leftUltraMm := 300, rightUltraMm := 300, rearUltraMm := 600 }

def engineOffCycle : ControlInputs := { parkingCycle with engine := false }

theorem parkingCycle_carriesOver :
    ¬∀ fl run, RestartIsFresh fl run := by
  intro h
  have hresumes : Resumes [parkingCycle, engineOffCycle, parkingCycle] [parkingCycle]
      engineOffCycle [] parkingCycle :=
    ⟨prefix_rfl, rfl, fun i hi => absurd hi not_mem_nil, rfl, rfl⟩
  have hcarries : CarriesOver ([parkingCycle] ++ engineOffCycle :: []) := by
    refine ⟨⟨[], parkingCycle, [engineOffCycle], rfl, ⟨rfl, rfl, by decide⟩, ?_⟩, rfl⟩
    exact isChain_cons_cons.mpr ⟨fun he => absurd he (by decide), isChain_singleton _⟩
  have hfresh := h id [parkingCycle, engineOffCycle, parkingCycle] _ _ _ _ hresumes
  exact (freshlyStarted_handed_iff _ rfl rfl).mp hfresh hcarries

end Realtime

end VehicleStack
