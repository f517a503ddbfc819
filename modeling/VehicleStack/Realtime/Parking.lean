import VehicleStack.Lib.Mealy
import VehicleStack.Realtime.Shared
import Mathlib.Data.Rat.Defs
import Mathlib.Algebra.GroupWithZero.Nat
import Mathlib.Algebra.Order.Ring.Rat
import Mathlib.Data.Fin.VecNotation
import Mathlib.Logic.Function.Basic

/-!
# The automatic parking controller

`AutoParkingController` of `control_thread.cpp`: it drives forward until the
left ultrasonic sensor has seen a gap that is long enough, backs up to it,
turns in for a fixed number of ticks and reverses until the rear sensor reports
the safety distance.

The controller measures the gap in `float`. The three operations that round
(the conversion of the microsecond count, the division by a thousand and the
multiplication by the speed) go through a parameter `fl : ℚ → ℚ`, the rounding
of the machine; `fl = id` is exact arithmetic. The constants are exact in single
precision.

Beside the model stand the facts the rest of the development reads off it: which
ticks are ready (`VehicleStack.Realtime.Tick.ready`, a condition on the inputs
alone), that a tick without sensors leaves the manoeuvre where it was
(`VehicleStack.Realtime.AutoParkingController.step_of_not_ready`), and that one
with sensors is `computeOutputs` on the two distances that matter
(`VehicleStack.Realtime.AutoParkingController.step_of_ready`).
-/

namespace VehicleStack

namespace Realtime

/-- `ParkingPhase`. -/
inductive ParkingPhase where
  | spaceDetection
  | parkingExecution
  | completed
  deriving DecidableEq

/-- `WallSpaceState`. -/
inductive WallSpaceState where
  | wallDetected
  | spaceDetected
  deriving DecidableEq

/-- `AutoParkingController::Config`. -/
structure ParkingConfig where
  wallThresholdMm : ℤ
  vehicleSpeedCmPerMs : ℚ
  minSpaceSizeCm : ℚ
  rearSafetyDistanceMm : ℤ
  rotateLimit : ℕ

/-- `cfg_`. -/
def cfg : ParkingConfig where
  wallThresholdMm := 100
  vehicleSpeedCmPerMs := 1 / 2
  minSpaceSizeCm := 150
  rearSafetyDistanceMm := 100
  rotateLimit := 30

/-- The sensor slots are numbered. -/
instance neZero_slots : NeZero 4 := ⟨by decide⟩

/-- `AutoParkingController`. The sensor slots are front, left, right, rear. -/
structure AutoParkingController where
  active : Bool := false
  done : Bool := false
  sensorsReady : Bool := false
  phase : ParkingPhase := .spaceDetection
  state : WallSpaceState := .wallDetected
  executionState : ℕ := 1
  wallReferenceInitialized : Bool := false
  wallReferenceDistanceMm : ℤ := 0
  spaceStartTimeUs : ℕ := 0
  spaceEndTimeUs : ℕ := 0
  measuredSpaceSizeCm : ℚ := 0
  rotateCounter : ℕ := 0
  resultX : ℤ := 50
  resultY : ℤ := 50
  senseDist : Fin 4 → ℤ := fun _ => 0
  senseTime : Fin 4 → ℕ := fun _ => 0

/-- What one call of `step` is given: the time, the sensor record and the
nominal sensor interval. -/
structure Tick where
  nowUs : ℕ
  sensor : SensorData
  sensorIntervalUs : ℕ

namespace AutoParkingController

/-! ### The code -/

/-- `reset`. -/
def reset (c : AutoParkingController) : AutoParkingController where
  active := c.active
  done := false
  sensorsReady := false
  phase := .spaceDetection
  state := .wallDetected
  executionState := 1
  wallReferenceInitialized := false
  wallReferenceDistanceMm := 0
  spaceStartTimeUs := 0
  spaceEndTimeUs := 0
  measuredSpaceSizeCm := 0
  rotateCounter := 0
  resultX := 50
  resultY := 50
  senseDist := fun _ => -1
  senseTime := fun _ => 0

/-- `start`. -/
def start (c : AutoParkingController) : AutoParkingController :=
  { c.reset with active := true }

/-- `stop`. -/
def stop (c : AutoParkingController) : AutoParkingController :=
  reset { c with active := false }

/-- The lambda `assign_sensor` of `updateSensors`. -/
def assignSensor (c : AutoParkingController) (nowUs : ℕ) (idx : Fin 4) (distanceMm : ℤ)
    (tsUs : ℕ) : AutoParkingController :=
  { c with
    senseDist := Function.update c.senseDist idx distanceMm
    senseTime := Function.update c.senseTime idx (if tsUs ≠ 0 then tsUs else nowUs) }

/-- The loop of `updateSensors` over the timestamps: it stops at the first one
that is too old. -/
def checkAges (nowUs maxAgeUs : ℕ) :
    List (Fin 4) → AutoParkingController → AutoParkingController × Bool
  | [], c => ({ c with sensorsReady := true }, true)
  | i :: is, c =>
    let c := if c.senseTime i = 0 then
      { c with senseTime := Function.update c.senseTime i nowUs } else c
    if c.senseTime i ≤ nowUs ∧ maxAgeUs < nowUs - c.senseTime i then
      ({ c with sensorsReady := false }, false)
    else checkAges nowUs maxAgeUs is c

/-- The four calls of `assign_sensor` in `updateSensors`. -/
def assignSensors (c : AutoParkingController) (t : Tick) : AutoParkingController :=
  let front := if 0 ≤ t.sensor.frontTofMm then t.sensor.frontTofMm else -1
  let c := c.assignSensor t.nowUs 0 front t.sensor.frontTsUs
  let c := c.assignSensor t.nowUs 1 t.sensor.leftUltraMm t.sensor.leftTsUs
  let c := c.assignSensor t.nowUs 2 t.sensor.rightUltraMm t.sensor.rightTsUs
  c.assignSensor t.nowUs 3 t.sensor.rearUltraMm t.sensor.rearTsUs

/-- `updateSensors`. -/
def updateSensors (c : AutoParkingController) (t : Tick) : AutoParkingController × Bool :=
  let c := c.assignSensors t
  let c := { c with sensorsReady := decide (0 ≤ c.senseDist 1 ∧ 0 ≤ c.senseDist 3) }
  if c.sensorsReady then checkAges t.nowUs (t.sensorIntervalUs * 5) [0, 1, 2, 3] c
  else (c, false)

/-- `analyzeSpace`. -/
def analyzeSpace (c : AutoParkingController) (distanceMm : ℤ) :
    AutoParkingController × WallSpaceState :=
  if distanceMm < 0 then (c, .wallDetected)
  else if ¬c.wallReferenceInitialized then
    ({ c with wallReferenceDistanceMm := distanceMm, wallReferenceInitialized := true },
      .wallDetected)
  else
    let c := if distanceMm < c.wallReferenceDistanceMm then
      { c with wallReferenceDistanceMm := distanceMm } else c
    if c.wallReferenceDistanceMm + cfg.wallThresholdMm < distanceMm then (c, .spaceDetected)
    else (c, .wallDetected)

variable (fl : ℚ → ℚ)

/-- `calculateSpaceSize`. -/
def calculateSpaceSize (startUs endUs : ℕ) : ℚ :=
  if endUs ≤ startUs then 0
  else
    let diffMs := fl (fl ((endUs - startUs : ℕ) : ℚ) / 1000)
    fl (diffMs * cfg.vehicleSpeedCmPerMs)

/-- `processStateTransition`. -/
def processStateTransition (c : AutoParkingController) (newState : WallSpaceState) (nowUs : ℕ) :
    AutoParkingController :=
  if c.state = newState then c
  else
    let c := match c.state, newState with
      | .wallDetected, .spaceDetected => { c with spaceStartTimeUs := nowUs }
      | .spaceDetected, .wallDetected =>
        { c with
          spaceEndTimeUs := nowUs
          measuredSpaceSizeCm := calculateSpaceSize fl c.spaceStartTimeUs nowUs }
      | _, _ => c
    { c with state := newState }

/-- `detectParkingSpace`. -/
def detectParkingSpace (c : AutoParkingController) (nowUs : ℕ) : AutoParkingController × Bool :=
  let (c, analyzed) := c.analyzeSpace (c.senseDist 1)
  let c := processStateTransition fl c analyzed nowUs
  (c, decide (cfg.minSpaceSizeCm ≤ c.measuredSpaceSizeCm))

/-- `computeOutputs`, the case `SpaceDetection`. -/
def searchOutputs (c : AutoParkingController) (nowUs : ℕ) : AutoParkingController :=
  let c := { c with resultX := 50, resultY := 70 }
  let (c, found) := detectParkingSpace fl c nowUs
  if found then
    { c with
      phase := .parkingExecution
      executionState := 1
      rotateCounter := 0
      wallReferenceInitialized := false
      state := .wallDetected }
  else c

/-- `computeOutputs`, the case `ParkingExecution` with `execution_state_ == 1`. -/
def alignOutputs (c : AutoParkingController) : AutoParkingController :=
  let (c, s) := c.analyzeSpace (c.senseDist 1)
  let c := { c with state := s }
  if c.state = .spaceDetected then { c with resultX := 50, resultY := 50, executionState := 2 }
  else { c with resultX := 50, resultY := 35 }

/-- `computeOutputs`, the case `ParkingExecution` with any other `execution_state_`. -/
def turnOutputs (c : AutoParkingController) : AutoParkingController :=
  let rearDistance := c.senseDist 3
  let c := if c.rotateCounter < cfg.rotateLimit then
    { c with resultX := 64, resultY := 45, rotateCounter := c.rotateCounter + 1 }
  else { c with resultX := 50, resultY := 35 }
  if cfg.rotateLimit ≤ c.rotateCounter ∧ 0 ≤ rearDistance ∧
      rearDistance ≤ cfg.rearSafetyDistanceMm then
    { c with resultX := 50, resultY := 50, phase := .completed, done := true }
  else c

/-- `computeOutputs`. -/
def computeOutputs (c : AutoParkingController) (nowUs : ℕ) : AutoParkingController :=
  match c.phase with
  | .spaceDetection => searchOutputs fl c nowUs
  | .parkingExecution => if c.executionState = 1 then alignOutputs c else turnOutputs c
  | .completed => { c with resultX := 50, resultY := 50, done := true }

/-- `step`. -/
def step (c : AutoParkingController) (t : Tick) : AutoParkingController :=
  if ¬c.active then { c with resultX := 50, resultY := 50, sensorsReady := false }
  else
    let (c, ready) := c.updateSensors t
    if ready then computeOutputs fl c t.nowUs
    else { c with resultX := 50, resultY := 50 }

/-- `mapJoystickValue`. -/
def mapJoystickValue (value : ℤ) : ℤ :=
  (clamp value 0 99 * 200).tdiv 99 - 100

/-- `throttlePercent`. -/
def throttlePercent (c : AutoParkingController) : ℤ := mapJoystickValue c.resultY

/-- `steerPercent`. -/
def steerPercent (c : AutoParkingController) : ℤ := mapJoystickValue c.resultX

/-- The command a tick leaves behind: `(result_x_, result_y_)`. -/
def command (c : AutoParkingController) : ℤ × ℤ := (c.resultX, c.resultY)

/-- A tick as a step of a machine: it answers its command, or nothing when
`updateSensors` reports not ready. -/
def tick (c : AutoParkingController) (t : Tick) :
    AutoParkingController × Option (ℤ × ℤ) :=
  let c' := c.step fl t
  (c', if (c.updateSensors t).2 then some c'.command else none)

/-! ### Which ticks are ready

`updateSensors` overwrites the sensor slots from its arguments before it looks
at them, so whether it reports ready depends on the arguments alone. -/

/-- A timestamp is recent enough, a missing one (zero) standing for now. -/
def fresh (nowUs maxAgeUs ts : ℕ) : Bool :=
  let ts := if ts = 0 then nowUs else ts
  decide (¬(ts ≤ nowUs ∧ maxAgeUs < nowUs - ts))

end AutoParkingController

/-- The distances of a tick, as they enter the sensor slots. -/
def Tick.dist (t : Tick) : Fin 4 → ℤ :=
  ![if 0 ≤ t.sensor.frontTofMm then t.sensor.frontTofMm else -1, t.sensor.leftUltraMm,
    t.sensor.rightUltraMm, t.sensor.rearUltraMm]

/-- The timestamps of a tick. -/
def Tick.stamps (t : Tick) : Fin 4 → ℕ :=
  ![t.sensor.frontTsUs, t.sensor.leftTsUs, t.sensor.rightTsUs, t.sensor.rearTsUs]

/-- The sensor record of a tick is usable: the left and the rear sensor have a
reading and no timestamp is older than five sensor intervals. -/
def Tick.ready (t : Tick) : Bool :=
  decide (0 ≤ t.sensor.leftUltraMm) && decide (0 ≤ t.sensor.rearUltraMm) &&
    [0, 1, 2, 3].all fun i =>
      AutoParkingController.fresh t.nowUs (t.sensorIntervalUs * 5) (t.stamps i)

theorem Tick.left_nonneg {t : Tick} (h : t.ready = true) : 0 ≤ t.sensor.leftUltraMm := by
  simp only [Tick.ready, Bool.and_eq_true, decide_eq_true_eq] at h
  exact h.1.1

namespace AutoParkingController

/-- `analyzeSpace` touches nothing but the reference distance, and a reading
leaves one behind. -/
theorem analyzeSpace_eq (c : AutoParkingController) (distanceMm : ℤ) :
    ∃ ref init s, c.analyzeSpace distanceMm =
        ({ c with wallReferenceDistanceMm := ref, wallReferenceInitialized := init }, s) ∧
      (0 ≤ distanceMm → init = true) := by
  unfold analyzeSpace
  by_cases hneg : distanceMm < 0
  · rw [if_pos hneg]
    exact ⟨c.wallReferenceDistanceMm, c.wallReferenceInitialized, .wallDetected, rfl,
      fun h => absurd hneg (by omega)⟩
  · rw [if_neg hneg]
    by_cases hinit : c.wallReferenceInitialized = true
    · rw [if_neg (not_not.mpr hinit)]
      by_cases hlow : distanceMm < c.wallReferenceDistanceMm
      · simp only [if_pos hlow]
        split_ifs
        · exact ⟨distanceMm, c.wallReferenceInitialized, .spaceDetected, rfl, fun _ => hinit⟩
        · exact ⟨distanceMm, c.wallReferenceInitialized, .wallDetected, rfl, fun _ => hinit⟩
      · simp only [if_neg hlow]
        split_ifs
        · exact ⟨c.wallReferenceDistanceMm, c.wallReferenceInitialized, .spaceDetected, rfl,
            fun _ => hinit⟩
        · exact ⟨c.wallReferenceDistanceMm, c.wallReferenceInitialized, .wallDetected, rfl,
            fun _ => hinit⟩
    · rw [if_pos hinit]
      exact ⟨distanceMm, true, .wallDetected, rfl, fun _ => rfl⟩

/-- `processStateTransition` touches nothing but the measurement of the space. -/
theorem processStateTransition_eq (fl : ℚ → ℚ) (c : AutoParkingController) (s : WallSpaceState)
    (nowUs : ℕ) : ∃ start stop size, processStateTransition fl c s nowUs =
      { c with
        state := s
        spaceStartTimeUs := start
        spaceEndTimeUs := stop
        measuredSpaceSizeCm := size } := by
  unfold processStateTransition
  by_cases heq : c.state = s
  · rw [if_pos heq, ← heq]
    exact ⟨_, _, _, rfl⟩
  · rw [if_neg heq]
    cases c.state <;> cases s <;> exact ⟨_, _, _, rfl⟩

/-- The controller once the age loop has filled in a missing timestamp. -/
def stamped (c : AutoParkingController) (nowUs : ℕ) (i : Fin 4) : AutoParkingController :=
  if c.senseTime i = 0 then { c with senseTime := Function.update c.senseTime i nowUs } else c

theorem stamped_eq (c : AutoParkingController) (nowUs : ℕ) (i : Fin 4) :
    c.stamped nowUs i = { c with senseTime := (c.stamped nowUs i).senseTime } := by
  unfold stamped
  split <;> rfl

theorem senseTime_stamped (c : AutoParkingController) (nowUs : ℕ) (i j : Fin 4) :
    (c.stamped nowUs i).senseTime j =
      if j = i ∧ c.senseTime i = 0 then nowUs else c.senseTime j := by
  unfold stamped
  split
  · rename_i hi
    simp [Function.update_apply, hi]
  · rename_i hi
    simp [hi]

/-- Filling in a timestamp makes nothing fresher. -/
theorem fresh_stamped (c : AutoParkingController) (nowUs maxAgeUs : ℕ) (i j : Fin 4) :
    fresh nowUs maxAgeUs ((c.stamped nowUs i).senseTime j) =
      fresh nowUs maxAgeUs (c.senseTime j) := by
  rw [senseTime_stamped]
  split
  · rename_i hj
    obtain ⟨rfl, hzero⟩ := hj
    simp [fresh, hzero]
  · rfl

/-- One round of the age loop. -/
theorem checkAges_cons (nowUs maxAgeUs : ℕ) (i : Fin 4) (is : List (Fin 4))
    (c : AutoParkingController) : checkAges nowUs maxAgeUs (i :: is) c =
      if fresh nowUs maxAgeUs (c.senseTime i) then checkAges nowUs maxAgeUs is (c.stamped nowUs i)
      else ({ c.stamped nowUs i with sensorsReady := false }, false) := by
  have hround : checkAges nowUs maxAgeUs (i :: is) c =
      if (c.stamped nowUs i).senseTime i ≤ nowUs ∧
          maxAgeUs < nowUs - (c.stamped nowUs i).senseTime i then
        ({ c.stamped nowUs i with sensorsReady := false }, false)
      else checkAges nowUs maxAgeUs is (c.stamped nowUs i) := rfl
  rw [hround, senseTime_stamped, fresh]
  simp only [true_and, decide_eq_true_eq, ite_not]

/-- The age loop answers whether every timestamp is fresh, and touches nothing
but the timestamps and the ready flag. -/
theorem checkAges_eq (nowUs maxAgeUs : ℕ) (is : List (Fin 4)) (c : AutoParkingController) :
    ∃ time, checkAges nowUs maxAgeUs is c =
      ({ c with
          sensorsReady := is.all fun i => fresh nowUs maxAgeUs (c.senseTime i)
          senseTime := time },
        is.all fun i => fresh nowUs maxAgeUs (c.senseTime i)) := by
  induction is generalizing c with
  | nil => exact ⟨c.senseTime, rfl⟩
  | cons i is ih =>
    rw [checkAges_cons, List.all_cons]
    cases fresh nowUs maxAgeUs (c.senseTime i) with
    | false =>
      refine ⟨(c.stamped nowUs i).senseTime, ?_⟩
      rw [if_neg Bool.false_ne_true, Bool.false_and, stamped_eq]
    | true =>
      obtain ⟨time, htime⟩ := ih (c.stamped nowUs i)
      refine ⟨time, ?_⟩
      rw [if_pos rfl, Bool.true_and, htime]
      simp only [fresh_stamped]
      rw [stamped_eq]

/-- The four assignments overwrite all the sensor slots. -/
theorem assignSensors_eq (c : AutoParkingController) (t : Tick) : c.assignSensors t =
    { c with
      senseDist := t.dist
      senseTime := fun i => if t.stamps i ≠ 0 then t.stamps i else t.nowUs } := by
  simp only [assignSensors, assignSensor, mk.injEq, true_and]
  constructor
  · funext i
    match i with
    | 0 | 1 | 2 | 3 => rfl
  · funext i
    match i with
    | 0 | 1 | 2 | 3 => rfl

/-- **What a tick's sensor record does**: it replaces the sensor slots, and it is
ready exactly when `VehicleStack.Realtime.Tick.ready` says so. -/
theorem updateSensors_eq (c : AutoParkingController) (t : Tick) :
    ∃ time, c.updateSensors t =
      ({ c with sensorsReady := t.ready, senseDist := t.dist, senseTime := time }, t.ready) := by
  let stamps : Fin 4 → ℕ := fun i => if t.stamps i ≠ 0 then t.stamps i else t.nowUs
  have hfresh : ∀ i, fresh t.nowUs (t.sensorIntervalUs * 5) (stamps i) =
      fresh t.nowUs (t.sensorIntervalUs * 5) (t.stamps i) := by
    intro i
    by_cases hz : t.stamps i = 0
    · simp [stamps, hz, fresh]
    · simp [stamps, hz]
  have hleft : t.dist 1 = t.sensor.leftUltraMm := rfl
  have hrear : t.dist 3 = t.sensor.rearUltraMm := rfl
  by_cases hreads : 0 ≤ t.sensor.leftUltraMm ∧ 0 ≤ t.sensor.rearUltraMm
  · obtain ⟨time, hages⟩ := checkAges_eq t.nowUs (t.sensorIntervalUs * 5) [0, 1, 2, 3]
      { c with sensorsReady := true, senseDist := t.dist, senseTime := stamps }
    have hready : t.ready =
        [0, 1, 2, 3].all fun i => fresh t.nowUs (t.sensorIntervalUs * 5) (stamps i) := by
      simp only [hfresh]
      rw [Tick.ready, decide_eq_true hreads.1, decide_eq_true hreads.2, Bool.true_and,
        Bool.true_and]
    refine ⟨time, ?_⟩
    rw [hready]
    simp only [updateSensors, assignSensors_eq, hleft, hrear, decide_eq_true hreads, if_true]
    exact hages
  · have hready : t.ready = false := by
      rw [Tick.ready, ← Bool.decide_and, decide_eq_false hreads, Bool.false_and]
    refine ⟨stamps, ?_⟩
    simp only [updateSensors, assignSensors_eq, hleft, hrear, decide_eq_false hreads, hready,
      Bool.false_eq_true, if_false, stamps]

theorem updateSensors_snd (c : AutoParkingController) (t : Tick) :
    (c.updateSensors t).2 = t.ready := by
  obtain ⟨time, h⟩ := c.updateSensors_eq t
  rw [h]

variable (fl : ℚ → ℚ)

/-- **A tick without usable sensors** commands neutral and leaves the manoeuvre
where it was: only the sensor slots and the command change. -/
theorem step_of_not_ready {c : AutoParkingController} {t : Tick} (hc : c.active = true)
    (h : t.ready = false) : ∃ time, step fl c t =
      { c with
        sensorsReady := false
        senseDist := t.dist
        senseTime := time
        resultX := 50
        resultY := 50 } := by
  obtain ⟨time, hs⟩ := c.updateSensors_eq t
  refine ⟨time, ?_⟩
  rw [step, if_neg (by simp [hc]), hs, h]
  rfl

/-- **A tick with usable sensors** is `computeOutputs` on its distances. -/
theorem step_of_ready {c : AutoParkingController} {t : Tick} (hc : c.active = true)
    (h : t.ready = true) : ∃ time, step fl c t =
      computeOutputs fl
        { c with sensorsReady := true, senseDist := t.dist, senseTime := time } t.nowUs := by
  obtain ⟨time, hs⟩ := c.updateSensors_eq t
  refine ⟨time, ?_⟩
  rw [step, if_neg (by simp [hc]), hs, h]
  rfl

/-! ### Nothing begun, and something begun

Between two resets a controller has either not had a usable tick yet, and then
all but its sensor slots is as `reset` left it, or it has, and then it has
either a reference distance or left the search. -/

/-- No usable tick since the last reset. -/
def Pristine (c : AutoParkingController) : Prop :=
  ∃ ready dist time, c =
    { c.reset with sensorsReady := ready, senseDist := dist, senseTime := time }

/-- Some usable tick since the last reset. -/
def Begun (c : AutoParkingController) : Prop :=
  c.phase ≠ .spaceDetection ∨ c.wallReferenceInitialized = true

theorem pristine_start (c : AutoParkingController) : c.start.Pristine := ⟨_, _, _, rfl⟩

theorem pristine_stop (c : AutoParkingController) : c.stop.Pristine := ⟨_, _, _, rfl⟩

/-- An active controller that has not begun cannot be told from one just started:
every tick overwrites the sensor slots. -/
theorem Pristine.step_eq {c : AutoParkingController} (hc : c.Pristine) (hactive : c.active = true)
    (t : Tick) : step fl c t = step fl c.start t := by
  have hsensors : c.updateSensors t = c.start.updateSensors t := by
    obtain ⟨ready, dist, time, hc⟩ := hc
    rw [hc]
    simp only [updateSensors, assignSensors_eq, start, reset, hactive]
  have hstart : c.start.active = true := rfl
  unfold step
  rw [if_neg (by simp [hactive]), if_neg (by simp [hstart]), hsensors]

/-- A tick without usable sensors begins nothing. -/
theorem Pristine.step_of_not_ready {c : AutoParkingController} {t : Tick} (hc : c.Pristine)
    (hactive : c.active = true) (h : t.ready = false) : (step fl c t).Pristine := by
  obtain ⟨time, hstep⟩ := AutoParkingController.step_of_not_ready fl hactive h
  obtain ⟨_, _, _, hc⟩ := hc
  rw [hstep]
  exact ⟨false, t.dist, time, by rw [hc]; rfl⟩

/-- The search either goes on with a reference distance or ends. -/
theorem begun_searchOutputs {c : AutoParkingController} (nowUs : ℕ) (h : 0 ≤ c.senseDist 1) :
    (searchOutputs fl c nowUs).Begun ∧ (searchOutputs fl c nowUs).active = c.active := by
  obtain ⟨ref, init, s, hanalyze, hinit⟩ :=
    analyzeSpace_eq { c with resultX := 50, resultY := 70 } (c.senseDist 1)
  obtain ⟨start, stop, size, hprocess⟩ := processStateTransition_eq fl
    { c with
      resultX := 50
      resultY := 70
      wallReferenceDistanceMm := ref
      wallReferenceInitialized := init } s nowUs
  simp only [searchOutputs, detectParkingSpace, hanalyze, hprocess]
  split_ifs
  · exact ⟨Or.inl (by simp), rfl⟩
  · exact ⟨Or.inr (hinit h), rfl⟩

theorem alignOutputs_frame (c : AutoParkingController) :
    c.alignOutputs.phase = c.phase ∧ c.alignOutputs.active = c.active := by
  obtain ⟨ref, init, s, hanalyze, -⟩ := analyzeSpace_eq c (c.senseDist 1)
  simp only [alignOutputs, hanalyze]
  split_ifs <;> exact ⟨rfl, rfl⟩

theorem turnOutputs_frame (c : AutoParkingController) (h : c.phase = .parkingExecution) :
    c.turnOutputs.phase ≠ .spaceDetection ∧ c.turnOutputs.active = c.active := by
  simp only [turnOutputs]
  split_ifs <;> simp [h]

theorem begun_computeOutputs {c : AutoParkingController} (nowUs : ℕ) (h : 0 ≤ c.senseDist 1) :
    (computeOutputs fl c nowUs).Begun ∧ (computeOutputs fl c nowUs).active = c.active := by
  unfold computeOutputs
  cases hphase : c.phase with
  | spaceDetection => exact begun_searchOutputs fl nowUs h
  | parkingExecution =>
    by_cases hexec : c.executionState = 1
    · obtain ⟨hp, ha⟩ := c.alignOutputs_frame
      simp only [hexec, if_true]
      exact ⟨Or.inl (by simp [hp, hphase]), ha⟩
    · obtain ⟨hp, ha⟩ := c.turnOutputs_frame hphase
      simp only [hexec, if_false]
      exact ⟨Or.inl hp, ha⟩
  | completed => exact ⟨Or.inl (by simp), rfl⟩

/-- **A usable tick begins**, from whatever state. -/
theorem begun_step {c : AutoParkingController} {t : Tick} (hactive : c.active = true)
    (h : t.ready = true) : (step fl c t).Begun ∧ (step fl c t).active = true := by
  obtain ⟨time, hstep⟩ := step_of_ready fl hactive h
  obtain ⟨hbegun, ha⟩ := begun_computeOutputs fl
    (c := { c with sensorsReady := true, senseDist := t.dist, senseTime := time })
    t.nowUs (Tick.left_nonneg h)
  rw [hstep]
  exact ⟨hbegun, ha.trans hactive⟩

/-- What has begun stays so through a tick without usable sensors. -/
theorem Begun.step_of_not_ready {c : AutoParkingController} {t : Tick} (hc : c.Begun)
    (hactive : c.active = true) (h : t.ready = false) :
    (step fl c t).Begun ∧ (step fl c t).active = true := by
  obtain ⟨time, hstep⟩ := AutoParkingController.step_of_not_ready fl hactive h
  rw [hstep]
  exact ⟨hc, hactive⟩

end AutoParkingController

end Realtime

end VehicleStack
