import VehicleStack.Realtime.Parking

/-!
# The control loop

`ControlLoop` of `control_thread.cpp` and the small controllers it calls each
cycle. `computeOutput` fills one `ControlOutput` in stages that overwrite each
other's fields: the door chirp timer is looked at, the output is zeroed, with
the engine off that is nearly all, and otherwise the parking controller or the
stick drives, the lamps are set, emergency braking overrides, and the door
chirp is laid over what is left. Each stage is a definition of its own, so that
what a stage can change is a short lemma about it.

The braking distance is computed in `long long` and goes through `unsigned int`
and back to `int`, which is `Int.bmod` by `2^32`.
-/

namespace VehicleStack

namespace Realtime

/-! ### Emergency braking -/

/-- `AebController::State`. -/
inductive AebState where
  | normal
  | emergency
  deriving DecidableEq

/-- `AebController`. -/
structure AebController where
  state : AebState := .normal

namespace AebController

/-- `kToleranceMm`. -/
def toleranceMm : ℤ := 5

/-- `kEmergencyThresholdMm`. -/
def emergencyThresholdMm : ℤ := 100

/-- `kCoeffA`, `kCoeffB` and `kCoeffC`. -/
def coeffA : ℤ := -27
def coeffB : ℤ := 6496
def coeffC : ℤ := -112642

/-- `kSpeedDivider`. -/
def speedDivider : ℤ := 1000

/-- `static_cast<int>` of the `unsigned int` the braking distance is kept in. -/
def brakingDistance (forwardSpeed : ℤ) : ℤ :=
  let speedSq := forwardSpeed * forwardSpeed
  let numerator := coeffA * speedSq + coeffB * forwardSpeed + coeffC
  let numerator := if numerator < 0 then 0 else numerator
  (numerator.tdiv speedDivider).bmod (2 ^ 32)

/-- `AebController::update`. -/
def update (c : AebController) (distanceMm forwardSpeed : ℤ) : AebController × Bool :=
  if distanceMm < 0 then ({ c with state := .normal }, false)
  else if distanceMm ≤ emergencyThresholdMm + toleranceMm then
    ({ c with state := .emergency }, true)
  else if forwardSpeed ≤ 0 then ({ c with state := .normal }, false)
  else
    let c := if distanceMm ≤ brakingDistance forwardSpeed + emergencyThresholdMm then
      { c with state := .emergency } else { c with state := .normal }
    (c, decide (c.state = .emergency))

/-- Within the emergency threshold and its tolerance the controller brakes at any
speed. -/
theorem update_of_near {c : AebController} {d v : ℤ} (h0 : 0 ≤ d) (h : d ≤ 105) :
    (c.update d v).2 = true := by
  have hnear : d ≤ emergencyThresholdMm + toleranceMm := h
  rw [update, if_neg (by omega), if_pos hnear]

end AebController

/-! ### High beam -/

/-- `HighBeamAssist::shouldEnableFrontHighBeam`. -/
def shouldEnableFrontHighBeam (sensor : SensorData) : Bool :=
  if sensor.ambientLux < 0 then false else decide (sensor.ambientLux < 50)

/-- `resolve_front_distance_mm`. -/
def resolveFrontDistanceMm (sen : SensorData) : ℤ :=
  if 0 ≤ sen.frontTofMm then sen.frontTofMm else -1

/-! ### The stick -/

/-- `map_joy_to_throttle`. -/
def mapJoyToThrottle (y : ℤ) : ℤ := clamp ((y - 50) * 2) (-100) 100

/-- `map_joy_to_steer`. -/
def mapJoyToSteer (x : ℤ) : ℤ := clamp ((x - 50) * 2) (-100) 100

/-! ### The loop -/

/-- `ControlLoop::ControlInputs`. -/
structure ControlInputs where
  engine : Bool := false
  doorLocked : Bool := false
  mode : ControlMode := .assist
  joy : JoystickData := {}
  sensor : SensorData := {}
  nowMs : ℕ := 0

/-- `ControlLoop::DoorBuzzerState`. -/
inductive DoorBuzzerState where
  | idle
  | lowTone
  | highTone
  deriving DecidableEq

/-- `ControlLoop`. -/
structure ControlLoop where
  aps : AutoParkingController := {}
  aeb : AebController := {}
  lastMode : ControlMode := .assist
  doorStateInitialized : Bool := false
  lastDoorLocked : Bool := false
  doorBuzzerState : DoorBuzzerState := .idle
  doorBuzzerStateUntilMs : ℕ := 0
  doorBuzzerPendingHigh : Bool := false

/-- `kSensorIntervalUs`. -/
def sensorIntervalUs : ℕ := 20 * 1000

/-- `kAebBuzzerFreqHz`, `kDoorChirpLowFreqHz` and `kDoorChirpHighFreqHz`. -/
def aebBuzzerFreqHz : ℤ := 500
def doorChirpLowFreqHz : ℤ := 350
def doorChirpHighFreqHz : ℤ := 900

/-- `kDoorChirpDurationMs`. -/
def doorChirpDurationMs : ℕ := 180

namespace ControlLoop

/-- `snapshotInputs`: what a cycle sees of the shared record. -/
def snapshotInputs (nowMs : ℕ) (shared : SharedData) : ControlInputs where
  engine := shared.engineOn
  doorLocked := shared.doorLocked
  mode := shared.mode
  joy := shared.joy
  sensor := shared.sensor
  nowMs := nowMs

/-- `initializeOutput`. -/
def initializeOutput (out : ControlOutput) : ControlOutput :=
  { out with
    buzzerOn := false
    frequency := 0
    alertIntervalMs := -1
    throttle := 0
    steer := 0
    ledBackOn := false
    ledFrontDownOn := false
    ledFrontUpOn := false }

/-- `updateAutoParkingState`. -/
def updateAutoParkingState (l : ControlLoop) (engineOn : Bool) (mode : ControlMode) :
    ControlLoop :=
  if ¬engineOn then { l with aps := l.aps.stop }
  else
    let l := if mode = .auto ∧ l.lastMode ≠ .auto then { l with aps := l.aps.start }
      else if l.lastMode = .auto ∧ mode ≠ .auto then { l with aps := l.aps.stop }
      else l
    if mode = .auto ∧ ¬l.aps.active then { l with aps := l.aps.start } else l

/-- `handleDoorLockTransition`. -/
def handleDoorLockTransition (l : ControlLoop) (inputs : ControlInputs) : ControlLoop :=
  if ¬l.doorStateInitialized then
    { l with lastDoorLocked := inputs.doorLocked, doorStateInitialized := true }
  else if inputs.doorLocked ≠ l.lastDoorLocked then
    { l with
      lastDoorLocked := inputs.doorLocked
      doorBuzzerState := .lowTone
      doorBuzzerPendingHigh := true
      doorBuzzerStateUntilMs := inputs.nowMs + doorChirpDurationMs }
  else l

/-- The timer of `applyDoorLockFeedback`: a low tone that has run its time is
followed by a high one, and that by silence. -/
def advanceDoorBuzzer (l : ControlLoop) (nowMs : ℕ) : ControlLoop :=
  if nowMs < l.doorBuzzerStateUntilMs then l
  else if l.doorBuzzerState = .lowTone ∧ l.doorBuzzerPendingHigh then
    { l with
      doorBuzzerState := .highTone
      doorBuzzerPendingHigh := false
      doorBuzzerStateUntilMs := nowMs + doorChirpDurationMs }
  else
    { l with
      doorBuzzerState := .idle
      doorBuzzerStateUntilMs := 0
      doorBuzzerPendingHigh := false }

/-- `applyDoorLockFeedback`. -/
def applyDoorLockFeedback (l : ControlLoop) (inputs : ControlInputs) (out : ControlOutput) :
    ControlLoop × ControlOutput :=
  if l.doorBuzzerState = .idle then (l, out)
  else
    let l := l.advanceDoorBuzzer inputs.nowMs
    if l.doorBuzzerState = .idle then (l, out)
    else if ¬out.buzzerOn then
      (l, { out with
        buzzerOn := true
        alertIntervalMs := 0
        frequency := if l.doorBuzzerState = .lowTone then doorChirpLowFreqHz
          else doorChirpHighFreqHz })
    else (l, out)

variable (fl : ℚ → ℚ)

/-- The tick `computeOutput` gives the parking controller. -/
def parkingTick (inputs : ControlInputs) : Tick where
  nowUs := inputs.nowMs * 1000
  sensor := inputs.sensor
  sensorIntervalUs := sensorIntervalUs

/-- The parking controller drives this cycle. -/
def parks (l : ControlLoop) (inputs : ControlInputs) : Bool :=
  decide (inputs.mode = .auto) && l.aps.active

/-- `computeOutput`, the branch that sets throttle and steer. -/
def drive (l : ControlLoop) (inputs : ControlInputs) (out : ControlOutput) :
    ControlLoop × ControlOutput :=
  if l.parks inputs then
    let aps := l.aps.step fl (parkingTick inputs)
    ({ l with aps := aps },
      { out with throttle := aps.throttlePercent, steer := aps.steerPercent })
  else
    let thr := mapJoyToThrottle inputs.joy.y
    let str := mapJoyToSteer inputs.joy.x
    let str := if inputs.mode = .assist then clamp str (-80) 80 else str
    (l, { out with throttle := clamp thr (-100) 100, steer := clamp str (-100) 100 })

/-- `computeOutput`, the lamps. -/
def lamps (inputs : ControlInputs) (out : ControlOutput) : ControlOutput :=
  { out with
    ledFrontUpOn := inputs.engine && shouldEnableFrontHighBeam inputs.sensor
    ledFrontDownOn := inputs.engine }

/-- `computeOutput`, the call of the emergency brake and what follows from it. -/
def emergencyBrake (l : ControlLoop) (inputs : ControlInputs) (out : ControlOutput) :
    ControlLoop × ControlOutput :=
  let frontDistanceMm := resolveFrontDistanceMm inputs.sensor
  let forwardSpeed := max out.throttle 0
  let (aeb, brakes) := l.aeb.update frontDistanceMm forwardSpeed
  let l := { l with aeb := aeb }
  if brakes then
    (l, { out with
      buzzerOn := true
      frequency := aebBuzzerFreqHz
      alertIntervalMs := 0
      throttle := -100
      ledBackOn := true })
  else (l, out)

/-- The loop and the output of an engine-on cycle once the drive branch is
through. -/
def driven (l : ControlLoop) (inputs : ControlInputs) : ControlLoop × ControlOutput :=
  drive fl (updateAutoParkingState (l.handleDoorLockTransition inputs) inputs.engine inputs.mode)
    inputs (initializeOutput {})

/-- `computeOutput`. -/
def computeOutput (l : ControlLoop) (inputs : ControlInputs) : ControlLoop × ControlOutput :=
  if ¬inputs.engine then
    let l := l.handleDoorLockTransition inputs
    let (l, out) := l.applyDoorLockFeedback inputs (initializeOutput {})
    ({ l with lastMode := inputs.mode }, out)
  else
    let (l, out) := l.driven fl inputs
    let out := lamps inputs out
    let (l, out) := l.emergencyBrake inputs out
    let (l, out) := l.applyDoorLockFeedback inputs out
    ({ l with lastMode := inputs.mode }, out)

/-- An AEB event: the emergency brake answers `true` in this cycle. -/
def aebEvent (l : ControlLoop) (inputs : ControlInputs) : Bool :=
  inputs.engine && ((l.driven fl inputs).1.aeb.update (resolveFrontDistanceMm inputs.sensor)
    (max (l.driven fl inputs).2.throttle 0)).2

/-! ### What each stage can change -/

variable {fl} {l : ControlLoop} {inputs : ControlInputs} {out : ControlOutput}

/-- The chirp timer runs beside the drive: it moves nothing else. -/
theorem advanceDoorBuzzer_aps (nowMs : ℕ) : (l.advanceDoorBuzzer nowMs).aps = l.aps := by
  unfold advanceDoorBuzzer
  split_ifs <;> rfl

theorem applyDoorLockFeedback_aps : (l.applyDoorLockFeedback inputs out).1.aps = l.aps := by
  unfold applyDoorLockFeedback
  by_cases hidle : l.doorBuzzerState = .idle
  · rw [if_pos hidle]
  · simp only [if_neg hidle]
    split_ifs <;> exact advanceDoorBuzzer_aps _

/-- **The chirp is laid over the buzzer fields only**, and not at all over a
buzzer that is already on. -/
theorem applyDoorLockFeedback_out (l : ControlLoop) (inputs : ControlInputs)
    (out : ControlOutput) : ∃ buzzer alert freq,
    (l.applyDoorLockFeedback inputs out).2 =
      { out with buzzerOn := buzzer, alertIntervalMs := alert, frequency := freq } ∧
    (out.buzzerOn = true → (l.applyDoorLockFeedback inputs out).2 = out) := by
  unfold applyDoorLockFeedback
  by_cases hidle : l.doorBuzzerState = .idle
  · rw [if_pos hidle]
    exact ⟨_, _, _, rfl, fun _ => rfl⟩
  · simp only [if_neg hidle]
    by_cases hidle' : (l.advanceDoorBuzzer inputs.nowMs).doorBuzzerState = .idle
    · rw [if_pos hidle']
      exact ⟨_, _, _, rfl, fun _ => rfl⟩
    · rw [if_neg hidle']
      by_cases hbuzz : out.buzzerOn = true
      · rw [if_neg (not_not.mpr hbuzz)]
        exact ⟨_, _, _, rfl, fun _ => rfl⟩
      · rw [if_pos hbuzz]
        exact ⟨_, _, _, rfl, fun h => absurd h hbuzz⟩

/-- A chirping door leaves the parking controller alone. -/
theorem handleDoorLockTransition_aps : (l.handleDoorLockTransition inputs).aps = l.aps := by
  unfold handleDoorLockTransition
  split_ifs <;> rfl

theorem handleDoorLockTransition_lastMode :
    (l.handleDoorLockTransition inputs).lastMode = l.lastMode := by
  unfold handleDoorLockTransition
  split_ifs <;> rfl

/-- The stick and the parking controller both stay within a hundred percent. -/
theorem mapJoystickValue_mem (value : ℤ) :
    -100 ≤ AutoParkingController.mapJoystickValue value ∧
      AutoParkingController.mapJoystickValue value ≤ 100 := by
  have hlo : 0 ≤ clamp value 0 99 := le_clamp (by omega)
  have hhi : clamp value 0 99 ≤ 99 := clamp_le (by omega)
  rw [AutoParkingController.mapJoystickValue, Int.tdiv_eq_ediv_of_nonneg (by omega)]
  omega

/-- **The drive branch** commands throttle and steer within a hundred percent and
sets nothing else of the output. -/
theorem drive_out : ∃ thr str, (l.drive fl inputs out).2 =
    { out with throttle := thr, steer := str } ∧
    -100 ≤ thr ∧ thr ≤ 100 ∧ -100 ≤ str ∧ str ≤ 100 := by
  unfold drive
  by_cases hp : l.parks inputs = true
  · rw [if_pos hp]
    have hthr := mapJoystickValue_mem (l.aps.step fl (parkingTick inputs)).resultY
    have hstr := mapJoystickValue_mem (l.aps.step fl (parkingTick inputs)).resultX
    exact ⟨_, _, rfl, hthr.1, hthr.2, hstr.1, hstr.2⟩
  · rw [if_neg hp]
    exact ⟨_, _, rfl, le_clamp (by omega), clamp_le (by omega), le_clamp (by omega),
      clamp_le (by omega)⟩

/-- Outside automatic parking in assist mode the stick steers by at most eighty
percent. -/
theorem drive_steer_of_assist (h : inputs.mode = .assist) :
    -80 ≤ (l.drive fl inputs out).2.steer ∧ (l.drive fl inputs out).2.steer ≤ 80 := by
  have hp : ¬l.parks inputs = true := by simp [parks, h]
  have hlo := @le_clamp (mapJoyToSteer inputs.joy.x) (-80) 80 (by omega)
  have hhi := @clamp_le (mapJoyToSteer inputs.joy.x) (-80) 80 (by omega)
  unfold drive
  rw [if_neg hp]
  simp only [if_pos h]
  rw [clamp_of_mem (by omega) (by omega)]
  exact ⟨hlo, hhi⟩

/-- **A cycle with the engine off** leaves the zeroed output and lays the chirp
over it. -/
theorem computeOutput_of_engine_off (fl : ℚ → ℚ) (l : ControlLoop)
    (h : inputs.engine = false) : ∃ buzzer alert freq,
    (l.computeOutput fl inputs).2 =
      { initializeOutput {} with
        buzzerOn := buzzer, alertIntervalMs := alert, frequency := freq } := by
  obtain ⟨buzzer, alert, freq, hout, -⟩ := applyDoorLockFeedback_out
    (l.handleDoorLockTransition inputs) inputs (initializeOutput {})
  refine ⟨buzzer, alert, freq, ?_⟩
  rw [computeOutput, if_pos (by simp [h])]
  exact hout

/-- **A cycle with the engine on and no AEB event** keeps the throttle and the
steer of the drive branch. -/
theorem computeOutput_of_not_aebEvent (h : inputs.engine = true)
    (ha : l.aebEvent fl inputs = false) : ∃ buzzer alert freq,
    (l.computeOutput fl inputs).2 =
      { lamps inputs (l.driven fl inputs).2 with
        buzzerOn := buzzer, alertIntervalMs := alert, frequency := freq } := by
  have hbrakes : ((l.driven fl inputs).1.aeb.update (resolveFrontDistanceMm inputs.sensor)
      (max (l.driven fl inputs).2.throttle 0)).2 = false := by
    rwa [aebEvent, h, Bool.true_and] at ha
  have hbrake : ((l.driven fl inputs).1.emergencyBrake inputs
      (lamps inputs (l.driven fl inputs).2)).2 = lamps inputs (l.driven fl inputs).2 := by
    simp only [emergencyBrake, lamps, hbrakes, Bool.false_eq_true, if_false]
  obtain ⟨buzzer, alert, freq, hout, -⟩ := applyDoorLockFeedback_out
    ((l.driven fl inputs).1.emergencyBrake inputs (lamps inputs (l.driven fl inputs).2)).1
    inputs (lamps inputs (l.driven fl inputs).2)
  refine ⟨buzzer, alert, freq, ?_⟩
  rw [← hout, computeOutput, if_neg (by simp [h])]
  simp only [hbrake]

/-- **A cycle with an AEB event** brakes, whatever the drive branch said, and the
chirp cannot change that. -/
theorem computeOutput_of_aebEvent (ha : l.aebEvent fl inputs = true) :
    (l.computeOutput fl inputs).2 =
      { lamps inputs (l.driven fl inputs).2 with
        buzzerOn := true
        frequency := aebBuzzerFreqHz
        alertIntervalMs := 0
        throttle := -100
        ledBackOn := true } := by
  rw [aebEvent, Bool.and_eq_true] at ha
  obtain ⟨h, hbrakes⟩ := ha
  have hbrake : ((l.driven fl inputs).1.emergencyBrake inputs
      (lamps inputs (l.driven fl inputs).2)).2 =
        { lamps inputs (l.driven fl inputs).2 with
          buzzerOn := true
          frequency := aebBuzzerFreqHz
          alertIntervalMs := 0
          throttle := -100
          ledBackOn := true } := by
    simp only [emergencyBrake, lamps, hbrakes, if_true]
  obtain ⟨buzzer, alert, freq, -, hout⟩ := applyDoorLockFeedback_out
    ((l.driven fl inputs).1.emergencyBrake inputs (lamps inputs (l.driven fl inputs).2)).1 inputs
    ((l.driven fl inputs).1.emergencyBrake inputs (lamps inputs (l.driven fl inputs).2)).2
  rw [← hbrake, ← hout (by rw [hbrake]), computeOutput, if_neg (by simp [h])]

end ControlLoop

end Realtime

end VehicleStack
