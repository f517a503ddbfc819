import VehicleStack.Realtime.ControlLoop

/-!
# What a control cycle may command

Two statements about the output of `computeOutput`, in every state a run of the
loop can be in.

* `VehicleStack.Realtime.computeOutput_safetyEnvelope` – the safety envelope: the
  ranges of throttle and steer, the zero with the engine off, the brake at close
  range and the steering limit of assist mode.
* `VehicleStack.Realtime.neutralCycle_creeps` – the neutral command of the
  parking controller is the stick position `(50, 50)`, and
  `mapJoystickValue` scales `50` to one percent
  (`VehicleStack.Realtime.mapJoystickValue_neutral`) where the stick's own
  mappings scale it to zero. So every cycle in which parking commands neutral
  and nothing brakes publishes a throttle and a steer of one percent.
-/

namespace VehicleStack

namespace Realtime

open ControlLoop

/-- The loop after a run of cycles. -/
def ControlLoop.after (fl : ℚ → ℚ) (history : List ControlInputs) : ControlLoop :=
  Mealy.final (computeOutput fl) {} history

/-! ### The safety envelope -/

/-- **The safety envelope** of one cycle. -/
structure SafetyEnvelope (fl : ℚ → ℚ) (l : ControlLoop) (inputs : ControlInputs) : Prop where
  /-- Throttle and steer are percentages. -/
  throttle_mem : -100 ≤ (l.computeOutput fl inputs).2.throttle ∧
    (l.computeOutput fl inputs).2.throttle ≤ 100
  steer_mem : -100 ≤ (l.computeOutput fl inputs).2.steer ∧
    (l.computeOutput fl inputs).2.steer ≤ 100
  /-- With the engine off nothing drives and no lamp is lit. -/
  engineOff : inputs.engine = false →
    (l.computeOutput fl inputs).2.throttle = 0 ∧ (l.computeOutput fl inputs).2.steer = 0 ∧
    (l.computeOutput fl inputs).2.ledBackOn = false ∧
    (l.computeOutput fl inputs).2.ledFrontDownOn = false ∧
    (l.computeOutput fl inputs).2.ledFrontUpOn = false
  /-- With the engine on and something within 105 mm the car brakes and says so. -/
  brakes : inputs.engine = true → 0 ≤ inputs.sensor.frontTofMm →
    inputs.sensor.frontTofMm ≤ 105 →
    (l.computeOutput fl inputs).2.throttle = -100 ∧
    (l.computeOutput fl inputs).2.buzzerOn = true ∧
    (l.computeOutput fl inputs).2.frequency = 500 ∧
    (l.computeOutput fl inputs).2.ledBackOn = true
  /-- In assist mode the steering is limited unless the car brakes. -/
  assistSteer : inputs.engine = true → inputs.mode = .assist → l.aebEvent fl inputs = false →
    -80 ≤ (l.computeOutput fl inputs).2.steer ∧ (l.computeOutput fl inputs).2.steer ≤ 80

variable {fl : ℚ → ℚ} {l : ControlLoop} {inputs : ControlInputs}

/-- What the drive branch of an engine-on cycle leaves, from a zeroed output. -/
theorem driven_out (fl : ℚ → ℚ) (l : ControlLoop) (inputs : ControlInputs) : ∃ thr str,
    (l.driven fl inputs).2 = { initializeOutput {} with throttle := thr, steer := str } ∧
      -100 ≤ thr ∧ thr ≤ 100 ∧ -100 ≤ str ∧ str ≤ 100 :=
  drive_out

/-- **The ranges**, with the engine off, braking or driving. -/
theorem computeOutput_mem (l : ControlLoop) (inputs : ControlInputs) :
    (-100 ≤ (l.computeOutput fl inputs).2.throttle ∧
      (l.computeOutput fl inputs).2.throttle ≤ 100) ∧
    -100 ≤ (l.computeOutput fl inputs).2.steer ∧
      (l.computeOutput fl inputs).2.steer ≤ 100 := by
  obtain ⟨thr, str, hdriven, hthr, hthr', hstr, hstr'⟩ := driven_out fl l inputs
  by_cases he : inputs.engine = true
  · by_cases ha : l.aebEvent fl inputs = true
    · rw [computeOutput_of_aebEvent ha, hdriven]
      exact ⟨⟨by simp, by simp⟩, hstr, hstr'⟩
    · obtain ⟨buzzer, alert, freq, hout⟩ :=
        computeOutput_of_not_aebEvent he (Bool.eq_false_iff.mpr ha)
      rw [hout, hdriven]
      exact ⟨⟨hthr, hthr'⟩, hstr, hstr'⟩
  · obtain ⟨buzzer, alert, freq, hout⟩ :=
      computeOutput_of_engine_off fl l (Bool.eq_false_iff.mpr he)
    rw [hout]
    exact ⟨⟨by simp [initializeOutput], by simp [initializeOutput]⟩,
      by simp [initializeOutput], by simp [initializeOutput]⟩

/-- Something within 105 mm is an AEB event. -/
theorem aebEvent_of_near (he : inputs.engine = true) (h0 : 0 ≤ inputs.sensor.frontTofMm)
    (h : inputs.sensor.frontTofMm ≤ 105) : l.aebEvent fl inputs = true := by
  have hresolve : resolveFrontDistanceMm inputs.sensor = inputs.sensor.frontTofMm := by
    rw [resolveFrontDistanceMm, if_pos h0]
  rw [aebEvent, he, Bool.true_and, hresolve]
  exact AebController.update_of_near h0 h

/-- **Every cycle keeps the safety envelope**, whatever state the loop is in. -/
theorem computeOutput_safetyEnvelope (fl : ℚ → ℚ) (l : ControlLoop) (inputs : ControlInputs) :
    SafetyEnvelope fl l inputs := by
  constructor
  case throttle_mem => exact (computeOutput_mem l inputs).1
  case steer_mem => exact (computeOutput_mem l inputs).2
  case engineOff =>
    intro he
    obtain ⟨buzzer, alert, freq, hout⟩ := computeOutput_of_engine_off fl l he
    rw [hout]
    exact ⟨rfl, rfl, rfl, rfl, rfl⟩
  case brakes =>
    intro he h0 h
    rw [computeOutput_of_aebEvent (aebEvent_of_near he h0 h)]
    exact ⟨rfl, rfl, rfl, rfl⟩
  case assistSteer =>
    intro he hmode ha
    obtain ⟨buzzer, alert, freq, hout⟩ := computeOutput_of_not_aebEvent he ha
    rw [hout]
    exact drive_steer_of_assist hmode

/-! ### Driving by the stick -/

/-- **Outside automatic mode the stick drives**: an engine-on cycle without an AEB event
commands what the stick's mappings say, the steer limited in assist mode. -/
theorem computeOutput_of_stick (he : inputs.engine = true) (hmode : inputs.mode ≠ .auto)
    (ha : l.aebEvent fl inputs = false) :
    (l.computeOutput fl inputs).2.throttle = mapJoyToThrottle inputs.joy.y ∧
      (l.computeOutput fl inputs).2.steer =
        if inputs.mode = .assist then clamp (mapJoyToSteer inputs.joy.x) (-80) 80
        else mapJoyToSteer inputs.joy.x := by
  have hparks : ∀ l : ControlLoop, ¬l.parks inputs = true := by
    intro l
    simp [parks, hmode]
  have hthr : ∀ y, clamp (mapJoyToThrottle y) (-100) 100 = mapJoyToThrottle y := fun y =>
    clamp_of_mem (le_clamp (by decide)) (clamp_le (by decide))
  have hstr : ∀ x, clamp (mapJoyToSteer x) (-100) 100 = mapJoyToSteer x := fun x =>
    clamp_of_mem (le_clamp (by decide)) (clamp_le (by decide))
  obtain ⟨buzzer, alert, freq, hout⟩ := computeOutput_of_not_aebEvent he ha
  rw [hout]
  simp only [lamps, driven, drive, if_neg (hparks _)]
  refine ⟨hthr _, ?_⟩
  split_ifs
  · have hlo := @le_clamp (mapJoyToSteer inputs.joy.x) (-80) 80 (by decide)
    have hhi := @clamp_le (mapJoyToSteer inputs.joy.x) (-80) 80 (by decide)
    exact clamp_of_mem (by omega) (by omega)
  · exact hstr _

/-! ### The neutral command -/

/-- An engine-on cycle in automatic mode without an AEB event, in which the
parking controller's command is the neutral pair. -/
def NeutralCycle (fl : ℚ → ℚ) (l : ControlLoop) (inputs : ControlInputs) : Prop :=
  inputs.engine = true ∧ inputs.mode = .auto ∧ l.aebEvent fl inputs = false ∧
    (l.driven fl inputs).1.aps.command = (50, 50)

/-- In automatic mode the parking controller is the one that drives. -/
theorem parks_updateAutoParkingState (l : ControlLoop) (hmode : inputs.mode = .auto) :
    (l.updateAutoParkingState true inputs.mode).parks inputs = true := by
  have hstart : ∀ c : AutoParkingController, c.start.active = true := fun _ => rfl
  rw [parks, hmode, decide_eq_true rfl, Bool.true_and]
  unfold updateAutoParkingState
  by_cases hlast : l.lastMode = .auto
  · cases hactive : l.aps.active with
    | true => simp [hlast, hactive]
    | false => simp [hlast, hactive, hstart]
  · simp [hlast, hstart]

/-- In automatic mode the drive branch publishes the scaled command. -/
theorem driven_of_auto (fl : ℚ → ℚ) (l : ControlLoop) (he : inputs.engine = true)
    (hmode : inputs.mode = .auto) :
    (l.driven fl inputs).2.throttle = (l.driven fl inputs).1.aps.throttlePercent ∧
      (l.driven fl inputs).2.steer = (l.driven fl inputs).1.aps.steerPercent := by
  have hp := parks_updateAutoParkingState (l.handleDoorLockTransition inputs) hmode
  rw [driven, he, drive, if_pos hp]
  exact ⟨rfl, rfl⟩

/-- **A neutral cycle creeps**: it publishes one percent of throttle and of steer. -/
theorem computeOutput_of_neutralCycle (h : NeutralCycle fl l inputs) :
    (l.computeOutput fl inputs).2.throttle = 1 ∧ (l.computeOutput fl inputs).2.steer = 1 := by
  obtain ⟨he, hmode, ha, hneutral⟩ := h
  obtain ⟨hthr, hstr⟩ := driven_of_auto fl l he hmode
  obtain ⟨hx, hy⟩ := Prod.mk.inj hneutral
  obtain ⟨buzzer, alert, freq, hout⟩ := computeOutput_of_not_aebEvent he ha
  rw [hout]
  constructor
  · exact hthr.trans (by rw [AutoParkingController.throttlePercent, hy]; decide)
  · exact hstr.trans (by rw [AutoParkingController.steerPercent, hx]; decide)

/-- `50 * 200 / 99` is `101`. The stick's own mappings take its middle to zero. -/
example : AutoParkingController.mapJoystickValue 50 = 1 ∧
    mapJoyToThrottle 50 = 0 ∧ mapJoyToSteer 50 = 0 := by
  decide

/-- Neutral is neutral along a run: every neutral cycle of it publishes zero. -/
def NeutralIsZero (fl : ℚ → ℚ) (run : List ControlInputs) : Prop :=
  ∀ n inputs, run[n]? = some inputs → NeutralCycle fl (after fl (run.take n)) inputs →
    ((after fl (run.take n)).computeOutput fl inputs).2.throttle = 0 ∧
      ((after fl (run.take n)).computeOutput fl inputs).2.steer = 0

/-- **Neutral is never neutral in automatic parking.** In every run, every neutral
cycle publishes one percent of throttle and of steer; so neutral is zero along a
run only if the run has no neutral cycle at all. -/
theorem neutralCycle_creeps (fl : ℚ → ℚ) (run : List ControlInputs) :
    (∀ n inputs, run[n]? = some inputs → NeutralCycle fl (after fl (run.take n)) inputs →
      ((after fl (run.take n)).computeOutput fl inputs).2.throttle = 1 ∧
        ((after fl (run.take n)).computeOutput fl inputs).2.steer = 1) ∧
    (NeutralIsZero fl run ↔
      ∀ n inputs, run[n]? = some inputs → ¬NeutralCycle fl (after fl (run.take n)) inputs) := by
  refine ⟨fun n inputs _ hc => computeOutput_of_neutralCycle hc, ?_, ?_⟩
  · intro hzero n inputs hn hc
    have hone := (computeOutput_of_neutralCycle hc).1
    have h0 := (hzero n inputs hn hc).1
    omega
  · exact fun hnone n inputs hn hc => absurd hc (hnone n inputs hn)

/-- An engine-on automatic cycle before any sensor has reported. -/
def blindCycle : ControlInputs where
  engine := true
  mode := .auto
  sensor := { frontTofMm := -1, leftUltraMm := -1, rightUltraMm := -1, rearUltraMm := -1 }

theorem blindCycle_creeps : ¬∀ fl run, NeutralIsZero fl run := by
  intro h
  have hneutral : NeutralCycle id (after id []) blindCycle :=
    ⟨rfl, rfl, rfl, rfl⟩
  have hone := (computeOutput_of_neutralCycle hneutral).1
  have hzero := (h id [blindCycle] 0 blindCycle rfl hneutral).1
  exact absurd (hone.symm.trans hzero) (by decide)

end Realtime

end VehicleStack
