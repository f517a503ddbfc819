import VehicleStack.Ecu.Uds
import VehicleStack.Readers.Measurement

/-!
# Diagnostic reads of the sensors

The diagnostic service `0x22`, of the sensors. It takes a measurement that is not there for
a failure of the sensor, says so in its answer and stores a trouble code. A read as it
comes in is `VehicleStack.Ecu.SensorRead`, and what it does is
`VehicleStack.Ecu.SensorRead.serve_eq`.
-/

namespace VehicleStack

namespace Ecu

/-! ### The diagnostic reads -/

/-- `senVal`. -/
def Reading.senVal : Reading → ℕ
  | ultrasonic d => d.senVal
  | tof d => d.senVal

/-- The answer to a read of a sensor. -/
def Diagnostics.answerRead (d : Diagnostics) (senVal : Option ℕ) :
    SensorId → Diagnostics × List Frame
  | .ultrasonic side =>
    d.sensorResponse 0x00 (SensorId.ultrasonic side).did senVal d.sensorThresholds.ultraMinMm
      d.sensorThresholds.ultraMaxMm
      (match side with | .left => 0x010100 | .right => 0x010110 | .rear => 0x010120)
      (match side with | .left => 0x010101 | .right => 0x010111 | .rear => 0x010121)
  | .tof =>
    d.sensorResponse 0x00 SensorId.tof.did senVal d.sensorThresholds.tofMinMm
      d.sensorThresholds.tofMaxMm 0x010200 0x010201

namespace EcuState

/-- The sensors of the ECU. -/
def sensors (s : EcuState) : Sensors := { tof := s.tof, ultrasonic := s.ultrasonic }

/-- The ECU with other sensors. -/
def withSensors (s : EcuState) (x : Sensors) : EcuState :=
  { s with tof := x.tof, ultrasonic := x.ultrasonic }

/-- What is read of a sensor. -/
def senVal (s : EcuState) (k : SensorId) : Option ℕ :=
  if s.sensors.ready k then some (s.sensors.latest k).senVal else none

theorem readUltrasonic_eq (s : EcuState) (side : UltrasonicSide) (sideIndex : ℕ)
    (hindex : ∀ senVal, s.diag.answerRead senVal (.ultrasonic side) =
      s.diag.sensorResponse 0x00 (SensorId.ultrasonic side).did senVal
        s.diag.sensorThresholds.ultraMinMm s.diag.sensorThresholds.ultraMaxMm
        (0x010100 + sideIndex * 0x10) (0x010100 + sideIndex * 0x10 + 1)) :
    s.readUltrasonic 0x00 (SensorId.ultrasonic side).did side sideIndex =
      ({ s.withSensors (s.sensors.asked fun k => k = .ultrasonic side) with
          diag := (s.diag.answerRead (s.senVal (.ultrasonic side)) (.ultrasonic side)).1 },
        (s.diag.answerRead (s.senVal (.ultrasonic side)) (.ultrasonic side)).2) := by
  have hlatest := s.sensors.getLatestData_ultrasonic side
  have hvalue : (if s.sensors.ready (.ultrasonic side) then
      some (s.sensors.ultrasonic.sensor side).latestData else none).map UltrasonicData.senVal =
      s.senVal (.ultrasonic side) := by
    rw [senVal]
    split <;> rfl
  have htof := s.sensors.tof_asked_ultrasonic (fun k => k = .ultrasonic side) rfl
  change s.ultrasonic.getLatestData side = _ at hlatest
  rw [readUltrasonic, hindex, withSensors, htof]
  simp only [hlatest, hvalue]
  rfl

theorem readToF_eq (s : EcuState) : s.readToF 0x00 SensorId.tof.did =
    ({ s.withSensors (s.sensors.asked fun k => k = .tof) with
        diag := (s.diag.answerRead (s.senVal .tof) .tof).1 },
      (s.diag.answerRead (s.senVal .tof) .tof).2) := by
  have hlatest := s.sensors.getLatestData_tof
  have hvalue : (if s.sensors.ready .tof then some s.sensors.tof.latestData else none).map
      ToFData.senVal = s.senVal .tof := by
    rw [senVal]
    split <;> rfl
  have hultrasonic := s.sensors.ultrasonic_asked_tof (fun k => k = .tof) fun _ => rfl
  change s.tof.getLatestData = _ at hlatest
  rw [readToF, withSensors, hultrasonic]
  simp only [hlatest, hvalue]
  rfl

/-- **A read of a sensor** asks it, and answers by what it got. -/
theorem readDataByIdentifier_did (s : EcuState) (k : SensorId) :
    s.readDataByIdentifier 0x00 k.did =
      ({ s.withSensors (s.sensors.asked fun k' => k' = k) with
          diag := (s.diag.answerRead (s.senVal k) k).1 },
        (s.diag.answerRead (s.senVal k) k).2) := by
  cases k with
  | ultrasonic side =>
    cases side with
    | left => exact readUltrasonic_eq s .left 0 fun _ => rfl
    | right => exact readUltrasonic_eq s .right 1 fun _ => rfl
    | rear => exact readUltrasonic_eq s .rear 2 fun _ => rfl
  | tof => exact readToF_eq s

end EcuState

/-- A sensor that has nothing new is answered for by another response than one that has. -/
theorem Diagnostics.answerRead_none_ne (d : Diagnostics) (senVal : ℕ) (k : SensorId) :
    (d.answerRead none k).2 ≠ (d.answerRead (some senVal) k).2 := by
  have hfirst : ∀ (didH didL : UInt8) (min max : UInt16) (timeout outOfRange : ℕ),
      (d.sensorResponse didH didL none min max timeout outOfRange).2 ≠
        (d.sensorResponse didH didL (some senVal) min max timeout outOfRange).2 := by
    intro didH didL min max timeout outOfRange heq
    have hlength := congrArg (List.map fun f : Frame => f.data.cells.head?) heq
    cases hlength
  cases k with
  | ultrasonic side => exact hfirst _ _ _ _ _ _
  | tof => exact hfirst _ _ _ _ _ _

/-- A read of a sensor, as it comes in. -/
structure SensorRead where
  frame : Frame
  sensor : SensorId
  isSingle : frame.IsSingle
  sid : frame.data.get 1 = 0x22
  didH : frame.data.get 2 = 0x00
  didL : frame.data.get 3 = sensor.did

theorem SensorRead.canRxIsrHandler_eq (r : SensorRead) (s : EcuState) :
    s.canRxIsrHandler r.frame = some (s.readDataByIdentifier 0x00 r.sensor.did) := by
  rw [EcuState.canRxIsrHandler_of_isSingle s r.isSingle, EcuState.singleFrame_read s _ r.sid,
    r.didH, r.didL]

/-- What `Can_RxIsrHandler` does with it, which is never nothing. -/
def SensorRead.serve (r : SensorRead) (s : EcuState) : EcuState × List Frame :=
  (s.canRxIsrHandler r.frame).get (r.canRxIsrHandler_eq s ▸ rfl)

theorem SensorRead.serve_eq (r : SensorRead) (s : EcuState) : r.serve s =
    ({ s.withSensors (s.sensors.asked fun k => k = r.sensor) with
        diag := (s.diag.answerRead (s.senVal r.sensor) r.sensor).1 },
      (s.diag.answerRead (s.senVal r.sensor) r.sensor).2) := by
  rw [← EcuState.readDataByIdentifier_did]
  exact Option.get_of_eq_some _ (r.canRxIsrHandler_eq s)

end Ecu

end VehicleStack
