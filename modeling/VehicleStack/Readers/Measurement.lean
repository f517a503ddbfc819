import VehicleStack.Ecu.SensorService

/-!
# Measurements that are handed on once

The ultrasonic sensors and the time-of-flight sensor hand a measurement on once. This file
looks at them alike (`VehicleStack.Ecu.SensorId`, `VehicleStack.Ecu.Reading`), and compares
sensors whose measurements have been taken by somebody with the same sensors if nobody had
taken them (`VehicleStack.Ecu.Sensors.restore`). What the sensors do is the same for both
(`VehicleStack.Ecu.Sensors.step_restore`), and asking them is
`VehicleStack.Ecu.Sensors.asked`.
-/

namespace VehicleStack

namespace Ecu

/-! ### The sensors, seen alike -/

/-- The sensors that hand a measurement on once. -/
inductive SensorId where
  | ultrasonic (side : UltrasonicSide)
  | tof
  deriving DecidableEq

/-- A measurement of one of them. -/
inductive Reading where
  | ultrasonic (d : UltrasonicData)
  | tof (d : ToFData)
  deriving DecidableEq

/-- The identifier a sensor is read under, in its low byte. -/
def SensorId.did : SensorId → UInt8
  | ultrasonic .left => 0x01
  | ultrasonic .right => 0x02
  | ultrasonic .rear => 0x03
  | tof => 0x04

/-! ### Who took a measurement -/

namespace Sensors

/-- `data_ready`. -/
def ready (x : Sensors) : SensorId → Bool
  | .ultrasonic side => (x.ultrasonic.sensor side).dataReady
  | .tof => x.tof.dataReady

/-- `latest_data`. -/
def latest (x : Sensors) : SensorId → Reading
  | .ultrasonic side => .ultrasonic (x.ultrasonic.sensor side).latestData
  | .tof => .tof x.tof.latestData

/-- The sensors with other values of `data_ready`. -/
def withReady (x : Sensors) (ready : SensorId → Bool) : Sensors where
  tof := { x.tof with dataReady := ready .tof }
  ultrasonic :=
    { x.ultrasonic with
      sensor := fun side =>
        { x.ultrasonic.sensor side with dataReady := ready (.ultrasonic side) } }

/-- The sensors as they would be if some measurements had not been taken. -/
def restore (missed : SensorId → Bool) (x : Sensors) : Sensors :=
  x.withReady fun k => x.ready k || missed k

/-- The sensors after some of them were asked. -/
def asked (asks : SensorId → Bool) (x : Sensors) : Sensors :=
  x.withReady fun k => x.ready k && !asks k

@[simp]
theorem ready_withReady (x : Sensors) (r : SensorId → Bool) : (x.withReady r).ready = r := by
  funext k
  cases k <;> rfl

@[simp]
theorem latest_withReady (x : Sensors) (r : SensorId → Bool) :
    (x.withReady r).latest = x.latest := by
  funext k
  cases k <;> rfl

@[simp]
theorem withReady_withReady (x : Sensors) (r r' : SensorId → Bool) :
    (x.withReady r).withReady r' = x.withReady r' := rfl

@[simp]
theorem withReady_ready (x : Sensors) : x.withReady x.ready = x := rfl

@[simp]
theorem ready_restore (missed : SensorId → Bool) (x : Sensors) (k : SensorId) :
    (x.restore missed).ready k = (x.ready k || missed k) := by
  rw [restore, ready_withReady]

@[simp]
theorem latest_restore (missed : SensorId → Bool) (x : Sensors) :
    (x.restore missed).latest = x.latest := latest_withReady _ _

/-- Nothing has been taken. -/
theorem restore_false (x : Sensors) : x.restore (fun _ => false) = x := by
  rw [restore]
  simp only [Bool.or_false]
  exact withReady_ready x

/-- What has been taken since it was there is missing. -/
theorem restore_asked (asks missed : SensorId → Bool) (x : Sensors) :
    (x.asked asks).restore (fun k => missed k || (asks k && x.ready k)) = x.restore missed := by
  rw [asked, restore, restore, withReady_withReady]
  refine congrArg _ (funext fun k => ?_)
  rw [ready_withReady]
  cases x.ready k <;> cases missed k <;> cases asks k <;> rfl

/-- Who asks himself misses nothing any more. -/
theorem asked_restore (asks missed : SensorId → Bool) (x : Sensors) :
    (x.restore missed).asked asks =
      (x.asked asks).restore fun k => missed k && !asks k := by
  simp only [asked, restore, withReady_withReady, ready_withReady]
  refine congrArg _ (funext fun k => ?_)
  cases x.ready k <;> cases missed k <;> cases asks k <;> rfl

/-- What is there has not been missed. -/
theorem restore_ready (missed : SensorId → Bool) (x : Sensors) :
    x.restore (fun k => missed k && !x.ready k) = x.restore missed := by
  rw [restore, restore]
  refine congrArg _ (funext fun k => ?_)
  cases x.ready k <;> cases missed k <;> rfl

end Sensors

/-! ### What the sensors do -/

/-- What happens to the sensors without a reader. -/
inductive SensorEvent where
  /-- A byte of the time-of-flight sensor, or `ToF_ProcessQueue`. -/
  | tof (e : ToF.Event)
  /-- `Ultrasonic_EchoHandler`. -/
  | echo (side : UltrasonicSide) (inputPinState : Bool) (now : UInt64)
  /-- `Ultrasonic_ProcessQueue`. -/
  | processUltrasonic
  deriving DecidableEq

/-- One of these events. -/
def Sensors.step (x : Sensors) : SensorEvent → Sensors
  | .tof e => { x with tof := (x.tof.step e).1 }
  | .echo side inputPinState now =>
    { x with ultrasonic := x.ultrasonic.echoHandler side inputPinState now }
  | .processUltrasonic => { x with ultrasonic := x.ultrasonic.processQueue }

namespace ToF

/-- The sensor as it would be if a measurement had not been taken. -/
def restore (missed : Bool) (s : ToF) : ToF := { s with dataReady := s.dataReady || missed }

theorem consume_restore (missed : Bool) (s : ToF) (byte : UInt8) :
    (s.restore missed).consume byte =
      ((s.consume byte).1.restore missed, (s.consume byte).2) := by
  obtain ⟨rxQueue, headerTimestampUs, maxBytesPerCall, packet, startUs, latestData, ready⟩ := s
  rw [restore, consume, consume]
  by_cases hpacket : packet = []
  · subst hpacket
    split_ifs <;> rfl
  · simp only [if_neg hpacket]
    by_cases hlen : tofPacketLength ≤ (packet ++ [byte]).length
    · -- a packet is complete, and if it is good it is there, whatever was before
      simp only [if_pos hlen]
      cases parseToFPacket (packet ++ [byte]) latestData <;> rfl
    · simp only [if_neg hlen]
      rfl

/-- Processing bytes does not depend on whether a measurement was taken. -/
theorem processBytes_restore (missed : Bool) (n : ℕ) (s : ToF) :
    (processBytes n (s.restore missed)).1 = (processBytes n s).1.restore missed := by
  induction n generalizing s with
  | zero => rfl
  | succ n ih =>
    cases hpop : s.rxQueue.pop with
    | none => rw [processBytes_of_none hpop, processBytes_of_none (s := s.restore missed) hpop]
    | some popped =>
      obtain ⟨byte, rxQueue⟩ := popped
      have hconsume := consume_restore missed { s with rxQueue := rxQueue } byte
      rw [processBytes_of_some hpop, processBytes_of_some (s := s.restore missed) hpop]
      change (processBytes n (consume (restore missed { s with rxQueue := rxQueue }) byte).1).1 = _
      rw [hconsume]
      exact ih _

theorem step_restore (missed : Bool) (s : ToF) (e : Event) :
    ((s.restore missed).step e).1 = (s.step e).1.restore missed := by
  cases e with
  | rx byte timeUs => rfl
  | process => exact processBytes_restore missed _ s

theorem getLatestData_eq (s : ToF) : s.getLatestData =
    ({ s with dataReady := false }, if s.dataReady then some s.latestData else none) := by
  rw [getLatestData]
  cases hready : s.dataReady with
  | false =>
    rw [if_pos Bool.false_ne_true, if_neg Bool.false_ne_true, ← hready]
  | true => rfl

end ToF

namespace UltrasonicSensor

/-- The sensor as it would be if a measurement had not been taken. -/
def restore (missed : Bool) (s : UltrasonicSensor) : UltrasonicSensor :=
  { s with dataReady := s.dataReady || missed }

theorem consume_restore (missed : Bool) (s : UltrasonicSensor) (evt : EruEvent) :
    (s.restore missed).consume evt = (s.consume evt).restore missed := by
  obtain ⟨rxQueue, filter, lastRiseTime, latestData, ready⟩ := s
  rw [restore, consume, consume]
  split_ifs <;> rfl

/-- Processing edges does not depend on whether a measurement was taken. -/
theorem processEvents_restore (missed : Bool) (n : ℕ) (s : UltrasonicSensor) :
    processEvents n (s.restore missed) = (processEvents n s).restore missed := by
  induction n generalizing s with
  | zero => rfl
  | succ n ih =>
    have hpop : (s.restore missed).rxQueue.pop = s.rxQueue.pop := rfl
    rw [processEvents, processEvents, hpop]
    cases s.rxQueue.pop with
    | none => rfl
    | some popped =>
      obtain ⟨evt, rxQueue⟩ := popped
      have hconsume := consume_restore missed { s with rxQueue := rxQueue } evt
      change processEvents n (consume (restore missed { s with rxQueue := rxQueue }) evt) = _
      rw [hconsume]
      exact ih _

theorem getLatestData_eq (s : UltrasonicSensor) : s.getLatestData =
    ({ s with dataReady := false }, if s.dataReady then some s.latestData else none) := by
  rw [getLatestData]
  cases hready : s.dataReady with
  | false =>
    rw [if_pos Bool.false_ne_true, if_neg Bool.false_ne_true, ← hready]
  | true => rfl

end UltrasonicSensor

/-- **What the sensors do** does not depend on what was taken. -/
theorem Sensors.step_restore (missed : SensorId → Bool) (x : Sensors) (e : SensorEvent) :
    (x.restore missed).step e = (x.step e).restore missed := by
  cases e with
  | tof e =>
    exact congrArg (fun tof => Sensors.mk tof (x.restore missed).ultrasonic)
      (ToF.step_restore (missed .tof) x.tof e)
  | echo side inputPinState now =>
    refine congrArg (fun sensor => Sensors.mk (x.restore missed).tof
      { x.ultrasonic with sensor := sensor }) (funext fun other => ?_)
    simp only [restore, withReady, ready, step, Ultrasonic.echoHandler, Function.update_apply]
    split
    · subst other
      rfl
    · rfl
  | processUltrasonic =>
    refine congrArg (fun sensor => Sensors.mk (x.restore missed).tof
      { x.ultrasonic with sensor := sensor }) (funext fun side => ?_)
    exact UltrasonicSensor.processEvents_restore (missed (.ultrasonic side)) _ _

/-! ### Asking for a measurement -/

namespace Sensors

theorem asked_asked (asks asks' : SensorId → Bool) (x : Sensors) :
    (x.asked asks).asked asks' = x.asked fun k => asks k || asks' k := by
  simp only [asked, withReady_withReady, ready_withReady]
  refine congrArg _ (funext fun k => ?_)
  cases x.ready k <;> cases asks k <;> cases asks' k <;> rfl

theorem asked_none (x : Sensors) : x.asked (fun _ => false) = x := by
  simp only [asked, Bool.not_false, Bool.and_true]
  exact withReady_ready x

theorem getLatestData_tof (x : Sensors) : x.tof.getLatestData =
    ((x.asked fun k => k = .tof).tof,
      if x.ready .tof then some x.tof.latestData else none) := by
  rw [ToF.getLatestData_eq, asked, withReady, decide_eq_true rfl, Bool.not_true, Bool.and_false]
  rfl

theorem getLatestData_ultrasonic (x : Sensors) (side : UltrasonicSide) :
    x.ultrasonic.getLatestData side =
      ((x.asked fun k => k = .ultrasonic side).ultrasonic,
        if x.ready (.ultrasonic side) then some (x.ultrasonic.sensor side).latestData
        else none) := by
  rw [Ultrasonic.getLatestData, UltrasonicSensor.getLatestData_eq]
  refine Prod.ext ?_ rfl
  refine congrArg (fun sensor => { x.ultrasonic with sensor := sensor }) (funext fun other => ?_)
  simp only [Function.update_apply, ready]
  split
  · subst other
    rw [decide_eq_true rfl, Bool.not_true, Bool.and_false]
  · rename_i hne
    have hother : ¬ SensorId.ultrasonic other = .ultrasonic side := fun h =>
      hne (SensorId.ultrasonic.inj h)
    rw [decide_eq_false hother, Bool.not_false, Bool.and_true]

theorem tof_asked_ultrasonic (x : Sensors) (asks : SensorId → Bool) (h : asks .tof = false) :
    (x.asked asks).tof = x.tof := by
  rw [asked, withReady, h, Bool.not_false, Bool.and_true]
  rfl

theorem ultrasonic_asked_tof (x : Sensors) (asks : SensorId → Bool)
    (h : ∀ side, asks (.ultrasonic side) = false) : (x.asked asks).ultrasonic = x.ultrasonic := by
  simp only [asked, withReady, h, Bool.not_false, Bool.and_true]
  rfl

end Sensors

end Ecu

end VehicleStack
