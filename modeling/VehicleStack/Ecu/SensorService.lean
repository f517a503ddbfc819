import VehicleStack.Ecu.Actuators
import VehicleStack.Ecu.ToF
import VehicleStack.Ecu.Ultrasonic

/-!
# The ECU's SOME/IP Service 1

`SOMEIP_Service1_Callback` of `someip.c`, which sends what the sensors measured last.
The photoresistor is read when it is asked for; the other sensors hand a measurement on
once, so the callback keeps a copy of the last one it got and sends that.
-/

namespace VehicleStack

namespace Ecu

open BigEndian

/-- `PRData_t`. -/
structure PRData where
  val : UInt32 := 0
  receivedTimeUs : UInt64 := 0
  deriving DecidableEq

/-! ### Serialisation -/

/-- A time as two halves, the upper one first. -/
def serializeTime (t : UInt64) : List UInt8 :=
  toBytes 4 (t >>> 32).toUInt32.toNat ++ toBytes 4 (t &&& 0xFFFFFFFF).toUInt32.toNat

/-- `Serialize_PRData`. -/
def serializePRData (d : PRData) : List UInt8 :=
  toBytes 4 d.val.toNat ++ serializeTime d.receivedTimeUs

/-- `Serialize_ToFData`. -/
def serializeToFData (d : ToFData) : List UInt8 :=
  [d.id] ++ toBytes 4 d.systemTimeMs.toNat ++ toBytes 4 d.distanceM.toNat ++
    [d.distanceStatus] ++ toBytes 2 d.signalStrength.toNat ++ serializeTime d.receivedTimeUs

/-- `Serialize_UltrasonicData`. -/
def serializeUltrasonicData (d : UltrasonicData) : List UInt8 :=
  toIntBytes 4 d.distRawMm.toInt ++ toIntBytes 4 d.distFiltMm.toInt ++
    serializeTime d.receivedTimeUs

/-! ### `SOMEIP_Service1_Callback` -/

/-- The sensors that hand a measurement on once. -/
structure Sensors where
  tof : ToF
  ultrasonic : Ultrasonic

/-- The copies the callback keeps. -/
structure Service1 where
  prLatestData : PRData := {}
  tofLatestData : ToFData := {}
  ultLatestData : UltrasonicSide → UltrasonicData := fun _ => {}

/-- The sides in the order of their numbers, `ULTRASONIC_COUNT` of them. -/
def UltrasonicSide.all : List UltrasonicSide := [.left, .right, .rear]

namespace Service1

/-- The method `0x0101`; `pr` is what `PR_GetData` returns. -/
def prMethod (s : Service1) (pr : PRData) (rx : ℕ → UInt8) : Service1 × List UInt8 :=
  ({ s with prLatestData := pr }, reply rx (serializePRData pr))

/-- The method `0x0102`. -/
def tofMethod (s : Service1) (sensors : Sensors) (rx : ℕ → UInt8) :
    (Service1 × Sensors) × List UInt8 :=
  let latest := sensors.tof.getLatestData
  let s := { s with tofLatestData := latest.2.getD s.tofLatestData }
  ((s, { sensors with tof := latest.1 }), reply rx (serializeToFData s.tofLatestData))

/-- The loop of the method `0x0103` over the sensors, and what it appends. -/
def readUltrasonics : List UltrasonicSide → Service1 → Sensors → (Service1 × Sensors) × List UInt8
  | [], s, sensors => ((s, sensors), [])
  | side :: sides, s, sensors =>
    let latest := sensors.ultrasonic.getLatestData side
    let data := latest.2.getD (s.ultLatestData side)
    let rest := readUltrasonics sides
      { s with ultLatestData := Function.update s.ultLatestData side data }
      { sensors with ultrasonic := latest.1 }
    (rest.1, serializeUltrasonicData data ++ rest.2)

/-- The method `0x0103`. -/
def ultrasonicMethod (s : Service1) (sensors : Sensors) (rx : ℕ → UInt8) :
    (Service1 × Sensors) × List UInt8 :=
  let r := readUltrasonics UltrasonicSide.all s sensors
  (r.1, reply rx (UInt8.ofNat UltrasonicSide.all.length :: r.2))

/-- `SOMEIP_Service1_Callback`. -/
def callback (beyond : ℕ → UInt8) (pr : PRData) (s : Service1) (sensors : Sensors)
    (payload : List UInt8) : (Service1 × Sensors) × Option (List UInt8) :=
  if payload.length < 16 ∨ 512 < payload.length then ((s, sensors), none)
  else
    let rx := rxBuf beyond payload
    if serviceId rx = 0x0100 ∧ rx 14 = 0x00 then
      if methodId rx = 0x0101 then
        let r := s.prMethod pr rx
        ((r.1, sensors), some r.2)
      else if methodId rx = 0x0102 then
        let r := s.tofMethod sensors rx
        (r.1, some r.2)
      else if methodId rx = 0x0103 then
        let r := s.ultrasonicMethod sensors rx
        (r.1, some r.2)
      else ((s, sensors), none)
    else ((s, sensors), none)

/-- **What the loop sends** are the copies it leaves behind. -/
theorem readUltrasonics_eq {sides : List UltrasonicSide} (h : sides.Nodup) (s : Service1)
    (sensors : Sensors) : (readUltrasonics sides s sensors).2 =
      sides.flatMap fun side =>
        serializeUltrasonicData ((readUltrasonics sides s sensors).1.1.ultLatestData side) := by
  have hothers : ∀ (sides : List UltrasonicSide) (s : Service1) (sensors : Sensors) side,
      side ∉ sides → (readUltrasonics sides s sensors).1.1.ultLatestData side =
        s.ultLatestData side := by
    intro sides
    induction sides with
    | nil => exact fun _ _ _ _ => rfl
    | cons a sides ih =>
      intro s sensors side hside
      rw [List.mem_cons, not_or] at hside
      refine (ih _ _ side hside.2).trans ?_
      exact Function.update_of_ne hside.1 _ _
  induction sides generalizing s sensors with
  | nil => rfl
  | cons side sides ih =>
    obtain ⟨hside, hnodup⟩ := List.nodup_cons.mp h
    simp only [readUltrasonics, List.flatMap_cons]
    rw [ih hnodup, hothers _ _ _ _ hside]
    simp only [Function.update_self]

end Service1

end Ecu

end VehicleStack
