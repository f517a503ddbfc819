import VehicleStack.Lib.Ring

/-!
# The ultrasonic sensors

`Ultrasonic.c` and the moving average it uses. An echo is a rising and a falling
edge of a pin; an interrupt handler puts the edges into the queue of their sensor,
`Ultrasonic_ProcessQueue` takes them out again in the main loop and turns the time
between the two into a distance, and `Ultrasonic_GetLatestData` hands the last
measurement on, once.

The three sensors do the same with variables of their own, which are arrays in the
source and one record for each sensor here.
-/

namespace VehicleStack

namespace Ecu

/-! ### The moving average -/

/-- `AverageFilter`. -/
structure AverageFilter where
  buffer : ℕ → Int32 := fun _ => 0
  filterSize : ℕ
  nextIndex : ℕ := 0
  dataCnt : ℕ := 0
  sum : Int64 := 0

/-- `AVG_FILTER_MAX_BUF_SIZE`. -/
def avgFilterMaxBufSize : ℕ := 16

/-- `ULT_AVG_FILTER_SIZE`. -/
def ultAvgFilterSize : ℕ := 5

/-- `Filter_Update`. -/
def AverageFilter.update (f : AverageFilter) (newValue : Int32) : AverageFilter × Int32 :=
  if f.filterSize = 0 ∨ avgFilterMaxBufSize < f.filterSize then (f, 0)
  else
    let oldValue := f.buffer f.nextIndex
    let full := ¬ f.dataCnt < f.filterSize
    let dataCnt := if full then f.dataCnt else f.dataCnt + 1
    let sum := (if full then f.sum - oldValue.toInt64 else f.sum) + newValue.toInt64
    ({ f with
        buffer := Function.update f.buffer f.nextIndex newValue
        nextIndex := (f.nextIndex + 1) % f.filterSize
        dataCnt := dataCnt
        sum := sum }, (sum / Int64.ofNat dataCnt).toInt32)

/-! ### One sensor -/

/-- `EruEvent`. -/
structure EruEvent where
  pinState : Bool
  timestampUs : UInt64
  deriving DecidableEq

/-- `UltrasonicData_t`. -/
structure UltrasonicData where
  distRawMm : Int32 := 0
  distFiltMm : Int32 := 0
  receivedTimeUs : UInt64 := 0
  deriving DecidableEq

/-- `CALCULATE_DISTANCE`, in millimetres. -/
def calculateDistance (fallTime riseTime : UInt64) : Int32 :=
  (fallTime - riseTime).toUInt32.toInt32 * 343 / 2000

/-- The variables `Ultrasonic.c` keeps for one sensor. -/
structure UltrasonicSensor where
  rxQueue : Ring EruEvent
  filter : AverageFilter := { filterSize := ultAvgFilterSize }
  lastRiseTime : UInt64 := 0
  latestData : UltrasonicData := {}
  dataReady : Bool := false

namespace UltrasonicSensor

/-- What the body of the loop in `Ultrasonic_ProcessQueue` does with an edge that was
taken out of the queue. -/
def consume (s : UltrasonicSensor) (evt : EruEvent) : UltrasonicSensor :=
  if evt.pinState = true then { s with lastRiseTime := evt.timestampUs }
  else if 0 < s.lastRiseTime then
    let raw := calculateDistance evt.timestampUs s.lastRiseTime
    let filtered := s.filter.update raw
    { s with
      filter := filtered.1
      latestData :=
        { distRawMm := raw, distFiltMm := filtered.2, receivedTimeUs := s.lastRiseTime }
      dataReady := true
      lastRiseTime := 0 }
  else { s with lastRiseTime := 0 }

/-- The loop of `Ultrasonic_ProcessQueue` over the edges of one sensor, for at most
`n` more of them. -/
def processEvents : ℕ → UltrasonicSensor → UltrasonicSensor
  | 0, s => s
  | n + 1, s =>
    match s.rxQueue.pop with
    | none => s
    | some (evt, rxQueue) => processEvents n (consume { s with rxQueue := rxQueue } evt)

/-- `Ultrasonic_GetLatestData` for one sensor: the measurement, unless it has been
handed on before. -/
def getLatestData (s : UltrasonicSensor) : UltrasonicSensor × Option UltrasonicData :=
  if ¬ s.dataReady then (s, none) else ({ s with dataReady := false }, some s.latestData)

end UltrasonicSensor

/-! ### The module -/

/-- `UltrasonicSide`. -/
inductive UltrasonicSide where
  | left
  | right
  | rear
  deriving DecidableEq

/-- `ERU_EVENT_QUEUE_MAX_BUF_SIZE`. -/
def eruEventQueueMaxBufSize : ℕ := 64

theorem eruEventQueueMaxBufSize_pos : 0 < eruEventQueueMaxBufSize := by decide

/-- The variables of `Ultrasonic.c`. -/
structure Ultrasonic where
  sensor : UltrasonicSide → UltrasonicSensor
  maxEventsPerCall : ℕ

namespace Ultrasonic

/-- The module with empty queues. -/
def start (capacity maxEvents : ℕ) (h : 0 < capacity) : Ultrasonic where
  sensor := fun _ => { rxQueue := Ring.init (fun _ => ⟨false, 0⟩) capacity h }
  maxEventsPerCall := maxEvents

/-- `Ultrasonic_Init`, unless the size is refused. -/
def init (bufferSize maxEvents : ℕ) : Option Ultrasonic :=
  if h : 0 < bufferSize ∧ bufferSize ≤ eruEventQueueMaxBufSize then
    some (start bufferSize maxEvents h.1)
  else none

/-- `Ultrasonic_EchoHandler`, called at time `now`. -/
def echoHandler (s : Ultrasonic) (side : UltrasonicSide) (inputPinState : Bool) (now : UInt64) :
    Ultrasonic :=
  { s with
    sensor := Function.update s.sensor side
      { s.sensor side with rxQueue := (s.sensor side).rxQueue.push ⟨inputPinState, now⟩ } }

/-- `Ultrasonic_ProcessQueue`. -/
def processQueue (s : Ultrasonic) : Ultrasonic :=
  { s with sensor := fun side => (s.sensor side).processEvents s.maxEventsPerCall }

/-- `Ultrasonic_GetLatestData`. -/
def getLatestData (s : Ultrasonic) (side : UltrasonicSide) : Ultrasonic × Option UltrasonicData :=
  let latest := (s.sensor side).getLatestData
  ({ s with sensor := Function.update s.sensor side latest.1 }, latest.2)

end Ultrasonic

end Ecu

end VehicleStack
