import Mathlib.Data.Int.Basic
import VehicleStack.Lib.Mealy
import VehicleStack.Lib.Ring

/-!
# The time-of-flight sensor

`ToF.c`: an interrupt handler puts the bytes of the sensor's serial line into a
queue, `ToF_ProcessQueue` takes them out again in the main loop and puts packets of
sixteen bytes together, and `ToF_GetLatestData` hands the last good packet on, once.

The time at which a header byte arrives is kept beside the queue, in an array with a
cell for each cell of the queue, and looked up after the byte was taken out
(`VehicleStack.Ecu.ToF.consume`). The single-precision distance is kept as its bits.
-/

namespace VehicleStack

namespace Ecu

/-- `BYTE_QUEUE_MAX_BUF_SIZE`. -/
def byteQueueMaxBufSize : ℕ := 64

theorem byteQueueMaxBufSize_pos : 0 < byteQueueMaxBufSize := by decide

/-- `TOF_PACKET_LENGTH`. -/
def tofPacketLength : ℕ := 16

/-- `TOF_PACKET_HEADER`. -/
def tofPacketHeader : UInt8 := 0x57

/-- `ToFData_t`, with the bits of `distance_m`. -/
structure ToFData where
  id : UInt8 := 0
  systemTimeMs : UInt32 := 0
  distanceM : UInt32 := 0
  distanceStatus : UInt8 := 0
  signalStrength : UInt16 := 0
  receivedTimeUs : UInt64 := 0
  deriving DecidableEq

/-! ### One packet -/

/-- `verifyCheckSum`, of a packet. -/
def verifyCheckSum (data : List UInt8) : Bool :=
  (data.take (tofPacketLength - 1)).foldl (· + ·) 0 = data.getD (tofPacketLength - 1) 0

/-- `dist_raw`. -/
def distRaw (packet : List UInt8) : ℤ :=
  (((packet.getD 8 0).toUInt32 <<< 8) ||| ((packet.getD 9 0).toUInt32 <<< 16) |||
    ((packet.getD 10 0).toUInt32 <<< 24)).toInt32.toInt.tdiv 256

/-- `dist_raw / 1000.0f`. -/
def distanceM (distRaw : ℤ) : UInt32 := (Float32.ofInt distRaw / 1000).toBits

/-- `parseToFPacket`: what it makes of `out`, if it accepts the packet. -/
def parseToFPacket (packet : List UInt8) (out : ToFData) : Option ToFData :=
  if packet.getD 0 0 ≠ tofPacketHeader then none
  else if ¬ verifyCheckSum packet then none
  else some { out with
    id := packet.getD 3 0
    systemTimeMs := (packet.getD 4 0).toUInt32 ||| ((packet.getD 5 0).toUInt32 <<< 8) |||
      ((packet.getD 6 0).toUInt32 <<< 16) ||| ((packet.getD 7 0).toUInt32 <<< 24)
    distanceM := distanceM (distRaw packet)
    distanceStatus := packet.getD 11 0
    signalStrength := (packet.getD 12 0).toUInt16 ||| ((packet.getD 13 0).toUInt16 <<< 8) }

/-! ### The module -/

/-- The variables of `ToF.c`; of `packet`, the bytes collected so far. -/
structure ToF where
  rxQueue : Ring UInt8
  headerTimestampUs : ℕ → UInt64
  maxBytesPerCall : ℕ
  packet : List UInt8 := []
  packetStartTimeUs : UInt64 := 0
  latestData : ToFData := {}
  dataReady : Bool := false

namespace ToF

/-- The module with an empty queue. -/
def start (capacity maxBytes : ℕ) (h : 0 < capacity) : ToF where
  rxQueue := Ring.init (fun _ => 0) capacity h
  headerTimestampUs := fun _ => 0
  maxBytesPerCall := maxBytes

/-- `ToF_Init`, unless the size is refused. -/
def init (bufferSize maxBytes : ℕ) : Option ToF :=
  if h : 0 < bufferSize ∧ bufferSize ≤ byteQueueMaxBufSize then
    some (start bufferSize maxBytes h.1)
  else none

/-- `ToF_RxHandler`, called at time `now`. -/
def rxHandler (s : ToF) (byte : UInt8) (now : UInt64) : ToF :=
  { s with
    headerTimestampUs :=
      if byte = tofPacketHeader then Function.update s.headerTimestampUs s.rxQueue.tail now
      else s.headerTimestampUs
    rxQueue := s.rxQueue.push byte }

/-- What the body of the loop in `ToF_ProcessQueue` does with a byte that was taken
out of the queue, and the record it publishes. -/
def consume (s : ToF) (byte : UInt8) : ToF × Option ToFData :=
  if s.packet = [] then
    if byte = tofPacketHeader then
      -- the cell the byte was in is the one before the read position
      let head := (s.rxQueue.head + s.rxQueue.capacity - 1) % s.rxQueue.capacity
      ({ s with packet := [byte], packetStartTimeUs := s.headerTimestampUs head }, none)
    else (s, none)
  else
    let packet := s.packet ++ [byte]
    if tofPacketLength ≤ packet.length then
      match parseToFPacket packet s.latestData with
      | some out =>
        let out := { out with receivedTimeUs := s.packetStartTimeUs }
        ({ s with packet := [], latestData := out, dataReady := true }, some out)
      | none => ({ s with packet := [] }, none)
    else ({ s with packet := packet }, none)

/-- The bytes a call takes out of the queue, and the records it publishes. -/
structure Output where
  popped : List UInt8 := []
  published : List ToFData := []

/-- The loop of `ToF_ProcessQueue`, for at most `n` more bytes. -/
def processBytes : ℕ → ToF → ToF × Output
  | 0, s => (s, {})
  | n + 1, s =>
    match s.rxQueue.pop with
    | none => (s, {})
    | some (byte, rxQueue) =>
      let consumed := consume { s with rxQueue := rxQueue } byte
      let rest := processBytes n consumed.1
      (rest.1,
        { popped := byte :: rest.2.popped
          published := consumed.2.toList ++ rest.2.published })

theorem processBytes_of_none {s : ToF} (h : s.rxQueue.pop = none) (n : ℕ) :
    processBytes n s = (s, {}) := by
  cases n with
  | zero => rfl
  | succ n => rw [processBytes, h]

theorem processBytes_of_some {s : ToF} {byte : UInt8} {rxQueue : Ring UInt8}
    (h : s.rxQueue.pop = some (byte, rxQueue)) (n : ℕ) :
    processBytes (n + 1) s =
      ((processBytes n (consume { s with rxQueue := rxQueue } byte).1).1,
        { popped :=
            byte :: (processBytes n (consume { s with rxQueue := rxQueue } byte).1).2.popped
          published := (consume { s with rxQueue := rxQueue } byte).2.toList ++
            (processBytes n (consume { s with rxQueue := rxQueue } byte).1).2.published }) := by
  rw [processBytes, h]

/-- Taking a byte apart leaves the limit of a call alone. -/
theorem maxBytesPerCall_consume (s : ToF) (byte : UInt8) :
    (s.consume byte).1.maxBytesPerCall = s.maxBytesPerCall := by
  rw [consume]
  split
  · split <;> rfl
  · simp only
    split
    · split <;> rfl
    · rfl

/-- `ToF_ProcessQueue`. -/
def processQueue (s : ToF) : ToF × Output := processBytes s.maxBytesPerCall s

/-- `ToF_GetLatestData`: the record, unless it has been handed on before. -/
def getLatestData (s : ToF) : ToF × Option ToFData :=
  if ¬ s.dataReady then (s, none) else ({ s with dataReady := false }, some s.latestData)

/-- A call into the module. -/
inductive Event where
  | rx (byte : UInt8) (timeUs : UInt64)
  | process
  deriving DecidableEq

/-- One call. -/
def step (s : ToF) : Event → ToF × Output
  | .rx byte timeUs => (s.rxHandler byte timeUs, {})
  | .process => s.processQueue

/-- The bytes taken out of the queue in a run. -/
def popped (s : ToF) (events : List Event) : List UInt8 :=
  (Mealy.outputs step s events).flatMap Output.popped

/-- The records published in a run. -/
def published (s : ToF) (events : List Event) : List ToFData :=
  (Mealy.outputs step s events).flatMap Output.published

end ToF

end Ecu

end VehicleStack
