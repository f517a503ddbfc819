import VehicleStack.Ecu.ToF

/-!
# The Bluetooth receiver

`Bluetooth.c`: an interrupt handler puts the bytes of the serial line to the Bluetooth module into
a queue, all but line ends; `Bluetooth_ProcessQueue` takes them out again in the main loop and
collects them in a buffer of eight bytes until a null byte ends the command, and
`Bluetooth_GetLatestData` hands the last good command on, once.

The time at which the first byte of a command arrives is kept beside the queue, in an array with a
cell for each cell of the queue. Both sides have a variable `pre_byte` to tell what a first byte is:
the handler the byte that arrived before (`VehicleStack.Ecu.Bluetooth.rxPreByte`), the main loop the
byte that was taken out before (`VehicleStack.Ecu.Bluetooth.preByte`).
-/

namespace VehicleStack

namespace Ecu

/-- `BLUETOOTH_PACKET_MAX_LEN`. -/
def bluetoothPacketMaxLen : ℕ := 8

/-- `BLUETOOTH_PACKET_TERMINATOR`. -/
def bluetoothPacketTerminator : UInt8 := 0

/-- `BluetoothCmdType_t`. -/
inductive BluetoothCmdType where
  | invalid
  | move
  | park
  deriving DecidableEq

/-- `BluetoothData_t`. -/
structure BluetoothData where
  type : BluetoothCmdType := .invalid
  param1 : ℤ := 0
  param2 : ℤ := 0
  receivedTimeUs : UInt64 := 0
  deriving DecidableEq

/-! ### One command -/

/-- `my_isdigit`. -/
def isDigit (c : UInt8) : Bool := 48 ≤ c ∧ c ≤ 57

/-- `parseTwoDigits`. -/
def parseTwoDigits (a b : UInt8) : Option ℤ :=
  if isDigit a ∧ isDigit b then some (((a.toNat : ℤ) - 48) * 10 + (b.toNat - 48)) else none

/-- `parseBluetoothPacket`: what it makes of `out`, if it accepts the packet. -/
def parseBluetoothPacket (packet : ℕ → UInt8) (out : BluetoothData) : Option BluetoothData :=
  if packet 0 = 77 then
    match parseTwoDigits (packet 1) (packet 2), parseTwoDigits (packet 3) (packet 4) with
    | some mx, some my => some { out with type := .move, param1 := mx, param2 := my }
    | _, _ => none
  else if packet 0 = 80 then some { out with type := .park, param1 := 0, param2 := 0 }
  else none

/-- A move is accepted if all four digits are there. -/
theorem parseBluetoothPacket_of_move {packet : ℕ → UInt8} (h : packet 0 = 77)
    (out : BluetoothData) :
    parseBluetoothPacket packet out =
      if isDigit (packet 1) ∧ isDigit (packet 2) ∧ isDigit (packet 3) ∧ isDigit (packet 4) then
        some { out with
          type := .move
          param1 := (((packet 1).toNat : ℤ) - 48) * 10 + ((packet 2).toNat - 48)
          param2 := (((packet 3).toNat : ℤ) - 48) * 10 + ((packet 4).toNat - 48) }
      else none := by
  rw [parseBluetoothPacket, if_pos h, parseTwoDigits, parseTwoDigits]
  by_cases hx : isDigit (packet 1) ∧ isDigit (packet 2)
  · by_cases hy : isDigit (packet 3) ∧ isDigit (packet 4)
    · rw [if_pos hx, if_pos hy, if_pos ⟨hx.1, hx.2, hy⟩]
    · rw [if_pos hx, if_neg hy, if_neg fun hall => hy hall.2.2]
  · have hall : ¬ (isDigit (packet 1) ∧ isDigit (packet 2) ∧ isDigit (packet 3) ∧
        isDigit (packet 4)) := fun hd => hx ⟨hd.1, hd.2.1⟩
    rw [if_neg hx, if_neg hall]

/-! ### The module -/

/-- The variables of `Bluetooth.c`. -/
structure Bluetooth where
  rxQueue : Ring UInt8
  headerTimestampUs : ℕ → UInt64 := fun _ => 0
  maxBytesPerCall : ℕ
  rxPreByte : UInt8 := bluetoothPacketTerminator
  packet : ℕ → UInt8 := fun _ => 0
  packetIndex : ℕ := 0
  packetStartTimeUs : UInt64 := 0
  preByte : UInt8 := bluetoothPacketTerminator
  latestData : BluetoothData := {}
  dataReady : Bool := false

namespace Bluetooth

/-- The module with an empty queue. -/
def start (capacity maxBytes : ℕ) (h : 0 < capacity) : Bluetooth where
  rxQueue := Ring.init (fun _ => 0) capacity h
  maxBytesPerCall := maxBytes

/-- `Bluetooth_Init`, unless the size is refused. -/
def init (bufferSize maxBytes : ℕ) : Option Bluetooth :=
  if h : 0 < bufferSize then
    if bufferSize ≤ byteQueueMaxBufSize then some (start bufferSize maxBytes h) else none
  else none

theorem init_eq (maxBytes : ℕ) {capacity : ℕ}
    (h : 0 < capacity ∧ capacity ≤ byteQueueMaxBufSize) :
    init capacity maxBytes = some (start capacity maxBytes h.1) := by
  rw [init, dif_pos h.1, if_pos h.2]

/-- `Bluetooth_RxHandler`, called at time `now`. -/
def rxHandler (s : Bluetooth) (byte : UInt8) (now : UInt64) : Bluetooth :=
  if byte = 10 then s
  else
    { s with
      headerTimestampUs :=
        if s.rxPreByte = bluetoothPacketTerminator then
          Function.update s.headerTimestampUs s.rxQueue.tail now
        else s.headerTimestampUs
      rxQueue := s.rxQueue.push byte
      rxPreByte := byte }

/-- The start of the loop's body: the time of the command that a byte belongs to. -/
def startTimeUs (s : Bluetooth) : UInt64 :=
  if s.preByte = bluetoothPacketTerminator then
    -- the cell the byte was in is the one before the read position
    s.headerTimestampUs ((s.rxQueue.head + s.rxQueue.capacity - 1) % s.rxQueue.capacity)
  else s.packetStartTimeUs

/-- What the body of the loop in `Bluetooth_ProcessQueue` does with a byte that was taken out of
the queue, and the command it publishes. -/
def consume (s : Bluetooth) (byte : UInt8) : Bluetooth × Option BluetoothData :=
  let packetStartTimeUs := s.startTimeUs
  let packet := Function.update s.packet s.packetIndex byte
  let packetIndex := s.packetIndex + 1
  let s := { s with
    packetStartTimeUs := packetStartTimeUs, packet := packet, packetIndex := packetIndex,
    preByte := byte }
  if byte = bluetoothPacketTerminator then
    match parseBluetoothPacket packet s.latestData with
    | some out =>
      let out := { out with receivedTimeUs := packetStartTimeUs }
      ({ s with latestData := out, dataReady := true, packetIndex := 0 }, some out)
    | none => ({ s with packetIndex := 0 }, none)
  else if bluetoothPacketMaxLen ≤ packetIndex then ({ s with packetIndex := 0 }, none)
  else (s, none)

/-- What a call does: the bytes taken out of the queue, the commands published, and the command
handed on. -/
structure Output where
  popped : List UInt8 := []
  published : List BluetoothData := []
  fetched : Option BluetoothData := none
  deriving DecidableEq

/-- The loop of `Bluetooth_ProcessQueue`, for at most `n` more bytes. -/
def processBytes : ℕ → Bluetooth → Bluetooth × Output
  | 0, s => (s, {})
  | n + 1, s =>
    match s.rxQueue.pop with
    | none => (s, {})
    | some (byte, rxQueue) =>
      let consumed := consume { s with rxQueue := rxQueue } byte
      let rest := processBytes n consumed.1
      (rest.1,
        { popped := byte :: rest.2.popped
          published := consumed.2.toList ++ rest.2.published })

/-- `Bluetooth_ProcessQueue`. -/
def processQueue (s : Bluetooth) : Bluetooth × Output := processBytes s.maxBytesPerCall s

/-- `Bluetooth_GetLatestData`: the command, unless it has been handed on before. -/
def getLatestData (s : Bluetooth) : Bluetooth × Option BluetoothData :=
  if ¬ s.dataReady then (s, none) else ({ s with dataReady := false }, some s.latestData)

/-- A call into the module. -/
inductive Event where
  | rx (byte : UInt8) (timeUs : UInt64)
  | process
  | get
  deriving DecidableEq

/-- One call. -/
def step (s : Bluetooth) : Event → Bluetooth × Output
  | .rx byte timeUs => (s.rxHandler byte timeUs, {})
  | .process => s.processQueue
  | .get => (s.getLatestData.1, { fetched := s.getLatestData.2 })

/-! ### The loop -/

theorem processBytes_of_none {s : Bluetooth} (h : s.rxQueue.pop = none) (n : ℕ) :
    processBytes n s = (s, {}) := by
  cases n with
  | zero => rfl
  | succ n => rw [processBytes, h]

theorem processBytes_of_some {s : Bluetooth} {byte : UInt8} {rxQueue : Ring UInt8}
    (h : s.rxQueue.pop = some (byte, rxQueue)) (n : ℕ) :
    processBytes (n + 1) s =
      ((processBytes n (consume { s with rxQueue := rxQueue } byte).1).1,
        { popped :=
            byte :: (processBytes n (consume { s with rxQueue := rxQueue } byte).1).2.popped
          published := (consume { s with rxQueue := rxQueue } byte).2.toList ++
            (processBytes n (consume { s with rxQueue := rxQueue } byte).1).2.published }) := by
  rw [processBytes, h]

/-- **What a byte does**, in one case for each branch: it ends a command that is good, or one that
is not, or it is one more byte of a command. -/
theorem consume_cases (s : Bluetooth) (byte : UInt8) :
    (byte = 0 ∧ ∃ out, parseBluetoothPacket (Function.update s.packet s.packetIndex byte)
          s.latestData = some out ∧
        s.consume byte =
          ({ s with
              packetStartTimeUs := s.startTimeUs, packetIndex := 0, preByte := byte,
              packet := Function.update s.packet s.packetIndex byte
              latestData := { out with receivedTimeUs := s.startTimeUs }, dataReady := true },
            some { out with receivedTimeUs := s.startTimeUs })) ∨
    (byte = 0 ∧ parseBluetoothPacket (Function.update s.packet s.packetIndex byte)
          s.latestData = none ∧
        s.consume byte =
          ({ s with
              packetStartTimeUs := s.startTimeUs, packetIndex := 0, preByte := byte,
              packet := Function.update s.packet s.packetIndex byte },
            none)) ∨
    (byte ≠ 0 ∧
        s.consume byte =
          ({ s with
              packetStartTimeUs := s.startTimeUs, preByte := byte,
              packetIndex :=
                if bluetoothPacketMaxLen ≤ s.packetIndex + 1 then 0 else s.packetIndex + 1
              packet := Function.update s.packet s.packetIndex byte },
            none)) := by
  by_cases hend : byte = bluetoothPacketTerminator
  · cases hparse : parseBluetoothPacket (Function.update s.packet s.packetIndex byte)
        s.latestData with
    | some out =>
      refine Or.inl ⟨hend, out, rfl, ?_⟩
      simp only [consume, if_pos hend, hparse]
    | none =>
      refine Or.inr (Or.inl ⟨hend, rfl, ?_⟩)
      simp only [consume, if_pos hend, hparse]
  · refine Or.inr (Or.inr ⟨hend, ?_⟩)
    by_cases hfull : bluetoothPacketMaxLen ≤ s.packetIndex + 1
    · simp only [consume, if_neg hend, if_pos hfull]
    · simp only [consume, if_neg hend, if_neg hfull]

end Bluetooth

end Ecu

end VehicleStack
