import VehicleStack.Ecu.OwnBytes
import VehicleStack.Ecu.SensorService

/-!
# The client of the ECU's services

`rpi_client_app.cpp`: the payloads of the requests it sends and what `on_message`
makes of the payload of a response. Both sides of the wire put numbers there most
significant byte first; the client does so by reversing the bytes that its processor,
which has the least significant one first, keeps of a number.

What the client reads is a `VehicleStack.Client.Record`, in the types of the ECU. The
header is put on and taken off by the SOME/IP library, which is not part of the
repository; it fills in service, method and message type, and what else it fills in
does not matter here.
-/

namespace VehicleStack

namespace Client

open Ecu BigEndian

/-! ### Numbers in a payload -/

/-- The number that bytes in memory stand for. -/
def native (bs : List UInt8) : ℕ := ofBytes bs.reverse

/-- The bytes in memory of a number of `size` bytes. -/
def nativeBytes (size n : ℕ) : List UInt8 := (toBytes size n).reverse

/-- The bytes of `value` in `get_value_from_payload`: those of the payload, reversed if
there are several. -/
def valueBytes (size : ℕ) (data : List UInt8) (offset : ℕ) : List UInt8 :=
  let value := (data.drop offset).take size
  if 1 < size then value.reverse else value

/-- `get_value_from_payload`, of an unsigned type. -/
def getValueFromPayload (size : ℕ) (data : List UInt8) (offset : ℕ) : ℕ :=
  native (valueBytes size data offset)

/-- `get_value_from_payload`, of a signed type. -/
def getIntFromPayload (size : ℕ) (data : List UInt8) (offset : ℕ) : ℤ :=
  Int.bmod (getValueFromPayload size data offset) (256 ^ size)

/-- `append_to_payload`, of the number a value is stored as. -/
def appendToPayload (size n : ℕ) (payloadData : List UInt8) : List UInt8 :=
  payloadData ++ if 1 < size then (nativeBytes size n).reverse else nativeBytes size n

/-- The number a signed value of `size` bytes is stored as. -/
def stored (size : ℕ) (z : ℤ) : ℕ := (z % 256 ^ size).toNat

/-! ### `on_message` -/

/-- What the client reads from a response. -/
inductive Record where
  | pr (d : PRData)
  | tof (d : ToFData)
  | ult (ds : List UltrasonicData)
  | buzzer (d : BuzzerData)
  | led (d : LedData)
  | alert (intervalMs : ℤ)
  | motor (d : MotorControllerData)
  deriving DecidableEq

/-- The loop over the ultrasonic sensors, for `count` more of them. -/
def ultrasonics (data : List UInt8) : ℕ → ℕ → List UltrasonicData
  | 0, _ => []
  | count + 1, offset =>
    if offset + 16 ≤ data.length then
      { distRawMm := Int32.ofInt (getIntFromPayload 4 data offset)
        distFiltMm := Int32.ofInt (getIntFromPayload 4 data (offset + 4))
        receivedTimeUs := UInt64.ofNat (getValueFromPayload 8 data (offset + 8)) } ::
        ultrasonics data count (offset + 16)
    else ultrasonics data count offset

/-- `on_message`, of a response's service, method and payload. -/
def onMessage (serviceId methodId : ℕ) (data : List UInt8) : Option Record :=
  if serviceId = 0x0100 then
    if methodId = 0x0101 then
      if 12 ≤ data.length then
        some (.pr
          { val := UInt32.ofNat (getValueFromPayload 4 data 0)
            receivedTimeUs := UInt64.ofNat (getValueFromPayload 8 data 4) })
      else none
    else if methodId = 0x0102 then
      if 20 ≤ data.length then
        some (.tof
          { id := UInt8.ofNat (getValueFromPayload 1 data 0)
            systemTimeMs := UInt32.ofNat (getValueFromPayload 4 data 1)
            distanceM := UInt32.ofNat (getValueFromPayload 4 data 5)
            distanceStatus := UInt8.ofNat (getValueFromPayload 1 data 9)
            signalStrength := UInt16.ofNat (getValueFromPayload 2 data 10)
            receivedTimeUs := UInt64.ofNat (getValueFromPayload 8 data 12) })
      else none
    else if methodId = 0x0103 then
      if 0 < data.length then some (.ult (ultrasonics data (getValueFromPayload 1 data 0) 1))
      else none
    else none
  else if serviceId = 0x0200 then
    if methodId = 0x0201 then
      if 5 ≤ data.length then
        some (.buzzer
          { isOn := getValueFromPayload 1 data 0 ≠ 0
            frequency := getIntFromPayload 4 data 1 })
      else none
    else if methodId = 0x0202 then
      if 2 ≤ data.length then
        some (.led
          { side := UInt8.ofNat (getValueFromPayload 1 data 0)
            isOn := getValueFromPayload 1 data 1 ≠ 0 })
      else none
    else none
  else if serviceId = 0x0300 then
    if methodId = 0x0301 then
      if 8 ≤ data.length then some (.alert (getIntFromPayload 8 data 0)) else none
    else if methodId = 0x0302 then
      if 16 ≤ data.length then
        some (.motor
          { x := getIntFromPayload 4 data 0
            y := getIntFromPayload 4 data 4
            motorChASpeed := getIntFromPayload 4 data 8
            motorChBSpeed := getIntFromPayload 4 data 12 })
      else none
    else none
  else none

/-! ### Requests -/

/-- The requests that carry something. -/
inductive Command where
  /-- `request_buzzer_control`. -/
  | buzzer (command : UInt8) (frequency : Int32)
  /-- `request_led_control`. -/
  | led (side command : UInt8)
  /-- `request_alert_control`. -/
  | alert (cycleMs : Int64)
  /-- `request_motor_control`. -/
  | motor (motorX motorY : Int32)
  deriving DecidableEq

/-- `payload_data`. -/
def Command.payloadData : Command → List UInt8
  | buzzer command frequency => appendToPayload 4 (stored 4 frequency.toInt) [command]
  | led side command => [side, command]
  | alert cycleMs => appendToPayload 8 (stored 8 cycleMs.toInt) []
  | motor motorX motorY =>
    appendToPayload 4 (stored 4 motorY.toInt) (appendToPayload 4 (stored 4 motorX.toInt) [])

/-! ### The two conventions are one -/

theorem getValueFromPayload_eq (size : ℕ) (data : List UInt8) (offset : ℕ) :
    getValueFromPayload size data offset = ofBytes ((data.drop offset).take size) := by
  rw [getValueFromPayload, valueBytes, native]
  by_cases h : 1 < size
  · simp only [if_pos h, List.reverse_reverse]
  · simp only [if_neg h]
    -- one byte or none is the same both ways
    have hlen : ((data.drop offset).take size).length ≤ 1 := by
      rw [List.length_take]
      omega
    rcases hbytes : (data.drop offset).take size with _ | ⟨b, _ | ⟨c, bs⟩⟩
    · rfl
    · rfl
    · rw [hbytes] at hlen
      simp at hlen

/-- A signed number is read as the ECU reads it, if its bytes are all there. -/
theorem getIntFromPayload_eq {size : ℕ} {data : List UInt8} {offset : ℕ}
    (h : offset + size ≤ data.length) :
    getIntFromPayload size data offset = ofIntBytes ((data.drop offset).take size) := by
  have hlen : ((data.drop offset).take size).length = size := by
    rw [List.length_take, List.length_drop]
    omega
  rw [getIntFromPayload, getValueFromPayload_eq, ofIntBytes, hlen]

end Client

end VehicleStack
