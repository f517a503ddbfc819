import VehicleStack.Lib.BigEndian
import VehicleStack.Ecu.MotorController

/-!
# The ECU's SOME/IP Service 3

`SOMEIP_Service3_Callback` of `someip.c`, which sets the interval of the
emergency alert and drives the motor. A datagram is copied into a receive buffer
of 512 bytes that is not initialised, and the callback reads fixed positions of
the buffer whatever the datagram's length; what lies past the datagram is the
parameter `leftover` of the model.

The shifts and ors that put an integer together from bytes are
`VehicleStack.BigEndian.ofIntBytes`, and `htonl` with `memcpy` is
`VehicleStack.BigEndian.toIntBytes`.
-/

namespace VehicleStack

namespace Ecu

open BigEndian

/-! ### The emergency alert's interval -/

/-- `g_toggle_interval_ms` of `emer_alert.c`. -/
structure EmerAlert where
  toggleIntervalMs : ℤ := -1
  deriving DecidableEq

/-- `EmerAlert_Set_Interval`. -/
def EmerAlert.setInterval (a : EmerAlert) (toggleIntervalMs : ℤ) : EmerAlert × Bool :=
  if toggleIntervalMs = a.toggleIntervalMs then (a, false)
  else ({ a with toggleIntervalMs := toggleIntervalMs }, true)

/-! ### Messages -/

/-- The receive buffer once a datagram has been copied into it. -/
def rxBuf (leftover : ℕ → UInt8) (payload : List UInt8) (i : ℕ) : UInt8 :=
  payload[i]?.getD (leftover i)

/-- `SOMEIP_Update_Length`: the length field counts the bytes after it. -/
def updateLength (txBuf : List UInt8) : List UInt8 :=
  txBuf.take 4 ++ toBytes 4 (txBuf.length - 8) ++ txBuf.drop 8

/-- The reply to a request: its header with the message type of a response, the
data, and the length filled in. -/
def reply (rx : ℕ → UInt8) (data : List UInt8) : List UInt8 :=
  updateLength (((List.range 16).map rx).set 14 0x80 ++ data)

/-- **The bytes of a reply.** -/
theorem reply_eq (rx : ℕ → UInt8) (data : List UInt8) : reply rx data =
    [rx 0, rx 1, rx 2, rx 3] ++ toBytes 4 (data.length + 8) ++
      [rx 8, rx 9, rx 10, rx 11, rx 12, rx 13, 0x80, rx 15] ++ data := by
  have hlen : (((List.range 16).map rx).set 14 0x80 ++ data).length - 8 = data.length + 8 := by
    rw [List.length_append, List.length_set, List.length_map, List.length_range]
    omega
  rw [reply, updateLength, hlen]
  rfl

/-- `Serialize_EmerAlertData`. -/
def serializeEmerAlertData (intervalMs : ℤ) : List UInt8 := toIntBytes 8 intervalMs

/-- `Serialize_MotorControllerData`. -/
def serializeMotorControllerData (d : MotorControllerData) : List UInt8 :=
  toIntBytes 4 d.x ++ toIntBytes 4 d.y ++ toIntBytes 4 d.motorChASpeed ++
    toIntBytes 4 d.motorChBSpeed

/-- What Service 3 works on: the two controllers and the copies of their data that
the callback keeps for its replies. -/
structure Service3 where
  emerAlert : EmerAlert := {}
  motor : MotorController := {}
  emerAlertLatestData : ℤ := 0
  motorControllerLatestData : MotorControllerData := {}
  deriving DecidableEq

namespace Service3

/-- The method `0x0301` of `SOMEIP_Service3_Callback`. -/
def alertMethod (s : Service3) (rx : ℕ → UInt8) : Service3 × Option (List UInt8) :=
  let cycleMs := ofIntBytes [rx 16, rx 17, rx 18, rx 19, rx 20, rx 21, rx 22, rx 23]
  let set := s.emerAlert.setInterval cycleMs
  let s := { s with
    emerAlert := set.1
    emerAlertLatestData := if set.2 then set.1.toggleIntervalMs else s.emerAlertLatestData }
  (s, some (reply rx (serializeEmerAlertData s.emerAlertLatestData)))

/-- The method `0x0302` of `SOMEIP_Service3_Callback`. -/
def motorMethod (s : Service3) (rx : ℕ → UInt8) : Service3 × Option (List UInt8) :=
  let motorX := ofIntBytes [rx 16, rx 17, rx 18, rx 19]
  let motorY := ofIntBytes [rx 20, rx 21, rx 22, rx 23]
  let processed := s.motor.processJoystickInput motorX motorY
  let s := { s with
    motor := processed.1
    motorControllerLatestData :=
      if processed.2 then processed.1.latestData else s.motorControllerLatestData }
  (s, some (reply rx (serializeMotorControllerData s.motorControllerLatestData)))

/-- `SOMEIP_Service3_Callback`: the new state and the reply, if one is sent. -/
def callback (leftover : ℕ → UInt8) (s : Service3) (payload : List UInt8) :
    Service3 × Option (List UInt8) :=
  if payload.length < 16 ∨ 512 < payload.length then (s, none)
  else
    let rx := rxBuf leftover payload
    let serviceId := (rx 0).toNat * 256 + (rx 1).toNat
    let methodId := (rx 2).toNat * 256 + (rx 3).toNat
    let messageType := rx 14
    if serviceId = 0x0300 ∧ messageType = 0x00 then
      if methodId = 0x0301 then s.alertMethod rx
      else if methodId = 0x0302 then s.motorMethod rx
      else (s, none)
    else (s, none)

/-- The alert method leaves the motor alone. -/
theorem alertMethod_eq (s : Service3) (rx : ℕ → UInt8) : ∃ alert data answer,
    s.alertMethod rx =
      ({ s with emerAlert := alert, emerAlertLatestData := data }, answer) := ⟨_, _, _, rfl⟩

/-- The motor method hands the two integers to the motor controller. -/
theorem motorMethod_eq (s : Service3) (rx : ℕ → UInt8) : ∃ motor data answer,
    s.motorMethod rx =
      ({ s with motor := motor, motorControllerLatestData := data }, answer) ∧
    motor = (s.motor.processJoystickInput (ofIntBytes [rx 16, rx 17, rx 18, rx 19])
      (ofIntBytes [rx 20, rx 21, rx 22, rx 23])).1 := ⟨_, _, _, rfl, rfl⟩

/-- A request for the method `0x0302` of service `0x0300` goes to the motor method. -/
theorem callback_of_motorRequest {leftover : ℕ → UInt8} {s : Service3} {payload : List UInt8}
    (hlen : 16 ≤ payload.length ∧ payload.length ≤ 512)
    (h₀ : rxBuf leftover payload 0 = 0x03) (h₁ : rxBuf leftover payload 1 = 0x00)
    (h₂ : rxBuf leftover payload 2 = 0x03) (h₃ : rxBuf leftover payload 3 = 0x02)
    (h₁₄ : rxBuf leftover payload 14 = 0x00) :
    s.callback leftover payload = s.motorMethod (rxBuf leftover payload) := by
  have hservice : (0x03 : UInt8).toNat * 256 + (0x00 : UInt8).toNat = 0x0300 := by decide
  have halert : ¬(0x03 : UInt8).toNat * 256 + (0x02 : UInt8).toNat = 0x0301 := by decide
  have hmotor : (0x03 : UInt8).toNat * 256 + (0x02 : UInt8).toNat = 0x0302 := by decide
  rw [callback, if_neg (by omega)]
  simp only [h₀, h₁, h₂, h₃, h₁₄, hservice, and_self, if_true, if_neg halert, if_pos hmotor]

/-- A datagram as the ECU receives it, with what its buffer happened to hold. -/
structure Datagram where
  leftover : ℕ → UInt8
  payload : List UInt8

/-- The service after a sequence of datagrams, from its start. -/
def after (datagrams : List Datagram) : Service3 :=
  Mealy.final (fun s d => callback d.leftover s d.payload) {} datagrams

/-- **The wheel speeds always belong to the last accepted coordinates**, whatever
datagrams arrive. -/
theorem steady_after (datagrams : List Datagram) : (after datagrams).motor.Steady := by
  refine Mealy.final_of_invariant (P := fun s : Service3 => s.motor.Steady)
    (Or.inl rfl) ?_ datagrams
  intro s d hs
  simp only [callback]
  split_ifs
  · exact hs
  · obtain ⟨alert, data, answer, h⟩ := s.alertMethod_eq (rxBuf d.leftover d.payload)
    rw [h]
    exact hs
  · obtain ⟨motor, data, answer, h, hmotor⟩ := s.motorMethod_eq (rxBuf d.leftover d.payload)
    have hsteady : motor.Steady := hmotor ▸ hs.processJoystickInput _ _
    rw [h]
    exact hsteady
  · exact hs
  · exact hs

end Service3

end Ecu

end VehicleStack
