import VehicleStack.Ecu.SomeIp
import Mathlib.Logic.Function.Basic

/-!
# Buzzer, lamps and emergency alert

`Buzzer.c`, `LED.c` and the rest of `emer_alert.c`, with
`SOMEIP_Service2_Callback` of `someip.c`, through which the buzzer and the lamps are
driven from outside. While the interval of the alert is not negative, that callback
leaves the buzzer and the back lamp alone.

A callback works on a buffer of which the datagram fills the beginning only, and
`LED_GetData` on a table of three cells whatever the side it is asked for. What lies
behind the datagram and behind the table is the parameter
`VehicleStack.Ecu.Beyond` of the model.

The main loop is `VehicleStack.Ecu.Actuators.iterate`.
-/

namespace VehicleStack

namespace Ecu

open BigEndian

/-! ### The buzzer -/

/-- `MAX_FREQ`. -/
def maxFreq : ℤ := 250000

/-- The variables of `Buzzer.c`, as `Buzzer_Init` leaves them. The timer runs while
`isOn` holds. -/
structure Buzzer where
  frequency : ℤ := maxFreq
  cntMax : ℤ := 1
  isOn : Bool := false
  deriving DecidableEq

/-- `BuzzerData_t`. -/
structure BuzzerData where
  isOn : Bool := false
  frequency : ℤ := 0
  deriving DecidableEq

namespace Buzzer

/-- `Buzzer_GetData`. -/
def getData (b : Buzzer) : BuzzerData := { isOn := b.isOn, frequency := b.frequency }

/-- `Buzzer_SetFrequency`. -/
def setFrequency (b : Buzzer) (freq : ℤ) : Buzzer × Bool :=
  if ¬ (1 ≤ freq ∧ freq ≤ maxFreq) then (b, false)
  else ({ b with frequency := freq, cntMax := maxFreq.tdiv freq }, true)

/-- `Buzzer_On`. -/
def on (b : Buzzer) : Buzzer := { b with isOn := true }

/-- `Buzzer_Off`. -/
def off (b : Buzzer) : Buzzer := { b with isOn := false }

/-- What the method `0x0201` does with a command and a frequency. -/
def control (b : Buzzer) (buzzerCommand : UInt8) (frequency : ℤ) : Buzzer :=
  let b := (b.setFrequency frequency).1
  if buzzerCommand = 0x00 then b.off else if buzzerCommand = 0x01 then b.on else b

end Buzzer

/-! ### The lamps -/

/-- `LedSide`. -/
inductive LedSide where
  | back
  | frontDown
  | frontUp
  deriving DecidableEq

/-- The side a number stands for. -/
def LedSide.ofByte? (side : UInt8) : Option LedSide :=
  if side = 0 then some .back
  else if side = 1 then some .frontDown
  else if side = 2 then some .frontUp
  else none

/-- The pins of a side, by their numbers in `GPIO_SetLed`. -/
def LedSide.pins : LedSide → List ℕ
  | back => [3, 4]
  | frontDown => [2]
  | frontUp => [1]

/-- The table of `LED.c` and the pins it stands for. -/
structure Led where
  isOn : LedSide → Bool := fun _ => false
  pin : ℕ → Bool := fun _ => false

/-- `LedData_t`; the side is the number `LED_GetData` was asked for. -/
structure LedData where
  side : UInt8 := 0
  isOn : Bool := false
  deriving DecidableEq

namespace Led

/-- `LED_On`, of one of the three sides. -/
def on (l : Led) (side : LedSide) : Led where
  isOn := Function.update l.isOn side true
  pin := fun n => if n ∈ side.pins then true else l.pin n

/-- `LED_Off`. -/
def off (l : Led) (side : LedSide) : Led where
  isOn := Function.update l.isOn side false
  pin := fun n => if n ∈ side.pins then false else l.pin n

/-- `LED_Toggle`. -/
def toggle (l : Led) (side : LedSide) : Led where
  isOn := Function.update l.isOn side (!l.isOn side)
  pin := fun n => if n ∈ side.pins then !l.pin n else l.pin n

/-- What the method `0x0202` does with a side and a command. -/
def control (l : Led) (ledSide ledCommand : UInt8) : Led :=
  match LedSide.ofByte? ledSide with
  | none => l
  | some side =>
    if ledCommand = 0x00 then l.off side
    else if ledCommand = 0x01 then l.on side
    else if ledCommand = 0x02 then l.toggle side
    else l

/-- `LED_GetData`: a number that is no side indexes what lies behind the table. -/
def getData (beside : ℕ → Bool) (l : Led) (side : UInt8) : LedData where
  side := side
  isOn :=
    match LedSide.ofByte? side with
    | some s => l.isOn s
    | none => beside side.toNat

end Led

/-! ### `SOMEIP_Service2_Callback` -/

/-- The memory a callback reads by accident. -/
structure Beyond where
  /-- The receive buffer behind the datagram, or for `someipsd.c` the memory there. -/
  rxBuf : ℕ → UInt8
  /-- What lies behind the table of the lamps. -/
  ledTable : ℕ → Bool

/-- `Serialize_BuzzerData`. -/
def serializeBuzzerData (d : BuzzerData) : List UInt8 :=
  (if d.isOn then 0x01 else 0x00) :: toIntBytes 4 d.frequency

/-- `Serialize_LedData`. -/
def serializeLedData (d : LedData) : List UInt8 := [d.side, if d.isOn then 0x01 else 0x00]

/-- `ServiceID`. -/
def serviceId (rx : ℕ → UInt8) : ℕ := (rx 0).toNat * 256 + (rx 1).toNat

/-- `MethodID`. -/
def methodId (rx : ℕ → UInt8) : ℕ := (rx 2).toNat * 256 + (rx 3).toNat

/-- What the services from outside and the alert drive. The copies that the callback of
Service 2 keeps of what it last sent are written before every use and are left out. -/
structure Actuators where
  buzzer : Buzzer := {}
  led : Led := {}
  service3 : Service3 := {}
  isAlertOn : Bool := false
  lastToggleTimeMs : UInt64 := 0

namespace Actuators

/-- `g_toggle_interval_ms`. -/
def interval (s : Actuators) : ℤ := s.service3.emerAlert.toggleIntervalMs

/-- The method `0x0201`. -/
def buzzerMethod (s : Actuators) (rx : ℕ → UInt8) : Actuators × Option (List UInt8) :=
  let s :=
    if 0 ≤ s.interval then s
    else { s with
      buzzer := s.buzzer.control (rx 16) (ofIntBytes [rx 17, rx 18, rx 19, rx 20]) }
  (s, some (reply rx (serializeBuzzerData s.buzzer.getData)))

/-- The method `0x0202`. -/
def ledMethod (beyond : Beyond) (s : Actuators) (rx : ℕ → UInt8) :
    Actuators × Option (List UInt8) :=
  let s :=
    if rx 16 = 0 ∧ 0 ≤ s.interval then s
    else { s with led := s.led.control (rx 16) (rx 17) }
  (s, some (reply rx (serializeLedData (s.led.getData beyond.ledTable (rx 16)))))

/-- `SOMEIP_Service2_Callback`. -/
def service2Callback (beyond : Beyond) (s : Actuators) (payload : List UInt8) :
    Actuators × Option (List UInt8) :=
  if payload.length < 16 ∨ 512 < payload.length then (s, none)
  else
    let rx := rxBuf beyond.rxBuf payload
    if serviceId rx = 0x0200 ∧ rx 14 = 0x00 then
      if methodId rx = 0x0201 then s.buzzerMethod rx
      else if methodId rx = 0x0202 then s.ledMethod beyond rx
      else (s, none)
    else (s, none)

/-- `SOMEIP_Service3_Callback`. -/
def service3Callback (beyond : Beyond) (s : Actuators) (payload : List UInt8) :
    Actuators × Option (List UInt8) :=
  let r := Service3.callback beyond.rxBuf s.service3 payload
  ({ s with service3 := r.1 }, r.2)

/-! ### The alert -/

/-- `EmerAlert_On`. -/
def emerAlertOn (s : Actuators) : Actuators :=
  if ¬ s.isAlertOn then
    { s with
      led := s.led.on .back
      buzzer := (s.buzzer.setFrequency 500).1.on
      isAlertOn := true }
  else s

/-- `EmerAlert_Off`. -/
def emerAlertOff (s : Actuators) : Actuators :=
  if s.isAlertOn then
    { s with led := s.led.off .back, buzzer := s.buzzer.off, isAlertOn := false }
  else s

/-- `EmerAlert_Toggle`. -/
def emerAlertToggle (s : Actuators) : Actuators :=
  if ¬ s.isAlertOn then
    { s with
      isAlertOn := true
      led := s.led.on .back
      buzzer := (s.buzzer.setFrequency 500).1.on }
  else { s with isAlertOn := false, led := s.led.off .back, buzzer := s.buzzer.off }

/-- `EmerAlert_Update_Periodic`, called at a time. -/
def emerAlertUpdatePeriodic (s : Actuators) (curTimeMs : UInt64) : Actuators :=
  if 0 < s.interval then
    if s.interval.toNat ≤ (curTimeMs - s.lastToggleTimeMs).toNat then
      { s.emerAlertToggle with lastToggleTimeMs := curTimeMs }
    else s
  else if s.interval < 0 then { s.emerAlertOff with lastToggleTimeMs := 0 }
  else { s.emerAlertOn with lastToggleTimeMs := 0 }

/-! ### The main loop -/

/-- The ports with a callback. -/
inductive Port where
  | service1
  | service2
  | service3
  | sd
  deriving DecidableEq

/-- What the callback of a port makes of the actuators. Service 1 and the service
discovery do not touch them. -/
def receive (beyond : Beyond) (s : Actuators) (port : Port) (payload : List UInt8) : Actuators :=
  match port with
  | .service2 => (s.service2Callback beyond payload).1
  | .service3 => (s.service3Callback beyond payload).1
  | .service1 | .sd => s

/-- What happens between two calls of `EmerAlert_Update_Periodic`. -/
structure Iteration where
  /-- The datagram handled, and on which port. -/
  datagram : Option (Port × List UInt8)
  beyond : Beyond
  timeMs : UInt64

/-- An iteration of the main loop, as far as the actuators go. -/
def iterate (s : Actuators) (i : Iteration) : Actuators :=
  let s :=
    match i.datagram with
    | none => s
    | some (port, payload) => s.receive i.beyond port payload
  s.emerAlertUpdatePeriodic i.timeMs

end Actuators

/-! ### What a command leaves alone -/

namespace Led

/-- Switching another side does nothing to the back. -/
theorem control_back {l : Led} {ledSide : UInt8} (h : ledSide ≠ 0) (ledCommand : UInt8) :
    (l.control ledSide ledCommand).isOn .back = l.isOn .back ∧
      ∀ n ∈ LedSide.back.pins, (l.control ledSide ledCommand).pin n = l.pin n := by
  have hback : ∀ side, LedSide.ofByte? ledSide = some side → side ≠ .back := by
    rintro side hside rfl
    rw [LedSide.ofByte?, if_neg h] at hside
    split at hside
    · exact absurd (Option.some.inj hside) nofun
    · split at hside
      · exact absurd (Option.some.inj hside) nofun
      · cases hside
  have hpins : ∀ side : LedSide, side ≠ .back → ∀ n ∈ LedSide.back.pins, n ∉ side.pins := by
    intro side hne
    cases side
    · exact absurd rfl hne
    · decide
    · decide
  rw [control]
  cases hside : LedSide.ofByte? ledSide with
  | none => exact ⟨rfl, fun _ _ => rfl⟩
  | some side =>
    have hne := hback side hside
    have hupdate : ∀ b, Function.update l.isOn side b .back = l.isOn .back := fun b =>
      Function.update_of_ne hne.symm _ _
    simp only
    split_ifs
    · exact ⟨hupdate _, fun n hn => if_neg (hpins side hne n hn)⟩
    · exact ⟨hupdate _, fun n hn => if_neg (hpins side hne n hn)⟩
    · exact ⟨hupdate _, fun n hn => if_neg (hpins side hne n hn)⟩
    · exact ⟨rfl, fun _ _ => rfl⟩

end Led

end Ecu

end VehicleStack
