import Mathlib.Data.Int.Basic

/-!
# What the realtime threads share

The records of `shared.h`, under the source's names. A C `int` is an integer
here and a timestamp is a natural number: `now_ms` divides a nanosecond count
that fits in 63 bits, so the additions and the one multiplication by a thousand
the control loop makes of it stay far below `2^64`, and the only subtractions of
timestamps are guarded by a comparison.

`VehicleStack.Realtime.clamp` is `std::clamp`, which every stage that produces a
throttle or a steer value goes through.
-/

namespace VehicleStack

namespace Realtime

/-- `std::clamp`. -/
def clamp (v lo hi : ℤ) : ℤ :=
  if v < lo then lo else if hi < v then hi else v

theorem le_clamp {v lo hi : ℤ} (h : lo ≤ hi) : lo ≤ clamp v lo hi := by
  unfold clamp
  split_ifs <;> omega

theorem clamp_le {v lo hi : ℤ} (h : lo ≤ hi) : clamp v lo hi ≤ hi := by
  unfold clamp
  split_ifs <;> omega

theorem clamp_of_mem {v lo hi : ℤ} (hlo : lo ≤ v) (hhi : v ≤ hi) : clamp v lo hi = v := by
  rw [clamp, if_neg (by omega), if_neg (by omega)]

/-- `JoystickData`: the last stick position, each coordinate normally 0 to 99. -/
structure JoystickData where
  x : ℤ := 0
  y : ℤ := 0
  tsMs : ℕ := 0
  deriving DecidableEq

/-- `SensorData`: distances in millimetres, negative when there is no reading,
each with the time it was taken. -/
structure SensorData where
  ambientLux : ℤ := 0
  frontTofMm : ℤ := 0
  leftUltraMm : ℤ := 0
  rightUltraMm : ℤ := 0
  rearUltraMm : ℤ := 0
  tsMs : ℕ := 0
  frontTsUs : ℕ := 0
  leftTsUs : ℕ := 0
  rightTsUs : ℕ := 0
  rearTsUs : ℕ := 0
  deriving DecidableEq

/-- `ControlMode`. -/
inductive ControlMode where
  | manual
  | assist
  | auto
  deriving DecidableEq

/-- `ControlOutput`, with the defaults its declaration gives. -/
structure ControlOutput where
  buzzerOn : Bool := false
  frequency : ℤ := 500
  ledBackOn : Bool := false
  ledFrontDownOn : Bool := false
  ledFrontUpOn : Bool := false
  alertIntervalMs : ℤ := -1
  throttle : ℤ := 0
  steer : ℤ := 0
  deriving DecidableEq

/-- `SharedData`, the record behind the mutex. -/
structure SharedData where
  engineOn : Bool := false
  doorLocked : Bool := false
  running : Bool := true
  joy : JoystickData := {}
  sensor : SensorData := {}
  mode : ControlMode := .assist
  out : ControlOutput := {}
  deriving DecidableEq

end Realtime

end VehicleStack
