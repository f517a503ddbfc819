import VehicleStack.Lib.Mealy
import Mathlib.Order.Basic
import Mathlib.Data.Int.Basic
import Mathlib.Tactic.Ring

/-!
# The ECU's motor controller

`motor_controller.c` and the two channels of `Motor.c` it drives. A pair of
stick coordinates, each from 0 to 99 with 50 in the middle, is mapped to two
speeds, mixed into a left and a right wheel speed and clamped to a hundred.

The C `int`s are integers here: coordinates are compared with their range before
anything is computed from them, and what is computed then is at most a few
thousand.

The invariant `VehicleStack.Ecu.Steady` is what makes the early return on
unchanged coordinates harmless: the wheel speeds are those of the last accepted
coordinates, or the motor has not been moved since power-on.
-/

namespace VehicleStack

namespace Ecu

/-- `my_abs`. -/
def myAbs (value : ℤ) : ℤ := if value < 0 then -value else value

/-- `my_clamp`. -/
def myClamp (value lo hi : ℤ) : ℤ :=
  if hi < value then hi else if value < lo then lo else value

/-! ### The motor channels -/

/-- One channel of `Motor.c`: the PWM duty in tenths of a percent, the direction
(`true` is forward) and the brake. -/
structure MotorChannel where
  duty : ℤ := 0
  dir : Bool := true
  brake : Bool := true
  deriving DecidableEq

/-- `Motor_SetChA` and `Motor_SetChB`, on their channel. -/
def MotorChannel.set (_ : MotorChannel) (duty : ℤ) (dir : Bool) : MotorChannel where
  duty := duty * 10
  dir := dir
  brake := if 0 < duty then false else true

/-- `MotorControllerData_t`. -/
structure MotorControllerData where
  x : ℤ := 0
  y : ℤ := 0
  motorChASpeed : ℤ := 0
  motorChBSpeed : ℤ := 0
  deriving DecidableEq

/-- The state of `motor_controller.c` and of the motor, as `Motor_Init` leaves
them. -/
structure MotorController where
  latestData : MotorControllerData := {}
  preX : ℤ := 0
  preY : ℤ := 0
  chA : MotorChannel := {}
  chB : MotorChannel := {}
  deriving DecidableEq

namespace MotorController

/-! ### The code -/

/-- `MotorController_SetSpeed`. -/
def setSpeed (c : MotorController) (leftSpeed rightSpeed : ℤ) : MotorController :=
  { c with
    latestData := { c.latestData with motorChASpeed := rightSpeed, motorChBSpeed := leftSpeed }
    chA := c.chA.set (myAbs rightSpeed) (decide (0 ≤ rightSpeed))
    chB := c.chB.set (myAbs leftSpeed) (decide (0 ≤ leftSpeed)) }

/-- `MotorController_MapJoystickValue`. -/
def mapJoystickValue (value deadzone : ℤ) : ℤ :=
  let offset := value - 50
  if myAbs offset < deadzone then 0
  else
    let offset := offset + if 0 < offset then -deadzone else deadzone
    let maxOffset := 50 - deadzone
    let maxOffset := if maxOffset ≤ 0 then 1 else maxOffset
    (offset * 100).tdiv maxOffset

/-- The left wheel speed of a pair of coordinates, as `ProcessJoystickInput`
computes it. -/
def leftSpeed (x y : ℤ) : ℤ :=
  let xSpeed := (mapJoystickValue x 8 * 60).tdiv 100
  let ySpeed := mapJoystickValue y 0
  myClamp (ySpeed + xSpeed) (-100) 100

/-- The right wheel speed of a pair of coordinates. -/
def rightSpeed (x y : ℤ) : ℤ :=
  let xSpeed := (mapJoystickValue x 8 * 60).tdiv 100
  let ySpeed := mapJoystickValue y 0
  myClamp (ySpeed - xSpeed) (-100) 100

/-- The range `JOYSTICK_MIN` to `JOYSTICK_MAX` that both coordinates must be in. -/
def InRange (x y : ℤ) : Prop := 0 ≤ x ∧ x ≤ 99 ∧ 0 ≤ y ∧ y ≤ 99

instance (x y : ℤ) : Decidable (InRange x y) := inferInstanceAs (Decidable (_ ∧ _))

/-- `MotorController_ProcessJoystickInput`. -/
def processJoystickInput (c : MotorController) (x y : ℤ) : MotorController × Bool :=
  if x < 0 ∨ 99 < x ∨ y < 0 ∨ 99 < y then (c, false)
  else if x = c.preX ∧ y = c.preY then (c, false)
  else
    let c := { c with preX := x, preY := y, latestData := { c.latestData with x := x, y := y } }
    (c.setSpeed (leftSpeed x y) (rightSpeed x y), true)

/-- The sum of the wheel speeds: which way the car goes. -/
def drive (c : MotorController) : ℤ := c.latestData.motorChBSpeed + c.latestData.motorChASpeed

/-! ### Which way a pair of coordinates drives -/

/-- The vertical coordinate maps to twice its distance from the middle. -/
theorem mapJoystickValue_zero (y : ℤ) : mapJoystickValue y 0 = 2 * (y - 50) := by
  have habs : ¬myAbs (y - 50) < 0 := by
    unfold myAbs
    split_ifs <;> omega
  have hoffset : y - 50 + (if 0 < y - 50 then (-0 : ℤ) else 0) = y - 50 := by
    split_ifs <;> omega
  simp only [mapJoystickValue, if_neg habs, hoffset]
  rw [if_neg (by omega), show (y - 50) * 100 = 2 * (y - 50) * (50 - 0) by ring]
  exact Int.mul_tdiv_cancel _ (by omega)

/-- A truncated quotient is bounded as the exact one is. -/
theorem tdiv_mem {a b k : ℤ} (hb : 0 < b) (hlo : -(k * b) ≤ a) (hhi : a ≤ k * b) :
    -k ≤ a.tdiv b ∧ a.tdiv b ≤ k := by
  have hnonneg : ∀ {a : ℤ}, 0 ≤ a → a ≤ k * b → 0 ≤ a.tdiv b ∧ a.tdiv b ≤ k := by
    intro a ha hle
    rw [Int.tdiv_eq_ediv_of_nonneg ha]
    exact ⟨Int.ediv_nonneg ha hb.le, Int.ediv_le_of_le_mul hb hle⟩
  rcases le_total 0 a with ha | ha
  · obtain ⟨h0, hk⟩ := hnonneg ha hhi
    omega
  · obtain ⟨h0, hk⟩ := hnonneg (a := -a) (by omega) (by omega)
    rw [Int.neg_tdiv] at h0 hk
    omega

/-- The horizontal coordinate contributes at most sixty percent. -/
theorem xSpeed_mem {x : ℤ} (h0 : 0 ≤ x) (h : x ≤ 99) :
    -60 ≤ (mapJoystickValue x 8 * 60).tdiv 100 ∧ (mapJoystickValue x 8 * 60).tdiv 100 ≤ 60 := by
  have hmap : -100 ≤ mapJoystickValue x 8 ∧ mapJoystickValue x 8 ≤ 100 := by
    have hmax : ¬(50 - 8 : ℤ) ≤ 0 := by omega
    unfold mapJoystickValue
    simp only [if_neg hmax]
    split_ifs
    · omega
    · exact tdiv_mem (by omega) (by omega) (by omega)
    · exact tdiv_mem (by omega) (by omega) (by omega)
  exact tdiv_mem (by omega) (by omega) (by omega)

/-- **The mix keeps the direction of the vertical coordinate**: steering slows a
wheel or speeds it up, but never enough to turn the sum around. -/
theorem sign_leftSpeed_add_rightSpeed {x y : ℤ} (hx : 0 ≤ x) (hx' : x ≤ 99) :
    (leftSpeed x y + rightSpeed x y).sign = (y - 50).sign := by
  obtain ⟨hlo, hhi⟩ := xSpeed_mem hx hx'
  unfold leftSpeed rightSpeed
  rw [mapJoystickValue_zero]
  generalize (mapJoystickValue x 8 * 60).tdiv 100 = a at hlo hhi
  simp only [myClamp]
  rcases lt_trichotomy y 50 with hy | hy | hy
  · rw [Int.sign_eq_neg_one_of_neg (by omega : y - 50 < 0)]
    refine Int.sign_eq_neg_one_of_neg ?_
    split_ifs <;> omega
  · rw [hy]
    have hz : ∀ z : ℤ, z = 0 → z.sign = (50 - 50 : ℤ).sign := fun z hz => by rw [hz]; rfl
    refine hz _ ?_
    split_ifs <;> omega
  · rw [Int.sign_eq_one_of_pos (by omega : 0 < y - 50)]
    refine Int.sign_eq_one_of_pos ?_
    split_ifs <;> omega

/-! ### The invariant -/

/-- **The wheel speeds are those of the last accepted coordinates**, or the motor
is as it was at power-on. -/
def Steady (c : MotorController) : Prop :=
  c = {} ∨ (InRange c.preX c.preY ∧ c.latestData.motorChBSpeed = leftSpeed c.preX c.preY ∧
    c.latestData.motorChASpeed = rightSpeed c.preX c.preY)

theorem processJoystickInput_of_not_inRange {c : MotorController} {x y : ℤ}
    (h : ¬InRange x y) : c.processJoystickInput x y = (c, false) := by
  unfold InRange at h
  rw [processJoystickInput, if_pos (by omega)]

theorem processJoystickInput_of_same {c : MotorController} {x y : ℤ} (hx : x = c.preX)
    (hy : y = c.preY) : c.processJoystickInput x y = (c, false) := by
  unfold processJoystickInput
  split_ifs with h h'
  · rfl
  · rfl
  · exact absurd ⟨hx, hy⟩ h'

theorem processJoystickInput_of_new {c : MotorController} {x y : ℤ} (h : InRange x y)
    (hne : ¬(x = c.preX ∧ y = c.preY)) : c.processJoystickInput x y =
      (setSpeed { c with preX := x, preY := y, latestData := { c.latestData with x := x, y := y } }
        (leftSpeed x y) (rightSpeed x y), true) := by
  obtain ⟨hx, hx', hy, hy'⟩ := h
  rw [processJoystickInput, if_neg (by omega), if_neg hne]

/-- **Every input keeps the invariant.** -/
theorem Steady.processJoystickInput {c : MotorController} (hc : c.Steady) (x y : ℤ) :
    (c.processJoystickInput x y).1.Steady := by
  by_cases hr : InRange x y
  · by_cases hs : x = c.preX ∧ y = c.preY
    · rw [processJoystickInput_of_same hs.1 hs.2]
      exact hc
    · rw [processJoystickInput_of_new hr hs]
      exact Or.inr ⟨hr, rfl, rfl⟩
  · rw [processJoystickInput_of_not_inRange hr]
    exact hc

/-- **What the wheels do after coordinates in range**: the speeds of these, unless
the motor is as at power-on and the coordinates are those it started with. -/
theorem Steady.drive_processJoystickInput {c : MotorController} (hc : c.Steady) {x y : ℤ}
    (h : InRange x y) : (c.processJoystickInput x y).1.drive =
      if c = {} ∧ x = 0 ∧ y = 0 then 0 else leftSpeed x y + rightSpeed x y := by
  by_cases hs : x = c.preX ∧ y = c.preY
  · rw [processJoystickInput_of_same hs.1 hs.2]
    rcases hc with rfl | ⟨-, hleft, hright⟩
    · rw [if_pos ⟨rfl, hs.1, hs.2⟩]
      rfl
    · by_cases hpower : c = {} ∧ x = 0 ∧ y = 0
      · rw [if_pos hpower, hpower.1]
        rfl
      · rw [if_neg hpower, drive, hleft, hright, hs.1, hs.2]
  · have hpower : ¬(c = {} ∧ x = 0 ∧ y = 0) := by
      rintro ⟨rfl, hx, hy⟩
      exact hs ⟨hx, hy⟩
    rw [processJoystickInput_of_new h hs, if_neg hpower]
    rfl

end MotorController

end Ecu

end VehicleStack
