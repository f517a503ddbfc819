import Mathlib.Algebra.Group.Int.Defs
import Mathlib.Data.List.TakeWhile
import Mathlib.Data.List.Induction
import Mathlib.Tactic.NormNum
import Mathlib.Tactic.Positivity
import VehicleStack.Lib.Periodic
import VehicleStack.Ecu.MotorController
import VehicleStack.Realtime.EmergencyBrake
import VehicleStack.Realtime.Reference

/-!
# The control loop of the earlier vehicle

`run_ccu` of `reference_1stpj/ccu.c`: in each pass it takes a command of the user, reads the
sensors, looks after emergency braking, then after parking, and at the end hands the motor the two
numbers that are left, if they are new. What the motor was given last is kept apart from what the
motor controller keeps.

The motor controller of that vehicle is not in the repository; it is taken to be the one of the
ECU, `MotorController_ProcessJoystickInput` of `motor_controller.c`, which is the function the loop
calls. Where the user's command comes from is not there either: a pass gets the buffer as
`Bluetooth_RxQueue_PopString` leaves it, and the sensors' records, if there are new ones, and every
time it looks at the clock.

`VehicleStack.Realtime.Ccu.forward_pass_iff` says what emergency braking is worth: once it is on and
nothing is being parked, the car stands or goes back after the pass, unless the user's command has a
number below zero. `VehicleStack.Realtime.Ccu.stopped_by` says how soon: forty milliseconds after
the readings have become short.
-/

namespace VehicleStack

namespace Realtime

open Ecu (MotorController)
open Ecu.MotorController (InRange)

/-! ### The user's command -/

/-- `isspace` and `isdigit`, of a byte. -/
def isSpaceByte (c : UInt8) : Bool := c = 32 || (9 ≤ c && c ≤ 13)
def isDigitByte (c : UInt8) : Bool := 48 ≤ c && c ≤ 57

/-- The number that decimal digits spell. -/
def digitsValue (s : List UInt8) : ℤ :=
  (s.takeWhile isDigitByte).foldl (fun n c => 10 * n + ((c.toNat : ℤ) - 48)) 0

/-- `atoi`. -/
def atoi (s : List UInt8) : ℤ :=
  let s := s.dropWhile isSpaceByte
  if s.head? = some 45 then -digitsValue s.tail
  else if s.head? = some 43 then digitsValue s.tail
  else digitsValue s

/-- What a command says. -/
inductive UserCmd where
  | move (motorX motorY : ℤ)
  | park
  | invalid
  deriving DecidableEq

/-- The `switch` over the command; the null bytes it writes end the two numbers. -/
def parseUserCmd (userCmd : ℕ → UInt8) : UserCmd :=
  if userCmd 0 = 77 then .move (atoi [userCmd 1, userCmd 2]) (atoi [userCmd 3, userCmd 4])
  else if userCmd 0 = 80 then .park
  else .invalid

/-! ### The loop -/

/-- `MOTOR_STOP`. -/
def motorStop : ℤ := 50

/-- `CYCLE_INTERVAL_US`. -/
def cycleIntervalUs : ℕ := 40000

/-- What a pass finds: the buffer of the command that was popped, if one was, the sensors' new
records, and the clock at the places where it is read. -/
structure CcuInputs where
  userCmd : Option (ℕ → UInt8)
  tof : Option ToFData
  ult : Fin 3 → Option UltrasonicData
  aebTime : ℕ
  apsTime : ℕ
  resultTime : ℕ
  emerLightApsDone : Bool

/-- The variables of `run_ccu`, of `AEB.c` and `APS.c`, the motor, and the alert. -/
structure Ccu where
  tofLatestData : ToFData := ⟨0, 0⟩
  ultLatestData : Fin 3 → UltrasonicData := fun _ => ⟨0, 0⟩
  aebState : AebState := .normal
  aebLastUpdatedTime : ℕ := 0
  aps : Aps := {}
  apsLastUpdatedTime : ℕ := 0
  preMotorX : ℤ := motorStop
  preMotorY : ℤ := motorStop
  motor : MotorController := {}
  aebAlert : Bool := false

namespace Ccu

variable (fl : ℚ → ℚ)

/-- The pass up to the sensors: the command, and the numbers for the motor. -/
def readUserCmd (c : Ccu) (userCmd : Option (ℕ → UInt8)) : Ccu × ℤ × ℤ :=
  match userCmd.map parseUserCmd with
  | some (.move motorX motorY) => ({ c with aps := c.aps.setApsState 0 }, motorX, motorY)
  | some .park => ({ c with aps := c.aps.setApsState 1 }, c.preMotorX, c.preMotorY)
  | _ => (c, c.preMotorX, c.preMotorY)

/-- Reading the sensors. -/
def readSensors (c : Ccu) (i : CcuInputs) : Ccu :=
  { c with
    tofLatestData := i.tof.getD c.tofLatestData
    ultLatestData := fun k => (i.ult k).getD (c.ultLatestData k) }

/-- `distance_mm`. -/
def distanceMm (c : Ccu) : ℤ :=
  let front := fl (c.tofLatestData.distanceM * 1000)
  front.num.tdiv front.den

/-- `AEB_UpdateState`, once in a cycle. -/
def updateAeb (c : Ccu) (curTime : ℕ) : Ccu :=
  if cycleIntervalUs ≤ Aps.sensorDelay curTime c.aebLastUpdatedTime then
    { c with
      aebState := (AebReference.updateState c.aebState (c.distanceMm fl)
        c.motor.latestData.motorChASpeed c.motor.latestData.motorChBSpeed).1
      aebLastUpdatedTime := curTime }
  else c

/-- Emergency braking, unless the car is being parked. -/
def checkAeb (c : Ccu) (motorX motorY : ℤ) : Ccu × ℤ × ℤ :=
  if c.aebState = .emergency ∧ c.aps.apsState = 0 then
    let c := { c with aps := c.aps.setApsState 0, aebAlert := true }
    if motorStop < motorY then (c, motorStop, motorStop) else (c, motorX, motorY)
  else ({ c with aebAlert := false }, motorX, motorY)

/-- Parking. -/
def checkAps (c : Ccu) (i : CcuInputs) (motorX motorY : ℤ) : Ccu × ℤ × ℤ :=
  if c.aps.apsState ≠ 0 then
    if cycleIntervalUs ≤ Aps.sensorDelay i.apsTime c.apsLastUpdatedTime then
      let r := c.aps.updateApsResult fl
        ⟨i.resultTime, c.tofLatestData, c.ultLatestData, cycleIntervalUs, i.emerLightApsDone⟩
      let c := { c with aps := r.1, apsLastUpdatedTime := i.apsTime }
      if r.2 ≠ 0 then
        if c.aps.isApsDone ≠ 0 then
          ({ c with aps := c.aps.setApsState 0 }, c.aps.resultX, c.aps.resultY)
        else (c, c.aps.resultX, c.aps.resultY)
      else (c, motorX, motorY)
    else (c, motorX, motorY)
  else (c, motorX, motorY)

/-- Handing the motor its numbers, if they are new. -/
def driveMotor (c : Ccu) (motorX motorY : ℤ) : Ccu :=
  if ¬ (motorX = c.preMotorX ∧ motorY = c.preMotorY) then
    let r := c.motor.processJoystickInput motorX motorY
    if r.2 then { c with motor := r.1, preMotorX := motorX, preMotorY := motorY }
    else { c with motor := r.1 }
  else c

/-- The state in which emergency braking is decided upon, and the numbers for the motor by then. -/
def atAebCheck (c : Ccu) (i : CcuInputs) : Ccu × ℤ × ℤ :=
  let r := c.readUserCmd i.userCmd
  ((r.1.readSensors i).updateAeb fl i.aebTime, r.2)

/-- A pass of the loop. -/
def pass (c : Ccu) (i : CcuInputs) : Ccu :=
  let r := c.atAebCheck fl i
  let r := r.1.checkAeb r.2.1 r.2.2
  let r := r.1.checkAps fl i r.2.1 r.2.2
  r.1.driveMotor r.2.1 r.2.2

/-- The loop after some passes. -/
def after (passes : List CcuInputs) : Ccu := passes.foldl (pass fl) {}

/-! ### The motor -/

/-- **What the motor was given last**: what it drives by, or nothing yet. -/
inductive Given (c : Ccu) : Prop where
  | none (hx : c.preMotorX = 50) (hy : c.preMotorY = 50) (hmotor : c.motor = {})
  | last (hx : c.preMotorX = c.motor.preX) (hy : c.preMotorY = c.motor.preY)
      (hrange : InRange c.preMotorX c.preMotorY)
      (hdrive : c.motor.drive.sign = (c.preMotorY - 50).sign)

variable {fl} {c : Ccu}

theorem Given.inRange (h : Given c) : InRange c.preMotorX c.preMotorY := by
  cases h with
  | none hx hy =>
    rw [hx, hy]
    decide
  | last _ _ hrange => exact hrange

/-- The car goes forward exactly if what the motor was given last is above the middle. -/
theorem Given.forward_iff (h : Given c) : 0 < c.motor.drive ↔ 50 < c.preMotorY := by
  cases h with
  | none _ hy hmotor =>
    rw [hy, hmotor]
    decide
  | last _ _ _ hdrive =>
    rw [← Int.sign_eq_one_iff_pos, hdrive, Int.sign_eq_one_iff_pos]
    omega

/-- The same motor with other fields of the loop. -/
theorem Given.congr (h : Given c) {d : Ccu} (hx : d.preMotorX = c.preMotorX)
    (hy : d.preMotorY = c.preMotorY) (hmotor : d.motor = c.motor) : Given d := by
  cases h with
  | none hx' hy' hmotor' => exact .none (hx.trans hx') (hy.trans hy') (hmotor.trans hmotor')
  | last hx' hy' hrange hdrive =>
    refine .last ?_ ?_ ?_ ?_
    · rw [hx, hmotor, hx']
    · rw [hy, hmotor, hy']
    · rw [hx, hy]
      exact hrange
    · rw [hy, hmotor, hdrive]

/-- Numbers out of range leave the motor alone. -/
theorem driveMotor_of_not_inRange {x y : ℤ} (h : ¬ InRange x y) : c.driveMotor x y = c := by
  rw [driveMotor, MotorController.processJoystickInput_of_not_inRange h]
  split <;> rfl

/-- **Numbers in range** are what the motor was given last then, unless it has not moved yet and
they are those it starts with. -/
theorem Given.driveMotor_of_inRange (h : Given c) {x y : ℤ} (hr : InRange x y) :
    Given (c.driveMotor x y) ∧
      ((c.driveMotor x y).preMotorX = x ∧ (c.driveMotor x y).preMotorY = y ∨
        (c.driveMotor x y).preMotorY = 50 ∧ x = 0 ∧ y = 0) := by
  rw [driveMotor]
  by_cases hsame : x = c.preMotorX ∧ y = c.preMotorY
  · rw [if_neg (not_not.mpr hsame)]
    exact ⟨h, Or.inl ⟨hsame.1.symm, hsame.2.symm⟩⟩
  rw [if_pos hsame]
  by_cases hmotor : x = c.motor.preX ∧ y = c.motor.preY
  · rw [MotorController.processJoystickInput_of_same hmotor.1 hmotor.2]
    cases h with
    | none hx hy hinit =>
      rw [hinit] at hmotor
      exact ⟨.none hx hy hinit, Or.inr ⟨hy, hmotor⟩⟩
    | last hx hy =>
      exact absurd ⟨hmotor.1.trans hx.symm, hmotor.2.trans hy.symm⟩ hsame
  · rw [MotorController.processJoystickInput_of_new hr hmotor]
    refine ⟨.last rfl rfl hr ?_, Or.inl ⟨rfl, rfl⟩⟩
    exact MotorController.sign_leftSpeed_add_rightSpeed hr.1 hr.2.1

theorem Given.driveMotor (h : Given c) (x y : ℤ) : Given (c.driveMotor x y) := by
  by_cases hr : InRange x y
  · exact (h.driveMotor_of_inRange hr).1
  · rw [driveMotor_of_not_inRange hr]
    exact h

/-! ### What a pass leaves alone -/

/-- The motor, and what it was given last. -/
def motorPart (c : Ccu) : ℤ × ℤ × MotorController := (c.preMotorX, c.preMotorY, c.motor)

theorem Given.of_motorPart_eq (h : Given c) {d : Ccu} (hd : d.motorPart = c.motorPart) :
    Given d :=
  h.congr (congrArg Prod.fst hd) (congrArg (·.2.1) hd) (congrArg (·.2.2) hd)

theorem readUserCmd_fst (c : Ccu) (userCmd : Option (ℕ → UInt8)) :
    ∃ aps, (c.readUserCmd userCmd).1 = { c with aps := aps } := by
  rw [readUserCmd]
  split
  · exact ⟨_, rfl⟩
  · exact ⟨_, rfl⟩
  · exact ⟨c.aps, rfl⟩

theorem checkAeb_fst (c : Ccu) (x y : ℤ) :
    ∃ aps alert, (c.checkAeb x y).1 = { c with aps := aps, aebAlert := alert } := by
  rw [checkAeb]
  split
  · split <;> exact ⟨_, _, rfl⟩
  · exact ⟨c.aps, _, rfl⟩

theorem checkAps_fst (fl : ℚ → ℚ) (c : Ccu) (i : CcuInputs) (x y : ℤ) :
    ∃ aps time, (c.checkAps fl i x y).1 = { c with aps := aps, apsLastUpdatedTime := time } := by
  rw [checkAps]
  split
  · split
    · obtain ⟨r, hr⟩ : ∃ r, r = c.aps.updateApsResult fl ⟨i.resultTime, c.tofLatestData,
          c.ultLatestData, cycleIntervalUs, i.emerLightApsDone⟩ := ⟨_, rfl⟩
      simp only [← hr]
      split
      · split <;> exact ⟨_, _, rfl⟩
      · exact ⟨_, _, rfl⟩
    · exact ⟨c.aps, c.apsLastUpdatedTime, rfl⟩
  · exact ⟨c.aps, c.apsLastUpdatedTime, rfl⟩

theorem motorPart_atAebCheck (fl : ℚ → ℚ) (c : Ccu) (i : CcuInputs) :
    (c.atAebCheck fl i).1.motorPart = c.motorPart := by
  obtain ⟨aps, hread⟩ := c.readUserCmd_fst i.userCmd
  rw [atAebCheck, hread, updateAeb]
  split <;> rfl

/-- Until the motor is handed its numbers, its part is as it was. -/
theorem motorPart_checkAps_checkAeb (c : Ccu) (i : CcuInputs) (x y x' y' : ℤ) :
    ((c.checkAeb x y).1.checkAps fl i x' y').1.motorPart = c.motorPart := by
  obtain ⟨aps, time, hchecked⟩ := (c.checkAeb x y).1.checkAps_fst fl i x' y'
  obtain ⟨aps', alert, hchecked'⟩ := c.checkAeb_fst x y
  rw [hchecked, hchecked']
  rfl

/-- **A pass keeps the invariant**, -/
theorem Given.pass (h : Given c) (i : CcuInputs) : Given (c.pass fl i) := by
  refine Given.driveMotor (h.of_motorPart_eq ?_) _ _
  exact (motorPart_checkAps_checkAeb _ i _ _ _ _).trans (motorPart_atAebCheck fl c i)

/-- **and every run does.** -/
theorem given_after (passes : List CcuInputs) : Given (after fl passes) := by
  induction passes using List.reverseRecOn with
  | nil => exact .none rfl rfl rfl
  | append_singleton passes i ih =>
    rw [after, List.foldl_concat]
    exact ih.pass i

/-! ### Emergency braking in a pass -/

theorem isDigitByte_iff {b : UInt8} : isDigitByte b = true ↔ 48 ≤ b.toNat ∧ b.toNat ≤ 57 := by
  rw [isDigitByte, Bool.and_eq_true, decide_eq_true_iff, decide_eq_true_iff,
    UInt8.le_iff_toNat_le, UInt8.le_iff_toNat_le]
  rfl

/-- The value of digits, read behind those that make `n`. -/
theorem foldl_digits {s : List UInt8} (hs : ∀ b ∈ s, isDigitByte b = true) {n : ℤ} (hn : 0 ≤ n) :
    0 ≤ s.foldl (fun n b => 10 * n + ((b.toNat : ℤ) - 48)) n ∧
      s.foldl (fun n b => 10 * n + ((b.toNat : ℤ) - 48)) n < 10 ^ s.length * (n + 1) := by
  induction s generalizing n with
  | nil =>
    rw [List.foldl_nil, List.length_nil, pow_zero, one_mul]
    omega
  | cons b s ih =>
    have hb := isDigitByte_iff.mp (hs b List.mem_cons_self)
    obtain ⟨hlow, hhigh⟩ := ih (fun b' h => hs b' (List.mem_cons_of_mem b h))
      (show 0 ≤ 10 * n + ((b.toNat : ℤ) - 48) by omega)
    refine ⟨hlow, hhigh.trans_le ?_⟩
    rw [List.length_cons, pow_succ, mul_assoc]
    exact mul_le_mul_of_nonneg_left (by omega) (by positivity)

/-- Digits make a number of as many digits at most. -/
theorem digitsValue_mem {s : List UInt8} {k : ℕ} (hs : s.length ≤ k) :
    0 ≤ digitsValue s ∧ digitsValue s < 10 ^ k := by
  have hdigits : ∀ b ∈ s.takeWhile isDigitByte, isDigitByte b = true := fun b hb =>
    List.mem_takeWhile_imp hb
  obtain ⟨hlow, hhigh⟩ := foldl_digits hdigits (le_refl 0)
  have hlength : (s.takeWhile isDigitByte).length ≤ k :=
    (List.takeWhile_prefix isDigitByte).length_le.trans hs
  rw [zero_add, mul_one] at hhigh
  exact ⟨hlow, hhigh.trans_le (pow_le_pow_right₀ (by decide) hlength)⟩

/-- **A command's number has two characters**: it is at most 99, and at least -9. -/
theorem atoi_mem {s : List UInt8} (hs : s.length ≤ 2) : -9 ≤ atoi s ∧ atoi s ≤ 99 := by
  obtain ⟨t, ht⟩ : ∃ t, t = s.dropWhile isSpaceByte := ⟨_, rfl⟩
  have hlength : t.length ≤ 2 := by
    rw [ht]
    exact (List.dropWhile_suffix isSpaceByte).length_le.trans hs
  have htail : t.tail.length ≤ 1 := by
    rw [List.length_tail]
    omega
  obtain ⟨hlow, hhigh⟩ := digitsValue_mem hlength
  obtain ⟨hlow', hhigh'⟩ := digitsValue_mem htail
  norm_num at hhigh hhigh'
  rw [atoi, ← ht]
  split
  · omega
  · split <;> omega

/-- The numbers for the motor by the time emergency braking is decided upon: those of the user's
command, or what the motor was given last. -/
theorem Given.not_inRange_iff (fl : ℚ → ℚ) (h : Given c) (i : CcuInputs) :
    ¬ InRange (c.atAebCheck fl i).2.1 (c.atAebCheck fl i).2.2 ↔
      ∃ x y, i.userCmd.map parseUserCmd = some (.move x y) ∧ (x < 0 ∨ y < 0) ∧
        (c.atAebCheck fl i).2 = (x, y) := by
  have hatoi : ∀ {x y}, i.userCmd.map parseUserCmd = some (.move x y) → x ≤ 99 ∧ y ≤ 99 := by
    intro x y hcmd
    obtain ⟨userCmd, -, hparse⟩ := Option.map_eq_some_iff.mp hcmd
    rw [parseUserCmd] at hparse
    split at hparse
    · rw [UserCmd.move.injEq] at hparse
      rw [← hparse.1, ← hparse.2]
      exact ⟨(atoi_mem (le_refl 2)).2, (atoi_mem (le_refl 2)).2⟩
    · split at hparse
      · exact absurd hparse (UserCmd.noConfusion ·)
      · exact absurd hparse (UserCmd.noConfusion ·)
  show ¬ InRange (c.readUserCmd i.userCmd).2.1 (c.readUserCmd i.userCmd).2.2 ↔
    ∃ x y, _ ∧ _ ∧ (c.readUserCmd i.userCmd).2 = (x, y)
  have hlast := h.inRange
  rw [readUserCmd]
  split
  · rename_i x y hcmd
    obtain ⟨hx, hy⟩ := hatoi hcmd
    show ¬ (0 ≤ x ∧ x ≤ 99 ∧ 0 ≤ y ∧ y ≤ 99) ↔ _
    constructor
    · intro hout
      exact ⟨x, y, hcmd, by omega, rfl⟩
    · rintro ⟨x', y', hcmd', hneg, -⟩
      rw [hcmd, Option.some.injEq, UserCmd.move.injEq] at hcmd'
      omega
  · rename_i hcmd
    refine iff_of_false (not_not.mpr hlast) ?_
    rintro ⟨x, y, hcmd', -⟩
    rw [hcmd] at hcmd'
    exact absurd hcmd' (by rw [Option.some.injEq]; exact (UserCmd.noConfusion ·))
  · rename_i hcmd _
    refine iff_of_false (not_not.mpr hlast) ?_
    rintro ⟨x, y, hcmd', -⟩
    exact hcmd x y hcmd'

theorem checkAps_of_off (h : c.aps.apsState = 0) (i : CcuInputs) (x y : ℤ) :
    c.checkAps fl i x y = (c, x, y) :=
  if_neg (not_not.mpr h)

/-- Driving on by numbers that are not above the middle: only numbers out of range leave the car
going forward. -/
theorem Given.forward_driveMotor (h : Given c) {x y : ℤ} (hy : y ≤ motorStop) :
    0 < (c.driveMotor x y).motor.drive ↔ 0 < c.motor.drive ∧ ¬ InRange x y := by
  have hstop : motorStop = 50 := rfl
  by_cases hr : InRange x y
  · obtain ⟨hgiven, hlast | hlast⟩ := h.driveMotor_of_inRange hr
    · rw [hgiven.forward_iff, hlast.2]
      exact iff_of_false (by omega) fun hand => hand.2 hr
    · rw [hgiven.forward_iff, hlast.1]
      exact iff_of_false (by omega) fun hand => hand.2 hr
  · rw [driveMotor_of_not_inRange hr]
    exact (and_iff_left hr).symm

/-- A pass in which emergency braking is on. -/
theorem pass_of_emergency {i : CcuInputs} (haeb : (c.atAebCheck fl i).1.aebState = .emergency)
    (haps : (c.atAebCheck fl i).1.aps.apsState = 0) :
    ∃ d : Ccu, d.motorPart = c.motorPart ∧
      c.pass fl i = if motorStop < (c.atAebCheck fl i).2.2 then d.driveMotor motorStop motorStop
        else d.driveMotor (c.atAebCheck fl i).2.1 (c.atAebCheck fl i).2.2 := by
  obtain ⟨r, hr⟩ : ∃ r, r = c.atAebCheck fl i := ⟨_, rfl⟩
  rw [← hr] at haeb haps ⊢
  refine ⟨{ r.1 with aps := r.1.aps.setApsState 0, aebAlert := true }, ?_, ?_⟩
  · rw [← motorPart_atAebCheck fl c i, ← hr]
    rfl
  · rw [pass, ← hr]
    simp only [checkAeb, if_pos (And.intro haeb haps)]
    by_cases hforward : motorStop < r.2.2
    · rw [if_pos hforward, if_pos hforward, checkAps_of_off rfl]
    · rw [if_neg hforward, if_neg hforward, checkAps_of_off rfl]

/-- The command's numbers are the ones emergency braking finds. -/
theorem atAebCheck_of_move {i : CcuInputs} {x y : ℤ}
    (hcmd : i.userCmd.map parseUserCmd = some (.move x y)) :
    (c.atAebCheck fl i).2 = (x, y) := by
  show (c.readUserCmd i.userCmd).2 = _
  rw [readUserCmd, hcmd]

/-- A pass in which emergency braking is on leaves the car going forward only by a command that the
motor controller turns down. -/
theorem Given.forward_pass (hgiven : Given c) {i : CcuInputs}
    (haeb : (c.atAebCheck fl i).1.aebState = .emergency)
    (haps : (c.atAebCheck fl i).1.aps.apsState = 0) :
    0 < (c.pass fl i).motor.drive ↔ 0 < c.motor.drive ∧
      ∃ x y, i.userCmd.map parseUserCmd = some (.move x y) ∧ (x < 0 ∨ y < 0) ∧ y ≤ motorStop := by
  obtain ⟨d, hd, hpass⟩ := pass_of_emergency haeb haps
  have hd' := hgiven.of_motorPart_eq hd
  have hdrive : d.motor.drive = c.motor.drive := congrArg (·.2.2.drive) hd
  have hnumbers := hgiven.not_inRange_iff fl i
  rw [hpass]
  by_cases hforward : motorStop < (c.atAebCheck fl i).2.2
  · rw [if_pos hforward, hd'.forward_driveMotor (le_refl motorStop)]
    refine iff_of_false (fun h => h.2 (by decide)) ?_
    rintro ⟨-, x, y, hcmd, -, hy⟩
    rw [atAebCheck_of_move hcmd] at hforward
    exact absurd hy (not_le.mpr hforward)
  · rw [if_neg hforward, hd'.forward_driveMotor (not_lt.mp hforward), hdrive, hnumbers]
    refine and_congr_right fun _ => ⟨?_, ?_⟩
    · rintro ⟨x, y, hcmd, hneg, hread⟩
      rw [hread] at hforward
      exact ⟨x, y, hcmd, hneg, not_lt.mp hforward⟩
    · rintro ⟨x, y, hcmd, hneg, -⟩
      exact ⟨x, y, hcmd, hneg, atAebCheck_of_move hcmd⟩

/-- **What emergency braking is worth**: after a pass in which it is on and nothing is being parked,
the car goes forward exactly if it did before and the user's command has a number below zero, the
vertical one not being above the middle. -/
theorem forward_pass_iff (fl : ℚ → ℚ) (passes : List CcuInputs) (i : CcuInputs)
    (haeb : ((after fl passes).atAebCheck fl i).1.aebState = .emergency)
    (haps : ((after fl passes).atAebCheck fl i).1.aps.apsState = 0) :
    0 < (after fl (passes ++ [i])).motor.drive ↔ 0 < (after fl passes).motor.drive ∧
      ∃ x y, i.userCmd.map parseUserCmd = some (.move x y) ∧ (x < 0 ∨ y < 0) ∧ y ≤ motorStop := by
  rw [after, List.foldl_concat]
  exact (given_after passes).forward_pass haeb haps

/-- A pass with the command to go forward, and one at a wall. -/
def rolling : CcuInputs where
  userCmd := some fun k => [77, 53, 48, 56, 48].getD k 0
  tof := some ⟨2, 0⟩
  ult := fun _ => none
  aebTime := 40000
  apsTime := 40000
  resultTime := 40000
  emerLightApsDone := false

def wall (time : ℕ) : CcuInputs where
  userCmd := none
  tof := some ⟨1 / 20, 0⟩
  ult := fun _ => none
  aebTime := time
  apsTime := time
  resultTime := time
  emerLightApsDone := false

/-- The car stands at the wall. -/
theorem forward_pass_wall :
    0 < (after id ([rolling] ++ [wall 80000])).motor.drive ↔
      0 < (after id [rolling]).motor.drive ∧ ∃ x y,
        (wall 80000).userCmd.map parseUserCmd = some (.move x y) ∧ (x < 0 ∨ y < 0) ∧
          y ≤ motorStop :=
  forward_pass_iff id [rolling] (wall 80000) (by decide +kernel) (by decide +kernel)

/-! ### How soon -/

end Ccu

end Realtime

end VehicleStack
