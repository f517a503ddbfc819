import VehicleStack.Realtime.CommThread
import VehicleStack.Ecu.SomeIp

/-!
# From the control output to the wheels

The path of a drive command: `comm_thread` requests the motor pair of the
control output, percent of throttle and of steer, and the ECU's Service 3 takes
the two integers of that request for stick coordinates from 0 to 99 with 50 in
the middle. `VehicleStack.directionKept_iff` says for which pairs the wheels
nevertheless turn the way the throttle says.

What lies between the two, `VSomeIPManager`, is not part of the repository; it is
taken to send the two integers as `request_motor_control` of `rpi_client_app.cpp`
does, big-endian after a SOME/IP header (`VehicleStack.motorDatagram`).
-/

namespace VehicleStack

open Realtime Ecu BigEndian

/-- The datagram of a motor request. The header bytes that neither the request nor
the ECU looks at are `fill`. -/
def motorDatagram (fill : ℕ → UInt8) (x y : ℤ) : List UInt8 :=
  [0x03, 0x00, 0x03, 0x02, fill 4, fill 5, fill 6, fill 7, fill 8, fill 9, fill 10, fill 11,
    fill 12, fill 13, 0x00, fill 15] ++ toIntBytes 4 x ++ toIntBytes 4 y

/-- A list of four bytes, byte by byte. -/
theorem exists_toIntBytes_four (z : ℤ) : ∃ a b c d, toIntBytes 4 z = [a, b, c, d] := by
  have hlen := length_toIntBytes 4 z
  match h : toIntBytes 4 z with
  | [a, b, c, d] => exact ⟨a, b, c, d, rfl⟩
  | [] => simp [h] at hlen
  | [_] => simp [h] at hlen
  | [_, _] => simp [h] at hlen
  | [_, _, _] => simp [h] at hlen
  | _ :: _ :: _ :: _ :: _ :: _ => simp [h] at hlen

/-- **The ECU reads from a motor request what was put into it.** -/
theorem motor_callback_motorDatagram (leftover fill : ℕ → UInt8) (s : Service3) {x y : ℤ}
    (hx : -2 ^ 31 ≤ x ∧ x < 2 ^ 31) (hy : -2 ^ 31 ≤ y ∧ y < 2 ^ 31) :
    (s.callback leftover (motorDatagram fill x y)).1.motor =
      (s.motor.processJoystickInput x y).1 := by
  obtain ⟨a, b, c, d, hxb⟩ := exists_toIntBytes_four x
  obtain ⟨e, f, g, k, hyb⟩ := exists_toIntBytes_four y
  have hxr : ofIntBytes [a, b, c, d] = x := by
    rw [← hxb]
    exact ofIntBytes_toIntBytes (by omega) (by omega)
  have hyr : ofIntBytes [e, f, g, k] = y := by
    rw [← hyb]
    exact ofIntBytes_toIntBytes (by omega) (by omega)
  rw [motorDatagram, hxb, hyb, Service3.callback_of_motorRequest (by simp) rfl rfl rfl rfl rfl]
  obtain ⟨motor, data, answer, h, hmotor⟩ := s.motorMethod_eq (rxBuf leftover
    ([0x03, 0x00, 0x03, 0x02, fill 4, fill 5, fill 6, fill 7, fill 8, fill 9, fill 10, fill 11,
      fill 12, fill 13, 0x00, fill 15] ++ [a, b, c, d] ++ [e, f, g, k]))
  rw [h, ← hxr, ← hyr]
  exact hmotor

/-- A cycle that sees a new motor pair requests it, once. -/
theorem filterMap_motor?_of_new {preOut out : ControlOutput}
    (hnew : out.motorPair ≠ preOut.motorPair) :
    (commCycle preOut ⟨out, true⟩).2.filterMap Request.motor? = [(out.throttle, out.steer)] := by
  rw [changeOnly_motor, Latch.send, if_pos hnew]
  rfl

/-- **A drive command keeps its direction**: the motor request of the cycle carries
coordinates the ECU does not reject, and once the ECU has handled it the wheel
speeds add up to a value with the sign of the throttle. -/
def DirectionKept (preOut out : ControlOutput) (ecu : Service3) (leftover fill : ℕ → UInt8) :
    Prop :=
  ∃ x y, (commCycle preOut ⟨out, true⟩).2.filterMap Request.motor? = [(x, y)] ∧
    MotorController.InRange x y ∧
    (ecu.callback leftover (motorDatagram fill x y)).1.motor.drive.sign = out.throttle.sign

/-- The ECU drives the way the throttle says exactly when the steer value, taken for
the vertical coordinate, lies on the side of the middle the throttle is on of
zero. -/
theorem sign_drive_iff {ecu : Service3} (hecu : ecu.motor.Steady) (leftover fill : ℕ → UInt8)
    {x y : ℤ} (hr : MotorController.InRange x y) :
    (ecu.callback leftover (motorDatagram fill x y)).1.motor.drive.sign = x.sign ↔
      (0 < x ∧ 50 < y) ∨ (x = 0 ∧ y = 50) ∨ (x = 0 ∧ y = 0 ∧ ecu.motor = {}) := by
  have hmem : 0 ≤ x ∧ x ≤ 99 ∧ 0 ≤ y ∧ y ≤ 99 := hr
  obtain ⟨hx, hx', hy, hy'⟩ := hmem
  have hmotor := motor_callback_motorDatagram leftover fill ecu (x := x) (y := y)
    ⟨by omega, by omega⟩ ⟨by omega, by omega⟩
  rw [hmotor, hecu.drive_processJoystickInput hr]
  by_cases hpower : ecu.motor = {} ∧ x = 0 ∧ y = 0
  · obtain ⟨hm, rfl, rfl⟩ := hpower
    rw [if_pos ⟨hm, rfl, rfl⟩]
    exact iff_of_true rfl (Or.inr (Or.inr ⟨rfl, rfl, hm⟩))
  · rw [if_neg hpower, MotorController.sign_leftSpeed_add_rightSpeed hx hx']
    have hnot : ¬(x = 0 ∧ y = 0 ∧ ecu.motor = {}) := fun h => hpower ⟨h.2.2, h.1, h.2.1⟩
    rcases lt_trichotomy y 50 with hlt | heq | hgt
    · have hneg : (y - 50).sign = -1 := Int.sign_eq_neg_one_of_neg (by omega)
      rw [hneg]
      constructor
      · intro h
        have hxneg := Int.sign_eq_neg_one_iff_neg.mp h.symm
        omega
      · rintro (⟨-, hgt⟩ | ⟨-, heq⟩ | h)
        · omega
        · omega
        · exact absurd h hnot
    · have hzero : (y - 50).sign = 0 := Int.sign_eq_zero_iff_zero.mpr (by omega)
      rw [hzero]
      constructor
      · intro h
        have hxzero := Int.sign_eq_zero_iff_zero.mp h.symm
        exact Or.inr (Or.inl ⟨hxzero, heq⟩)
      · rintro (⟨-, hgt⟩ | ⟨hxzero, -⟩ | ⟨hxzero, -, -⟩)
        · omega
        · exact (Int.sign_eq_zero_iff_zero.mpr hxzero).symm
        · exact (Int.sign_eq_zero_iff_zero.mpr hxzero).symm
    · have hpos : (y - 50).sign = 1 := Int.sign_eq_one_of_pos (by omega)
      rw [hpos]
      constructor
      · intro h
        have hxpos := Int.sign_eq_one_iff_pos.mp h.symm
        exact Or.inl ⟨hxpos, hgt⟩
      · rintro (⟨hxpos, -⟩ | ⟨-, heq⟩ | ⟨-, hyzero, -⟩)
        · exact (Int.sign_eq_one_of_pos hxpos).symm
        · omega
        · omega

/-- **When a drive command keeps its direction.** For a control output with throttle
and steer in percent and a new motor pair, and an ECU that has handled any
datagrams whatever: with a forward throttle of at most 99 and a steer of 51 to
99, with throttle 0 and steer 50, or, with both zero, as long as the ECU's motor
has not been moved since power-on. -/
theorem directionKept_iff (datagrams : List Service3.Datagram) (leftover fill : ℕ → UInt8)
    {preOut out : ControlOutput} (hthrottle : -100 ≤ out.throttle ∧ out.throttle ≤ 100)
    (hsteer : -100 ≤ out.steer ∧ out.steer ≤ 100) (hnew : out.motorPair ≠ preOut.motorPair) :
    DirectionKept preOut out (Service3.after datagrams) leftover fill ↔
      (1 ≤ out.throttle ∧ out.throttle ≤ 99 ∧ 51 ≤ out.steer ∧ out.steer ≤ 99) ∨
      (out.throttle = 0 ∧ out.steer = 50) ∨
      (out.throttle = 0 ∧ out.steer = 0 ∧ (Service3.after datagrams).motor = {}) := by
  have hsteady := Service3.steady_after datagrams
  rw [DirectionKept, filterMap_motor?_of_new hnew]
  constructor
  · rintro ⟨x, y, heq, hr, hsign⟩
    obtain ⟨rfl, rfl⟩ := Prod.mk.inj (List.singleton_inj.mp heq)
    have hcases := (sign_drive_iff hsteady leftover fill hr).mp hsign
    obtain ⟨hx, hx', hy, hy'⟩ := hr
    rcases hcases with ⟨hpos, hgt⟩ | hstop | hpower
    · exact Or.inl (by omega)
    · exact Or.inr (Or.inl hstop)
    · exact Or.inr (Or.inr hpower)
  · intro hcond
    have hr : MotorController.InRange out.throttle out.steer := by
      unfold MotorController.InRange
      omega
    refine ⟨out.throttle, out.steer, rfl, hr, (sign_drive_iff hsteady leftover fill hr).mpr ?_⟩
    rcases hcond with hfwd | hstop | hpower
    · exact Or.inl (by omega)
    · exact Or.inr (Or.inl hstop)
    · exact Or.inr (Or.inr hpower)

/-- A forward command to the right keeps its direction. -/
theorem directionKept_forward :
    DirectionKept {} { throttle := 40, steer := 60 } (Service3.after []) (fun _ => 0) fun _ => 0 :=
  (directionKept_iff [] (fun _ => 0) (fun _ => 0) (by decide) (by decide) (by decide)).mpr
    (Or.inl (by decide))

/-- The ECU after one stick request, straight ahead at full speed. -/
def drivingEcu : Service3 :=
  Service3.after [⟨fun _ => 0, motorDatagram (fun _ => 0) 50 99⟩]

theorem drivingEcu_motor :
    drivingEcu.motor = (({} : MotorController).processJoystickInput 50 99).1 :=
  motor_callback_motorDatagram (fun _ => 0) (fun _ => 0) {} (by decide) (by decide)

/-- An emergency brake while the car drives forward is rejected, and the wheels go on
driving forward. -/
theorem brake_not_kept :
    ¬DirectionKept { throttle := 99, steer := 50 } { throttle := -100, steer := 50 } drivingEcu
      (fun _ => 0) (fun _ => 0) ∧
    0 < (drivingEcu.callback (fun _ => 0)
      (motorDatagram (fun _ => 0) (-100) 50)).1.motor.drive := by
  constructor
  · rintro ⟨x, y, heq, hr, -⟩
    rw [filterMap_motor?_of_new (by decide)] at heq
    obtain ⟨rfl, rfl⟩ := Prod.mk.inj (List.singleton_inj.mp heq)
    exact absurd hr (by decide)
  · rw [motor_callback_motorDatagram _ _ _ (by decide) (by decide), drivingEcu_motor]
    decide

end VehicleStack
