import VehicleStack.Ecu.Actuators
import Mathlib.Algebra.Order.Group.Unbundled.Int

/-!
# What the motors do after any history

The motor controller is driven by stick coordinates, from Service 3 or directly, and by keys. A
cache of the last coordinates lets it skip a pair that comes again.

The cache is right about the coordinates, but not about the motors: they are not where the cache
says before the first pair, and after a key. The main result is
`VehicleStack.Ecu.MotorUnit.followsStick_iff`: whatever came before, a pair of coordinates sets the
motors exactly if it is not the last pair in range again, or the motors are set for it anyhow.
-/

namespace VehicleStack

namespace Ecu

open BigEndian

/-! ### Keys -/

/-- The base speed and the turn offset of a key of `MotorController_ProcessWASDInput`. -/
def wasdKey (baseSpeed : ℤ) : Char → Option (ℤ × ℤ)
  | 'w' | 'W' => some (100, 0)
  | 's' | 'S' => some (-100, 0)
  | 'a' | 'A' => some (baseSpeed, 50)
  | 'd' | 'D' => some (baseSpeed, -50)
  | 'x' | 'X' => some (0, 0)
  | _ => none

/-- `MotorController_ProcessWASDInput`, with its base speed and its answer. -/
def MotorController.processWasdInput (c : MotorController) (baseSpeed : ℤ) (key : Char) :
    MotorController × ℤ × Bool :=
  match wasdKey baseSpeed key with
  | some (baseSpeed, turnOffset) =>
    let leftSpeed := myClamp (baseSpeed - turnOffset) (-100) 100
    let rightSpeed := myClamp (baseSpeed + turnOffset) (-100) 100
    (c.setSpeed leftSpeed rightSpeed, baseSpeed, true)
  | none => (c, baseSpeed, false)

/-! ### Histories -/

/-- Service 3 with the motor controller, and the base speed of the keys. -/
structure MotorUnit where
  service3 : Service3 := {}
  baseSpeed : ℤ := 0

/-- A call that may move the motors. -/
inductive MotorCall where
  /-- `MotorController_ProcessJoystickInput`. -/
  | joystick (x y : ℤ)
  /-- `MotorController_ProcessWASDInput`. -/
  | wasd (key : Char)
  /-- `SOMEIP_Service3_Callback`. -/
  | datagram (d : Service3.Datagram)

/-- The coordinates of a datagram that is a motor request. -/
def motorRequest (d : Service3.Datagram) : Option (ℤ × ℤ) :=
  let rx := rxBuf d.leftover d.payload
  if (16 ≤ d.payload.length ∧ d.payload.length ≤ 512) ∧ serviceId rx = 0x0300 ∧ rx 14 = 0x00 ∧
      methodId rx = 0x0302 then
    some (ofIntBytes [rx 16, rx 17, rx 18, rx 19], ofIntBytes [rx 20, rx 21, rx 22, rx 23])
  else none

/-- The coordinates of a call. -/
def MotorCall.coordinates : MotorCall → Option (ℤ × ℤ)
  | joystick x y => some (x, y)
  | wasd _ => none
  | datagram d => motorRequest d

namespace MotorUnit

/-- The motor controller. -/
def motor (u : MotorUnit) : MotorController := u.service3.motor

/-- One call. -/
def step (u : MotorUnit) : MotorCall → MotorUnit
  | .joystick x y =>
    { u with service3 := { u.service3 with motor := (u.motor.processJoystickInput x y).1 } }
  | .wasd key =>
    let processed := u.motor.processWasdInput u.baseSpeed key
    { service3 := { u.service3 with motor := processed.1 }, baseSpeed := processed.2.1 }
  | .datagram d => { u with service3 := (Service3.callback d.leftover u.service3 d.payload).1 }

/-- The motors after some calls, from `Motor_Init` on. -/
def after (history : List MotorCall) : MotorUnit := history.foldl step {}

/-- The last coordinates in range, or those the cache starts with. -/
def lastStick (history : List MotorCall) : ℤ × ℤ :=
  ((history.filterMap MotorCall.coordinates).filter fun p =>
    MotorController.InRange p.1 p.2).getLast?.getD (0, 0)

/-- A channel is set for a speed in percent. -/
structure ChannelShows (ch : MotorChannel) (speed : ℤ) : Prop where
  duty : ch.duty = 10 * |speed|
  duty_le : ch.duty ≤ 1000
  dir : ch.dir = true ↔ 0 ≤ speed
  brake : ch.brake = true ↔ speed = 0

/-- The motors are set for a pair of coordinates. -/
structure Settled (c : MotorController) (x y : ℤ) : Prop where
  left : c.latestData.motorChBSpeed = MotorController.leftSpeed x y
  right : c.latestData.motorChASpeed = MotorController.rightSpeed x y
  chB : ChannelShows c.chB (MotorController.leftSpeed x y)
  chA : ChannelShows c.chA (MotorController.rightSpeed x y)

/-- **The motors follow the stick** in a call after a history: coordinates in range set them, and
others change nothing. -/
def FollowsStick (history : List MotorCall) (call : MotorCall) : Prop :=
  ∀ x y, call.coordinates = some (x, y) →
    (MotorController.InRange x y → Settled (after (history ++ [call])).motor x y) ∧
    (¬ MotorController.InRange x y → (after (history ++ [call])).motor = (after history).motor)

/-! ### What one call does -/

/-- The callback, with the identifiers of the buffer's bytes. -/
theorem callback_eq (s : Service3) (d : Service3.Datagram) {rx : ℕ → UInt8}
    (hrx : rx = rxBuf d.leftover d.payload) : Service3.callback d.leftover s d.payload =
      if d.payload.length < 16 ∨ 512 < d.payload.length then (s, none)
      else if serviceId rx = 0x0300 ∧ rx 14 = 0x00 then
        if methodId rx = 0x0301 then s.alertMethod rx
        else if methodId rx = 0x0302 then s.motorMethod rx
        else (s, none)
      else (s, none) := by
  simp only [Service3.callback, serviceId, methodId, hrx]

/-- A motor request hands its coordinates to the motor controller. -/
theorem motor_callback_of_some (s : Service3) {d : Service3.Datagram} {x y : ℤ}
    (h : motorRequest d = some (x, y)) :
    (Service3.callback d.leftover s d.payload).1.motor = (s.motor.processJoystickInput x y).1 := by
  obtain ⟨rx, hrx⟩ : ∃ rx, rx = rxBuf d.leftover d.payload := ⟨_, rfl⟩
  rw [motorRequest, ← hrx] at h
  split at h
  · rename_i hrequest
    obtain ⟨hlen, hid, htype, hmethod⟩ := hrequest
    obtain ⟨rfl, rfl⟩ := Prod.mk.inj (Option.some.inj h)
    obtain ⟨motor, data, answer, heq, hmotor⟩ := s.motorMethod_eq rx
    rw [callback_eq s d hrx, if_neg (by omega), if_pos ⟨hid, htype⟩, if_neg (by omega),
      if_pos hmethod, heq]
    exact hmotor
  · cases h

/-- Another datagram leaves the motor controller alone. -/
theorem motor_callback_of_none (s : Service3) {d : Service3.Datagram}
    (h : motorRequest d = none) :
    (Service3.callback d.leftover s d.payload).1.motor = s.motor := by
  obtain ⟨rx, hrx⟩ : ∃ rx, rx = rxBuf d.leftover d.payload := ⟨_, rfl⟩
  rw [motorRequest, ← hrx] at h
  split at h
  · cases h
  rename_i hother
  rw [callback_eq s d hrx]
  split
  · rfl
  rename_i hlen
  split
  · rename_i hservice
    have hmethod : ¬ methodId rx = 0x0302 := fun hmethod =>
      hother ⟨by omega, hservice.1, hservice.2, hmethod⟩
    obtain ⟨alert, data, answer, heq⟩ := s.alertMethod_eq rx
    rw [if_neg hmethod, heq]
    split
    · rfl
    · rfl
  · rfl

/-- Coordinates go to the motor controller. -/
theorem motor_step_of_coordinates (u : MotorUnit) {call : MotorCall} {x y : ℤ}
    (h : call.coordinates = some (x, y)) :
    (u.step call).motor = (u.motor.processJoystickInput x y).1 := by
  rcases call with ⟨x', y'⟩ | key | d
  · obtain ⟨rfl, rfl⟩ := Prod.mk.inj (Option.some.inj h)
    rfl
  · cases h
  · exact motor_callback_of_some u.service3 h

theorem myClamp_mem (value : ℤ) :
    -100 ≤ myClamp value (-100) 100 ∧ myClamp value (-100) 100 ≤ 100 := by
  rw [myClamp]
  split_ifs <;> omega

/-- A call without coordinates is a key, which sets the speeds, or changes nothing. -/
theorem motor_step_of_none (u : MotorUnit) {call : MotorCall} (h : call.coordinates = none) :
    (u.step call).motor = u.motor ∨ ∃ left right, (-100 ≤ left ∧ left ≤ 100) ∧
      (-100 ≤ right ∧ right ≤ 100) ∧ (u.step call).motor = u.motor.setSpeed left right := by
  rcases call with ⟨x, y⟩ | key | d
  · cases h
  · change (u.motor.processWasdInput u.baseSpeed key).1 = _ ∨ ∃ left right, _ ∧ _ ∧
      (u.motor.processWasdInput u.baseSpeed key).1 = _
    rw [MotorController.processWasdInput]
    split
    · exact Or.inr ⟨_, _, myClamp_mem _, myClamp_mem _, rfl⟩
    · exact Or.inl rfl
  · exact Or.inl (motor_callback_of_none u.service3 h)

/-- A channel is set for the speed it was given. -/
theorem channelShows_set (ch : MotorChannel) {speed : ℤ} (hlo : -100 ≤ speed)
    (hhi : speed ≤ 100) : ChannelShows (ch.set (myAbs speed) (decide (0 ≤ speed))) speed := by
  have habs : myAbs speed = |speed| := by
    rw [myAbs]
    split
    · rename_i hneg
      exact (abs_of_neg hneg).symm
    · rename_i hneg
      exact (abs_of_nonneg (not_lt.mp hneg)).symm
  have hbound : |speed| ≤ 100 := abs_le.mpr ⟨hlo, hhi⟩
  rw [habs]
  refine ⟨mul_comm _ _, ?_, decide_eq_true_iff, ?_⟩
  · change |speed| * 10 ≤ 1000
    omega
  · -- the brake is on without a speed, and off with one
    change (if 0 < |speed| then false else true) = true ↔ speed = 0
    by_cases hzero : speed = 0
    · rw [hzero]
      exact iff_of_true (if_neg (by decide)) rfl
    · rw [if_pos (abs_pos.mpr hzero)]
      exact iff_of_false Bool.false_ne_true hzero

/-! ### Histories -/

/-- The channels are set for the speeds that are stored. -/
def Consistent (c : MotorController) : Prop :=
  ChannelShows c.chB c.latestData.motorChBSpeed ∧ ChannelShows c.chA c.latestData.motorChASpeed

theorem consistent_setSpeed (c : MotorController) {left right : ℤ}
    (hleft : -100 ≤ left ∧ left ≤ 100) (hright : -100 ≤ right ∧ right ≤ 100) :
    Consistent (c.setSpeed left right) :=
  ⟨channelShows_set c.chB hleft.1 hleft.2, channelShows_set c.chA hright.1 hright.2⟩

/-- **What coordinates do**, whatever the state of the controller. -/
theorem processJoystickInput_cases (c : MotorController) (x y : ℤ) :
    (c.processJoystickInput x y).1 = c ∧
        (¬ MotorController.InRange x y ∨ x = c.preX ∧ y = c.preY) ∨
      MotorController.InRange x y ∧ ¬ (x = c.preX ∧ y = c.preY) ∧
        Settled (c.processJoystickInput x y).1 x y ∧
        (c.processJoystickInput x y).1.preX = x ∧ (c.processJoystickInput x y).1.preY = y := by
  by_cases hrange : MotorController.InRange x y
  · by_cases hsame : x = c.preX ∧ y = c.preY
    · rw [MotorController.processJoystickInput_of_same hsame.1 hsame.2]
      exact Or.inl ⟨rfl, Or.inr hsame⟩
    · rw [MotorController.processJoystickInput_of_new hrange hsame]
      refine Or.inr ⟨hrange, hsame, ⟨rfl, rfl, ?_, ?_⟩, rfl, rfl⟩
      · exact channelShows_set c.chB (myClamp_mem _).1 (myClamp_mem _).2
      · exact channelShows_set c.chA (myClamp_mem _).1 (myClamp_mem _).2
  · rw [MotorController.processJoystickInput_of_not_inRange hrange]
    exact Or.inl ⟨rfl, Or.inl hrange⟩

/-- What is known after every history: the cache holds the last coordinates in range, and the
channels are set for the speeds that are stored. -/
structure Known (history : List MotorCall) (c : MotorController) : Prop where
  stick : (c.preX, c.preY) = lastStick history
  consistent : Consistent c

theorem lastStick_concat_of_none (history : List MotorCall) {call : MotorCall}
    (h : call.coordinates = none) : lastStick (history ++ [call]) = lastStick history := by
  rw [lastStick, List.filterMap_append, List.filterMap_cons, h, List.filterMap_nil, List.append_nil]
  rfl

theorem lastStick_concat_of_some (history : List MotorCall) {call : MotorCall} {x y : ℤ}
    (h : call.coordinates = some (x, y)) : lastStick (history ++ [call]) =
      if MotorController.InRange x y then (x, y) else lastStick history := by
  have hcoordinates : (history ++ [call]).filterMap MotorCall.coordinates =
      history.filterMap MotorCall.coordinates ++ [(x, y)] := by
    rw [List.filterMap_append, List.filterMap_cons, h, List.filterMap_nil]
  rw [lastStick, hcoordinates, List.filter_append]
  by_cases hrange : MotorController.InRange x y
  · have hkept : [(x, y)].filter (fun p => MotorController.InRange p.1 p.2) = [(x, y)] :=
      List.filter_eq_self.mpr fun p hp => by
        rw [List.mem_singleton.mp hp]
        exact decide_eq_true hrange
    rw [if_pos hrange, hkept, List.getLast?_concat, Option.getD_some]
  · have hdropped : [(x, y)].filter (fun p => MotorController.InRange p.1 p.2) = [] :=
      List.filter_eq_nil_iff.mpr fun p hp => by
        rw [List.mem_singleton.mp hp]
        exact of_decide_eq_false (decide_eq_false hrange) ∘ of_decide_eq_true
    rw [if_neg hrange, hdropped, List.append_nil]
    rfl

/-- **The cache and the channels**, after every history. -/
theorem known_after (history : List MotorCall) : Known history (after history).motor := by
  induction history using List.reverseRecOn with
  | nil =>
    have hstill : ChannelShows {} 0 := ⟨rfl, by decide, by decide, by decide⟩
    exact ⟨rfl, hstill, hstill⟩
  | append_singleton history call ih =>
    obtain ⟨hstick, hconsistent⟩ := ih
    have hafter : after (history ++ [call]) = (after history).step call := List.foldl_concat ..
    rw [hafter]
    cases hcall : call.coordinates with
    | none =>
      have hlast := lastStick_concat_of_none history hcall
      rcases motor_step_of_none (after history) hcall with hsame | ⟨left, right, hl, hr, hset⟩
      · rw [hsame]
        exact ⟨hstick.trans hlast.symm, hconsistent⟩
      · -- a key moves the wheels and leaves the cache: from here on the two may disagree
        rw [hset]
        exact ⟨hstick.trans hlast.symm, consistent_setSpeed _ hl hr⟩
    | some p =>
      obtain ⟨x, y⟩ := p
      have hlast := lastStick_concat_of_some history hcall
      rw [motor_step_of_coordinates _ hcall]
      rcases processJoystickInput_cases (after history).motor x y with ⟨hsame, hwhy⟩ |
        ⟨hrange, -, hsettled, hx, hy⟩
      · rw [hsame]
        refine ⟨?_, hconsistent⟩
        rw [hlast, ← hstick]
        split
        · rename_i hrange
          obtain ⟨rfl, rfl⟩ := hwhy.resolve_left (not_not.mpr hrange)
          rfl
        · rfl
      · refine ⟨?_, ?_⟩
        · rw [hlast, if_pos hrange, hx, hy]
        · rw [Consistent, hsettled.left, hsettled.right]
          exact ⟨hsettled.chB, hsettled.chA⟩

/-- **The motors follow the stick after every history, exactly if** coordinates in range are not
the last ones in range again (those of power-on are zero), or the wheels have their speeds
already. -/
theorem followsStick_iff (history : List MotorCall) (call : MotorCall) :
    FollowsStick history call ↔ ∀ x y, call.coordinates = some (x, y) →
      MotorController.InRange x y → (x, y) ≠ lastStick history ∨
        (after history).motor.latestData.motorChBSpeed = MotorController.leftSpeed x y ∧
          (after history).motor.latestData.motorChASpeed = MotorController.rightSpeed x y := by
  obtain ⟨hstick, hconsistent⟩ := known_after history
  have hafter : after (history ++ [call]) = (after history).step call := List.foldl_concat ..
  refine forall₃_congr fun x y hcall => ?_
  rw [hafter, motor_step_of_coordinates _ hcall, ← hstick]
  have hcache : (x, y) = ((after history).motor.preX, (after history).motor.preY) ↔
      x = (after history).motor.preX ∧ y = (after history).motor.preY := Prod.mk_inj
  rw [ne_eq, hcache]
  rcases processJoystickInput_cases (after history).motor x y with ⟨hsame, hwhy⟩ |
    ⟨hrange, hnew, hsettled, -, -⟩
  · -- the call changes nothing
    rw [hsame]
    constructor
    · rintro ⟨hset, -⟩ hrange
      have := hset hrange
      exact Or.inr ⟨this.left, this.right⟩
    · intro h
      refine ⟨fun hrange => ?_, fun _ => rfl⟩
      have hcached := hwhy.resolve_left (not_not.mpr hrange)
      obtain ⟨hleft, hright⟩ := (h hrange).resolve_left (not_not.mpr hcached)
      exact ⟨hleft, hright, hleft ▸ hconsistent.1, hright ▸ hconsistent.2⟩
  · -- the call sets the wheels, so the coordinates are new
    exact iff_of_true ⟨fun _ => hsettled, fun hnot => absurd hrange hnot⟩
      fun _ => Or.inl hnew

/-- The first request may be for full speed backwards and to the left, and the car stays where it
is. -/
example : ¬ FollowsStick [] (.joystick 0 0) := by
  intro h
  have hsettled := (h 0 0 rfl).1 (by decide)
  exact absurd hsettled.left (by decide)

/-- The stick is held forward, the key `x` stops the car, and the stick, still forward, does not
move it. -/
theorem heldStick_ignored :
    ¬ FollowsStick [.joystick 50 99, .wasd 'x'] (.joystick 50 99) := by
  intro h
  have hsettled := (h 50 99 rfl).1 (by decide)
  exact absurd hsettled.left (by decide)

end MotorUnit

end Ecu

end VehicleStack
