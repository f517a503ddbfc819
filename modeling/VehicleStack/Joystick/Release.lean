import VehicleStack.Realtime.Envelope
import VehicleStack.Realtime.JoystickThread

/-!
# Releasing the stick

A released stick is in the dead zone of both axes, and from its position of rest
the control loop is to command neither throttle nor steer. The horizontal axis
rests at 50, which `map_joy_to_steer` takes to zero. The vertical axis is turned
round after the dead zone has set it to 50, so it rests at `99 - 50`, and
`map_joy_to_throttle` takes 49 to two percent backwards.

`VehicleStack.Joystick.releasedStick_creeps` is the result: whatever the stick did
before, the last position that reaches the car once it is released is `(50, 49)`,
and every cycle that drives by it reverses.
-/

namespace VehicleStack

namespace Joystick

open Realtime Controller

/-! ### What reaches the car -/

/-- Every message of the controller has numbers of two digits. -/
theorem twoDigits_of_mem_sent {r : Rounding} {first : Reading} {polls : List Reading} {m : Message}
    (h : m ∈ sent r first polls) : TwoDigits m := by
  obtain ⟨p, rfl | rfl⟩ := mem_sent h
  · simp only [TwoDigits, getConvertedSwt]
    split_ifs <;> omega
  · have hx := getConvertedVrx_mem r p.vrx
    have hy := getConvertedVry_mem r p.vry
    simp only [TwoDigits]
    omega

/-- The shared record once messages have arrived, in order, each at its time. -/
def delivered (shared : SharedData) (arrivals : List (Message × ℕ)) : SharedData :=
  arrivals.foldl (fun s a => joystickThread s a.1.datagram a.2) shared

/-- **The last position that arrives is the one the car drives by.** -/
theorem joy_delivered (shared : SharedData) {arrivals : List (Message × ℕ)}
    (h : ∀ a ∈ arrivals, TwoDigits a.1) :
    ∀ q ∈ (motors (arrivals.map Prod.fst)).getLast?,
      ((delivered shared arrivals).joy.x, (delivered shared arrivals).joy.y) = q := by
  induction arrivals using List.reverseRecOn with
  | nil => exact fun q hq => by cases hq
  | append_singleton arrivals a ih =>
    have hbefore := ih fun b hb => h b (List.mem_append_left _ hb)
    have hparse := parseRawFormat_datagram (h a List.mem_concat_self)
    have hlast : delivered shared (arrivals ++ [a]) =
        joystickThread (delivered shared arrivals) a.1.datagram a.2 := by
      simp only [delivered, List.foldl_append, List.foldl_cons, List.foldl_nil]
    obtain ⟨m, nowMs⟩ := a
    rw [hlast, joystickThread, hparse, List.map_append]
    cases m with
    | button swt =>
      have hmotors : motors (arrivals.map Prod.fst ++ [Message.button swt]) =
          motors (arrivals.map Prod.fst) := by
        simp [motors, Message.motor?]
      exact fun q hq => hbefore q (hmotors ▸ hq)
    | motor vrx vry =>
      have hmotors : motors (arrivals.map Prod.fst ++ [Message.motor vrx vry]) =
          motors (arrivals.map Prod.fst) ++ [(vrx, vry)] := by
        simp [motors, Message.motor?]
      intro q hq
      have hq' : q ∈ (motors (arrivals.map Prod.fst) ++ [(vrx, vry)]).getLast? := hmotors ▸ hq
      rw [List.getLast?_concat, Option.mem_some] at hq'
      exact hq'

/-! ### What the car does -/

/-- Every engine-on cycle in manual mode without an AEB event that sees this stick position
commands this throttle and this steer. -/
def Commands (joy : JoystickData) (throttle steer : ℤ) : Prop :=
  ∀ fl l inputs, inputs.engine = true → inputs.mode = .manual → inputs.joy = joy →
    ControlLoop.aebEvent fl l inputs = false →
    (l.computeOutput fl inputs).2.throttle = throttle ∧
      (l.computeOutput fl inputs).2.steer = steer

/-- The position of rest reverses. -/
theorem commands_of_rest {joy : JoystickData} (h : (joy.x, joy.y) = (50, 49)) :
    Commands joy (-2) 0 := by
  obtain ⟨hx, hy⟩ := Prod.mk.inj h
  intro fl l inputs he hmode hjoy ha
  obtain ⟨hthr, hstr⟩ := computeOutput_of_stick he (by rw [hmode]; decide) ha
  rw [hthr, hstr, hmode, hjoy, hx, hy]
  exact ⟨by decide, by decide⟩

/-- A stick position commands one throttle only. -/
theorem Commands.unique {joy : JoystickData} {thr str thr' str' : ℤ} (h : Commands joy thr str)
    (h' : Commands joy thr' str') : thr = thr' := by
  let inputs : ControlInputs :=
    { engine := true, mode := .manual, joy := joy, sensor := { frontTofMm := -1 } }
  have ha : ControlLoop.aebEvent id {} inputs = false := rfl
  exact (h id {} inputs rfl rfl rfl ha).1.symm.trans (h' id {} inputs rfl rfl rfl ha).1

/-! ### The released stick -/

/-- Along some passes of the controller's loop the stick comes to rest, and some position has
been sent. -/
def Released (r : Rounding) (first : Reading) (polls : List Reading) : Prop :=
  ComesToRest r first polls ∧ motors (sent r first polls) ≠ []

/-- From the last position sent onwards the car is commanded this throttle and this steer: at
every point of the passes after which no position is sent any more, once all messages up
to there have arrived. -/
def CommandsFromLast (r : Rounding) (first : Reading) (polls : List Reading)
    (throttle steer : ℤ) : Prop :=
  ∀ before later, polls = before ++ later →
    motors (sent r first polls) = motors (sent r first before) →
    ∀ shared arrivals, arrivals.map Prod.fst = sent r first before →
      Commands (delivered shared arrivals).joy throttle steer

/-- A released stick stops the car along some passes. -/
def ReleasedStickStops (r : Rounding) (first : Reading) (polls : List Reading) : Prop :=
  Released r first polls → CommandsFromLast r first polls 0 0

/-- Once the stick is released the car is commanded to reverse. -/
theorem Released.commands {r : Rounding} {first : Reading} {polls : List Reading}
    (h : Released r first polls) : CommandsFromLast r first polls (-2) 0 := by
  obtain ⟨hrest, hsent⟩ := h
  intro before later _ hlast shared arrivals harrive
  obtain ⟨q, hq⟩ := Option.ne_none_iff_exists'.mp (mt List.getLast?_eq_none_iff.mp hsent)
  have hq49 : q = (50, 49) := hrest.last_motor q hq
  have htwo : ∀ a ∈ arrivals, TwoDigits a.1 := fun a ha =>
    twoDigits_of_mem_sent (harrive ▸ List.mem_map_of_mem ha)
  have hjoy := joy_delivered shared htwo q (by rw [harrive, ← hlast, hq]; rfl)
  exact commands_of_rest (hjoy.trans hq49)

/-- **A released stick never stops the car.** Along every run of the controller in which the
stick comes to rest and a position has been sent, the throttle from the last position on
is two percent backwards, with the steer at zero; so a released stick stops the car along
a run only if the run has no such end at all. -/
theorem releasedStick_creeps (r : Rounding) (first : Reading) (polls : List Reading) :
    (Released r first polls → CommandsFromLast r first polls (-2) 0) ∧
      (ReleasedStickStops r first polls ↔ ¬Released r first polls) := by
  refine ⟨Released.commands, ?_, fun hnot h => absurd h hnot⟩
  intro hstops h
  let arrivals := (sent r first polls).map fun m => (m, 0)
  have harrive : arrivals.map Prod.fst = sent r first polls := by
    simp [arrivals, Function.comp_def]
  have hback := h.commands polls [] (List.append_nil polls).symm rfl {} arrivals harrive
  have hzero := hstops h polls [] (List.append_nil polls).symm rfl {} arrivals harrive
  exact absurd (hback.unique hzero) (by decide)

/-- The stick is pushed to the front and let go. -/
def pushed : List Reading := [⟨0, 512, 1023, 1⟩, ⟨0, 512, 512, 2⟩]

theorem pushed_not_stopped : ¬∀ r first polls, ReleasedStickStops r first polls := by
  intro hall
  have hrest : ComesToRest .exact ⟨0, 512, 512, 0⟩ pushed := by
    refine ⟨[⟨0, 512, 1023, 1⟩], ⟨0, 512, 512, 2⟩, [], rfl, ?_, by decide +kernel⟩
    intro q hq
    rw [List.mem_singleton] at hq
    subst hq
    exact ⟨by decide +kernel, by decide +kernel⟩
  have hsent : sent .exact ⟨0, 512, 512, 0⟩ pushed = [.motor 50 0, .motor 50 49] := by
    decide +kernel
  have hreleased : Released .exact ⟨0, 512, 512, 0⟩ pushed :=
    ⟨hrest, by rw [hsent]; decide⟩
  let arrivals : List (Message × ℕ) := [(.motor 50 0, 1000), (.motor 50 49, 2000)]
  have hback := hreleased.commands pushed [] rfl rfl {} arrivals (by rw [hsent]; rfl)
  have hzero := hall .exact ⟨0, 512, 512, 0⟩ pushed hreleased pushed [] rfl rfl {} arrivals
    (by rw [hsent]; rfl)
  exact absurd (hback.unique hzero) (by decide)

end Joystick

end VehicleStack
