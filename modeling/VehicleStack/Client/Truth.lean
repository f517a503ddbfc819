import VehicleStack.Client.Wire

/-!
# What the replies say of the actuators

The replies of Service 2 are made of the state that is read then, and those of Service 3 of
copies that are taken when a setter reports a change. A reply tells the truth if its payload
is the state in force once the request was handled
(`VehicleStack.Client.ActuatorRequest.TellsTruth`).

The copy of the motors' data is that of the controller in every reachable state. The copy of the
alert's interval starts with zero, which means an alert without end, and the interval with
minus one, which means none; the main result, `VehicleStack.Client.tellsTruth_iff`, is that the
only replies that are not true are those to requests for minus one before any other interval was
asked for.
-/

namespace VehicleStack

namespace Client

open Ecu BigEndian

/-- A request of full length to a method of Service 2 or 3; the side of a lamp is one of the
three. -/
structure ActuatorRequest where
  method : Method
  actuates : method.serviceId ≠ 0x0100
  beyond : Beyond
  payload : List UInt8
  complete : IsComplete method payload
  side : method = .led → ownBytes payload 16 < 3

namespace ActuatorRequest

/-- What the callback of the method's service does. -/
def respond (r : ActuatorRequest) (s : Actuators) : Actuators × Option (List UInt8) :=
  if r.method.serviceId = 0x0200 then s.service2Callback r.beyond r.payload
  else s.service3Callback r.beyond r.payload

/-- The state a method's reply is about, as it is encoded. -/
def inForce (r : ActuatorRequest) (s : Actuators) : List UInt8 :=
  match r.method with
  | .buzzer => serializeBuzzerData { isOn := s.buzzer.isOn, frequency := s.buzzer.frequency }
  | .led =>
    serializeLedData
      { side := ownBytes r.payload 16
        isOn := (LedSide.ofByte? (ownBytes r.payload 16)).elim false s.led.isOn }
  | .alert => serializeEmerAlertData s.interval
  | .motor => serializeMotorControllerData s.service3.motor.latestData
  | .pr | .tof | .ult => []

/-- **A reply tells the truth**: its payload is the state in force right after the request was
handled. -/
def TellsTruth (r : ActuatorRequest) (s : Actuators) : Prop :=
  ∃ bytes, (r.respond s).2 = some bytes ∧ bytes.drop 16 = r.inForce (r.respond s).1

/-- The interval a request for an alert asks for. -/
def cycleMs (r : ActuatorRequest) : Option ℤ :=
  if r.method = .alert then
    some (ofIntBytes (([16, 17, 18, 19, 20, 21, 22] ++ [23]).map (ownBytes r.payload)))
  else none

end ActuatorRequest

/-- What happens to the actuators. -/
inductive ActuatorEvent where
  | request (r : ActuatorRequest)
  /-- `EmerAlert_Update_Periodic`. -/
  | periodic (timeMs : UInt64)

/-- One event. -/
def actuate (s : Actuators) : ActuatorEvent → Actuators
  | .request r => (r.respond s).1
  | .periodic timeMs => s.emerAlertUpdatePeriodic timeMs

/-- The actuators after some events, from power-on on. -/
def actuated (history : List ActuatorEvent) : Actuators := history.foldl actuate {}

/-- No interval other than minus one has been asked for. -/
def NeverSet (history : List ActuatorEvent) : Prop :=
  ∀ r, .request r ∈ history → ∀ c, ActuatorRequest.cycleMs r = some c → c = -1

/-! ### What one event does to the copies -/

/-- The payload of a reply is the data. -/
theorem drop_reply (rx : ℕ → UInt8) (data : List UInt8) : (reply rx data).drop 16 = data := by
  rw [reply_eq]
  rfl

/-- What the periodic call does has nothing to do with Service 3. -/
theorem service3_emerAlertUpdatePeriodic (s : Actuators) (timeMs : UInt64) :
    (s.emerAlertUpdatePeriodic timeMs).service3 = s.service3 := by
  have htoggle : s.emerAlertToggle.service3 = s.service3 := by
    rw [Actuators.emerAlertToggle]
    split <;> rfl
  have hoff : s.emerAlertOff.service3 = s.service3 := by
    rw [Actuators.emerAlertOff]
    split <;> rfl
  have hon : s.emerAlertOn.service3 = s.service3 := by
    rw [Actuators.emerAlertOn]
    split <;> rfl
  rw [Actuators.emerAlertUpdatePeriodic]
  split
  · split
    · exact htoggle
    · rfl
  · split
    · exact hoff
    · exact hon

namespace ActuatorRequest

variable (r : ActuatorRequest) (s : Actuators)

/-- A request for an alert is answered with the interval. -/
theorem inForce_of_cycleMs {r : ActuatorRequest} {c : ℤ} (h : r.cycleMs = some c)
    (s : Actuators) : r.inForce s = serializeEmerAlertData s.interval := by
  have hmethod : r.method = .alert := by
    by_contra hother
    rw [cycleMs, if_neg hother] at h
    cases h
  rw [inForce, hmethod]

/-- **A request for an alert**: the interval is what it asks for, and the copy follows a change. -/
theorem respond_alert {c : ℤ} (h : r.cycleMs = some c) :
    (r.respond s).1.interval = c ∧
      (r.respond s).1.service3.emerAlertLatestData =
        (if c = s.interval then s.service3.emerAlertLatestData else c) ∧
      (r.respond s).1.service3.motor = s.service3.motor ∧
      (r.respond s).1.service3.motorControllerLatestData =
        s.service3.motorControllerLatestData ∧
      ∃ bytes, (r.respond s).2 = some bytes ∧
        bytes.drop 16 =
          serializeEmerAlertData (r.respond s).1.service3.emerAlertLatestData := by
  obtain ⟨method, hactuates, beyond, payload, hcomplete, hside⟩ := r
  have hmethod : method = .alert := by
    by_contra hother
    rw [cycleMs, if_neg hother] at h
    cases h
  subst hmethod
  have hlen : 24 ≤ payload.length := hcomplete.requestLength_le
  have hcycle : c = ofIntBytes (([16, 17, 18, 19, 20, 21, 22] ++ [23]).map
      (rxBuf beyond.rxBuf payload)) := by
    rw [map_rxBuf_of_lt (show 23 < payload.length from hlen) (by decide)]
    exact (Option.some.inj h).symm
  have hrespond : ActuatorRequest.respond
      ⟨.alert, hactuates, beyond, payload, hcomplete, hside⟩ s =
        ofService3 s (s.service3.alertMethod (rxBuf beyond.rxBuf payload)) := by
    have hother : ¬ Method.alert.serviceId = 0x0200 := by decide
    rw [respond, if_neg hother, Actuators.service3Callback,
      service3Callback_alert hcomplete.isRequest]
    rfl
  rw [hrespond, alertMethod_of_cycle _ hcycle]
  refine ⟨setInterval_toggleIntervalMs _ _, ?_, rfl, rfl, _, rfl, drop_reply _ _⟩
  change (if (s.service3.emerAlert.setInterval c).2 then
    (s.service3.emerAlert.setInterval c).1.toggleIntervalMs else _) = _
  rw [setInterval_toggleIntervalMs, EmerAlert.setInterval, Actuators.interval]
  split
  · rfl
  · rfl

/-- Coordinates leave the copy at the controller's data. -/
theorem copy_processJoystickInput (c : MotorController) (x y : ℤ) :
    (if (c.processJoystickInput x y).2 then (c.processJoystickInput x y).1.latestData
      else c.latestData) = (c.processJoystickInput x y).1.latestData := by
  by_cases hrange : MotorController.InRange x y
  · by_cases hsame : x = c.preX ∧ y = c.preY
    · rw [MotorController.processJoystickInput_of_same hsame.1 hsame.2]
      rfl
    · rw [MotorController.processJoystickInput_of_new hrange hsame]
      rfl
  · rw [MotorController.processJoystickInput_of_not_inRange hrange]
    rfl

/-- The motor method leaves the copy right, and sends it. -/
theorem motorMethod_copy {s : Service3} (rx : ℕ → UInt8)
    (h : s.motorControllerLatestData = s.motor.latestData) : ∃ motor,
    s.motorMethod rx =
      ({ s with motor := motor, motorControllerLatestData := motor.latestData },
        some (reply rx (serializeMotorControllerData motor.latestData))) := by
  have heq := @motorMethod_of_coordinates s rx _ _ rfl rfl
  rw [h, copy_processJoystickInput] at heq
  exact ⟨_, heq⟩

/-- **Another request** leaves the interval and its copy alone, and the copy of the motors' data
at what it is a copy of; and its reply tells the truth. -/
theorem respond_other (h : r.cycleMs = none)
    (hmotor : s.service3.motorControllerLatestData = s.service3.motor.latestData) :
    (r.respond s).1.interval = s.interval ∧
      (r.respond s).1.service3.emerAlertLatestData = s.service3.emerAlertLatestData ∧
      (r.respond s).1.service3.motorControllerLatestData =
        (r.respond s).1.service3.motor.latestData ∧
      r.TellsTruth s := by
  obtain ⟨method, hactuates, beyond, payload, hcomplete, hside⟩ := r
  rcases method
  case pr | tof | ult => exact absurd rfl hactuates
  case buzzer =>
    have hrespond : ActuatorRequest.respond
        ⟨.buzzer, hactuates, beyond, payload, hcomplete, hside⟩ s =
          s.buzzerMethod (rxBuf beyond.rxBuf payload) := by
      have hservice : Method.buzzer.serviceId = 0x0200 := by decide
      rw [respond, if_pos hservice, service2Callback_buzzer hcomplete.isRequest beyond]
    have hkept : (s.buzzerMethod (rxBuf beyond.rxBuf payload)).1.service3 = s.service3 := by
      rw [Actuators.buzzerMethod]
      dsimp only
      split <;> rfl
    rw [TellsTruth, hrespond, Actuators.interval, hkept]
    exact ⟨rfl, rfl, hmotor, _, rfl, drop_reply _ _⟩
  case led =>
    have hbyte : rxBuf beyond.rxBuf payload 16 = ownBytes payload 16 := by
      have hlen : 18 ≤ payload.length := hcomplete.requestLength_le
      exact rxBuf_of_lt (by omega)
    have hrespond : ActuatorRequest.respond
        ⟨.led, hactuates, beyond, payload, hcomplete, hside⟩ s =
          s.ledMethod beyond (rxBuf beyond.rxBuf payload) := by
      have hservice : Method.led.serviceId = 0x0200 := by decide
      rw [respond, if_pos hservice, service2Callback_led hcomplete.isRequest beyond]
    rw [TellsTruth, hrespond, ledMethod_eq]
    refine ⟨rfl, rfl, hmotor, _, rfl, (drop_reply _ _).trans ?_⟩
    -- the side is one of the three, so nothing behind the table is read
    have hsome : LedSide.ofByte? (ownBytes payload 16) ≠ none := fun hnone =>
      ofByte?_eq_none_iff.mp hnone (hside rfl)
    obtain ⟨side, hofByte⟩ := Option.ne_none_iff_exists'.mp hsome
    rw [hbyte, inForce, Led.getData]
    simp only [hofByte, Option.elim_some]
  case alert => cases h
  case motor =>
    have hrespond : ActuatorRequest.respond
        ⟨.motor, hactuates, beyond, payload, hcomplete, hside⟩ s =
          ofService3 s (s.service3.motorMethod (rxBuf beyond.rxBuf payload)) := by
      have hother : ¬ Method.motor.serviceId = 0x0200 := by decide
      rw [respond, if_neg hother, Actuators.service3Callback,
        service3Callback_motor hcomplete.isRequest]
      rfl
    obtain ⟨motor, heq⟩ := motorMethod_copy (rxBuf beyond.rxBuf payload) hmotor
    rw [TellsTruth, hrespond, heq]
    exact ⟨rfl, rfl, rfl, _, rfl, drop_reply _ _⟩

end ActuatorRequest

/-! ### Every history -/

/-- **The copies in every reachable state**: that of the motors' data is right, and that of the
interval from the first request for another interval on. -/
structure Copies (history : List ActuatorEvent) (s : Actuators) : Prop where
  motor : s.service3.motorControllerLatestData = s.service3.motor.latestData
  unset : NeverSet history → s.interval = -1 ∧ s.service3.emerAlertLatestData = 0
  set : ¬ NeverSet history → s.service3.emerAlertLatestData = s.interval

theorem neverSet_concat (history : List ActuatorEvent) (e : ActuatorEvent) :
    NeverSet (history ++ [e]) ↔
      NeverSet history ∧ ∀ r, e = .request r → ∀ c, r.cycleMs = some c → c = -1 := by
  simp only [NeverSet, List.mem_append, List.mem_singleton, or_imp, forall_and, eq_comm]

/-- Copies stay right through what asks for no other interval. -/
theorem Copies.unchanged {history : List ActuatorEvent} {e : ActuatorEvent} {s s' : Actuators}
    (h : Copies history s) (hnone : ∀ r, e = .request r → r.cycleMs = none)
    (hinterval : s'.interval = s.interval)
    (hcopy : s'.service3.emerAlertLatestData = s.service3.emerAlertLatestData)
    (hmotor : s'.service3.motorControllerLatestData = s'.service3.motor.latestData) :
    Copies (history ++ [e]) s' := by
  have hsame : NeverSet (history ++ [e]) ↔ NeverSet history := by
    rw [neverSet_concat, and_iff_left]
    intro r hr c hc
    exact absurd ((hnone r hr).symm.trans hc) nofun
  refine ⟨hmotor, fun hnever => ?_, fun hset => ?_⟩
  · obtain ⟨hoff, hzero⟩ := h.unset (hsame.mp hnever)
    exact ⟨hinterval.trans hoff, hcopy.trans hzero⟩
  · exact hcopy.trans ((h.set (mt hsame.mpr hset)).trans hinterval.symm)

/-- A request for another interval puts it in force and copies it, unless it is the one in force. -/
theorem Copies.alert {history : List ActuatorEvent} {r : ActuatorRequest} {s : Actuators} {c : ℤ}
    (h : Copies history s) (hcycle : r.cycleMs = some c) :
    Copies (history ++ [.request r]) (r.respond s).1 := by
  obtain ⟨hinterval, hcopy, hmotor, hmotorCopy, -⟩ := r.respond_alert s hcycle
  refine ⟨?_, fun hnever => ?_, fun hset => ?_⟩
  · rw [hmotorCopy, h.motor]
    exact congrArg MotorController.latestData hmotor.symm
  · obtain ⟨hbefore, hnow⟩ := (neverSet_concat history _).mp hnever
    have hoff : c = -1 := hnow r rfl c hcycle
    obtain ⟨hkept, hzero⟩ := h.unset hbefore
    refine ⟨hinterval.trans hoff, hcopy.trans ?_⟩
    rw [if_pos (hoff.trans hkept.symm), hzero]
  · refine hcopy.trans ?_
    rw [hinterval]
    split
    · rename_i hsame
      by_cases hbefore : NeverSet history
      · -- the interval is still minus one, so another one was asked for just now
        have hoff : c = -1 := hsame.trans (h.unset hbefore).1
        refine absurd ((neverSet_concat history _).mpr ⟨hbefore, ?_⟩) hset
        rintro q hq c' hc'
        obtain rfl := ActuatorEvent.request.inj hq
        exact (Option.some.inj (hc'.symm.trans hcycle)).trans hoff
      · exact (h.set hbefore).trans hsame.symm
    · rfl

theorem copies (history : List ActuatorEvent) : Copies history (actuated history) := by
  induction history using List.reverseRecOn with
  | nil =>
    have hnever : NeverSet [] := fun r hr => absurd hr List.not_mem_nil
    exact ⟨rfl, fun _ => ⟨rfl, rfl⟩, fun h => absurd hnever h⟩
  | append_singleton history e ih =>
    have hafter : actuated (history ++ [e]) = actuate (actuated history) e :=
      List.foldl_concat ..
    rw [hafter]
    generalize actuated history = s at ih
    rcases e with r | timeMs
    · cases hcycle : r.cycleMs with
      | none =>
        obtain ⟨hinterval, hcopy, hmotor, -⟩ := r.respond_other s hcycle ih.motor
        refine ih.unchanged ?_ hinterval hcopy hmotor
        rintro q hq
        obtain rfl := ActuatorEvent.request.inj hq
        exact hcycle
      | some c => exact ih.alert hcycle
    · have hservice := service3_emerAlertUpdatePeriodic s timeMs
      refine ih.unchanged (fun q hq => nomatch hq) ?_ ?_ ?_
      · exact congrArg (fun service => service.emerAlert.toggleIntervalMs) hservice
      · exact congrArg Service3.emerAlertLatestData hservice
      · change (s.emerAlertUpdatePeriodic timeMs).service3.motorControllerLatestData = _
        rw [hservice, ih.motor, ← hservice]
        rfl

/-- **Every reply tells the truth, exactly if it is not one to a request for minus one** that comes
before every request for another interval. -/
theorem tellsTruth_iff (history : List ActuatorEvent) (r : ActuatorRequest) :
    r.TellsTruth (actuated history) ↔ ¬ (r.cycleMs = some (-1) ∧ NeverSet history) := by
  have hcopies := copies history
  generalize actuated history = s at hcopies
  cases hcycle : r.cycleMs with
  | none => exact iff_of_true (r.respond_other s hcycle hcopies.motor).2.2.2 nofun
  | some c =>
    obtain ⟨hinterval, hcopy, -, -, bytes, hbytes, hdata⟩ := r.respond_alert s hcycle
    have hforce : r.inForce (r.respond s).1 = serializeEmerAlertData c := by
      rw [ActuatorRequest.inForce_of_cycleMs hcycle, hinterval]
    have htruth : r.TellsTruth s ↔ serializeEmerAlertData
        (if c = s.interval then s.service3.emerAlertLatestData else c) =
          serializeEmerAlertData c := by
      rw [ActuatorRequest.TellsTruth, hbytes, hforce, ← hcopy, ← hdata]
      constructor
      · rintro ⟨other, hother, heq⟩
        rw [← Option.some.inj hother] at heq
        exact heq
      · exact fun heq => ⟨bytes, rfl, heq⟩
    rw [htruth, Option.some_inj]
    by_cases hnever : NeverSet history
    · obtain ⟨hkept, hzero⟩ := hcopies.unset hnever
      rw [hkept, hzero]
      by_cases hoff : c = -1
      · rw [if_pos hoff, hoff]
        exact iff_of_false (by decide) (not_not.mpr ⟨rfl, hnever⟩)
      · rw [if_neg hoff]
        exact iff_of_true rfl fun h => hoff h.1
    · rw [hcopies.set hnever]
      refine iff_of_true ?_ fun h => hnever h.2
      split
      · rename_i hsame
        rw [hsame]
      · rfl

/-- A request for no alert. -/
def switchOff : ActuatorRequest where
  method := .alert
  actuates := by decide
  beyond := { rxBuf := fun _ => 0, ledTable := fun _ => false }
  payload := [0x03, 0x00, 0x03, 0x01, 0, 0, 0, 16, 0, 0, 0, 0, 1, 1, 0x00, 0] ++
    List.replicate 8 0xFF
  complete := ⟨⟨by decide, by decide, by decide, by decide, by decide⟩, by decide⟩
  side := nofun

/-- The first request of all, for no alert, is answered as if there were one without end. -/
theorem switchOff_untrue : ¬ switchOff.TellsTruth (actuated []) := by
  rintro ⟨bytes, hbytes, hdata⟩
  have hcycle : switchOff.cycleMs = some (-1) := by decide
  obtain ⟨hinterval, hcopy, -, -, bytes', hbytes', hdata'⟩ :=
    switchOff.respond_alert (actuated []) hcycle
  obtain rfl : bytes = bytes' := Option.some.inj (hbytes.symm.trans hbytes')
  rw [hdata', hcopy, ActuatorRequest.inForce_of_cycleMs hcycle, hinterval] at hdata
  exact absurd hdata (by decide)

end Client

end VehicleStack
