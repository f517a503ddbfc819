import VehicleStack.Lib.Mealy
import VehicleStack.Lib.Latch
import VehicleStack.Realtime.Shared

/-!
# The comm thread

Each cycle of `comm_thread` takes a snapshot of the control output and, with the
engine on, sends the ECU a request for every channel whose value differs from
the one in `preOut`. A request overwrites what the ECU last heard on its
channel, so the log of requests seen channel by channel is six change-only
senders (`VehicleStack.Latch`), except that the buzzer request carries
`preOut.buzzerOn`, the value before the change, where every other channel
carries the new one.

`interval_ms` of the source is `alert_interval_ms` of `ControlOutput`.
-/

namespace VehicleStack

namespace Realtime

open Latch

/-- `LedSide`. -/
inductive LedSide where
  | back
  | frontDown
  | frontUp
  deriving DecidableEq

/-- A call of `VSomeIPManager`. -/
inductive Request where
  | buzzer (on : Bool) (frequency : ℤ)
  | led (side : LedSide) (on : Bool)
  | alert (intervalMs : ℤ)
  | motor (throttle steer : ℤ)
  deriving DecidableEq

/-- What a cycle sees of the shared record: `out` and `engine`. -/
structure CommSnapshot where
  out : ControlOutput
  engine : Bool

/-! ### The code

Each `if` of the cycle compares one channel with `preOut`, sends a request and
overwrites that channel of `preOut`. -/

/-- The buzzer: the request carries the old on/off value. -/
def sendBuzzer (preOut out : ControlOutput) : ControlOutput × List Request :=
  if out.buzzerOn ≠ preOut.buzzerOn ∨ out.frequency ≠ preOut.frequency then
    ({ preOut with buzzerOn := out.buzzerOn, frequency := out.frequency },
      [.buzzer preOut.buzzerOn out.frequency])
  else (preOut, [])

/-- The rear lamp. -/
def sendLedBack (preOut out : ControlOutput) : ControlOutput × List Request :=
  if out.ledBackOn ≠ preOut.ledBackOn then
    ({ preOut with ledBackOn := out.ledBackOn }, [.led .back out.ledBackOn])
  else (preOut, [])

/-- The low beam. -/
def sendLedFrontDown (preOut out : ControlOutput) : ControlOutput × List Request :=
  if out.ledFrontDownOn ≠ preOut.ledFrontDownOn then
    ({ preOut with ledFrontDownOn := out.ledFrontDownOn }, [.led .frontDown out.ledFrontDownOn])
  else (preOut, [])

/-- The high beam. -/
def sendLedFrontUp (preOut out : ControlOutput) : ControlOutput × List Request :=
  if out.ledFrontUpOn ≠ preOut.ledFrontUpOn then
    ({ preOut with ledFrontUpOn := out.ledFrontUpOn }, [.led .frontUp out.ledFrontUpOn])
  else (preOut, [])

/-- The emergency alert. -/
def sendAlert (preOut out : ControlOutput) : ControlOutput × List Request :=
  if out.alertIntervalMs ≠ preOut.alertIntervalMs then
    ({ preOut with alertIntervalMs := out.alertIntervalMs }, [.alert out.alertIntervalMs])
  else (preOut, [])

/-- The motor. -/
def sendMotor (preOut out : ControlOutput) : ControlOutput × List Request :=
  if out.throttle ≠ preOut.throttle ∨ out.steer ≠ preOut.steer then
    ({ preOut with throttle := out.throttle, steer := out.steer },
      [.motor out.throttle out.steer])
  else (preOut, [])

/-- One cycle of `comm_thread` after its snapshot: the new `preOut` and the
requests sent. -/
def commCycle (preOut : ControlOutput) (snap : CommSnapshot) : ControlOutput × List Request :=
  if snap.engine then
    let out := snap.out
    let (preOut, buzzer) := sendBuzzer preOut out
    let (preOut, ledBack) := sendLedBack preOut out
    let (preOut, ledFrontDown) := sendLedFrontDown preOut out
    let (preOut, ledFrontUp) := sendLedFrontUp preOut out
    let (preOut, alert) := sendAlert preOut out
    let (preOut, motor) := sendMotor preOut out
    (preOut, buzzer ++ ledBack ++ ledFrontDown ++ ledFrontUp ++ alert ++ motor)
  else (preOut, [])

/-- `preOut` after a sequence of cycles, from the default `ControlOutput`. -/
def preOutAfter (snaps : List CommSnapshot) : ControlOutput := Mealy.final commCycle {} snaps

/-- All requests of a sequence of cycles. -/
def commLog (snaps : List CommSnapshot) : List Request :=
  (Mealy.outputs commCycle {} snaps).flatten

theorem preOutAfter_concat (snaps : List CommSnapshot) (snap : CommSnapshot) :
    preOutAfter (snaps ++ [snap]) = (commCycle (preOutAfter snaps) snap).1 :=
  Mealy.final_concat commCycle {} snaps snap

theorem commLog_concat (snaps : List CommSnapshot) (snap : CommSnapshot) :
    commLog (snaps ++ [snap]) = commLog snaps ++ (commCycle (preOutAfter snaps) snap).2 := by
  rw [commLog, Mealy.outputs_concat, List.flatten_append, List.flatten_singleton]
  rfl

/-- A cycle with the engine off does nothing. -/
theorem commCycle_of_engine_off (preOut out : ControlOutput) :
    commCycle preOut ⟨out, false⟩ = (preOut, []) := rfl

/-! ### The channels -/

/-- The buzzer value of an output. -/
def ControlOutput.buzzerPair (out : ControlOutput) : Bool × ℤ := (out.buzzerOn, out.frequency)

/-- The motor value of an output. -/
def ControlOutput.motorPair (out : ControlOutput) : ℤ × ℤ := (out.throttle, out.steer)

/-- The value of one lamp of an output. -/
def ControlOutput.lamp (side : LedSide) (out : ControlOutput) : Bool :=
  match side with
  | .back => out.ledBackOn
  | .frontDown => out.ledFrontDownOn
  | .frontUp => out.ledFrontUpOn

/-- The value a request carries on the buzzer channel. -/
def Request.buzzer? : Request → Option (Bool × ℤ)
  | buzzer on frequency => some (on, frequency)
  | _ => none

/-- The value a request carries on the channel of one lamp. -/
def Request.led? (side : LedSide) : Request → Option Bool
  | led side' on => if side' = side then some on else none
  | _ => none

/-- The value a request carries on the alert channel. -/
def Request.alert? : Request → Option ℤ
  | alert intervalMs => some intervalMs
  | _ => none

/-- The value a request carries on the motor channel. -/
def Request.motor? : Request → Option (ℤ × ℤ)
  | motor throttle steer => some (throttle, steer)
  | _ => none

section Channels

variable (preOut out : ControlOutput)

theorem sendBuzzer_eq : sendBuzzer preOut out =
    ({ preOut with buzzerOn := out.buzzerOn, frequency := out.frequency },
      (send preOut.buzzerPair out.buzzerPair).map fun p => .buzzer preOut.buzzerOn p.2) := by
  unfold sendBuzzer send ControlOutput.buzzerPair
  by_cases h : out.buzzerOn = preOut.buzzerOn ∧ out.frequency = preOut.frequency
  · simp [h.1, h.2]
  · rw [if_pos (not_and_or.mp h), if_pos (by simpa [Prod.ext_iff] using h)]
    rfl

theorem sendLedBack_eq : sendLedBack preOut out =
    ({ preOut with ledBackOn := out.ledBackOn },
      (send preOut.ledBackOn out.ledBackOn).map (.led .back)) := by
  unfold sendLedBack send
  split_ifs with h
  · rfl
  · rw [not_not.mp h]
    rfl

theorem sendLedFrontDown_eq : sendLedFrontDown preOut out =
    ({ preOut with ledFrontDownOn := out.ledFrontDownOn },
      (send preOut.ledFrontDownOn out.ledFrontDownOn).map (.led .frontDown)) := by
  unfold sendLedFrontDown send
  split_ifs with h
  · rfl
  · rw [not_not.mp h]
    rfl

theorem sendLedFrontUp_eq : sendLedFrontUp preOut out =
    ({ preOut with ledFrontUpOn := out.ledFrontUpOn },
      (send preOut.ledFrontUpOn out.ledFrontUpOn).map (.led .frontUp)) := by
  unfold sendLedFrontUp send
  split_ifs with h
  · rfl
  · rw [not_not.mp h]
    rfl

theorem sendAlert_eq : sendAlert preOut out =
    ({ preOut with alertIntervalMs := out.alertIntervalMs },
      (send preOut.alertIntervalMs out.alertIntervalMs).map .alert) := by
  unfold sendAlert send
  split_ifs with h
  · rfl
  · rw [not_not.mp h]
    rfl

theorem sendMotor_eq : sendMotor preOut out =
    ({ preOut with throttle := out.throttle, steer := out.steer },
      (send preOut.motorPair out.motorPair).map fun p => .motor p.1 p.2) := by
  unfold sendMotor send ControlOutput.motorPair
  by_cases h : out.throttle = preOut.throttle ∧ out.steer = preOut.steer
  · simp [h.1, h.2]
  · rw [if_pos (not_and_or.mp h), if_pos (by simpa [Prod.ext_iff] using h)]
    rfl

/-- **A cycle with the engine on** caches the snapshot and is a change-only sender
on every channel but the buzzer's, whose request carries the cached on/off value. -/
theorem commCycle_of_engine : commCycle preOut ⟨out, true⟩ =
    (out, (send preOut.buzzerPair out.buzzerPair).map (fun p => .buzzer preOut.buzzerOn p.2) ++
      (send preOut.ledBackOn out.ledBackOn).map (.led .back) ++
      (send preOut.ledFrontDownOn out.ledFrontDownOn).map (.led .frontDown) ++
      (send preOut.ledFrontUpOn out.ledFrontUpOn).map (.led .frontUp) ++
      (send preOut.alertIntervalMs out.alertIntervalMs).map .alert ++
      (send preOut.motorPair out.motorPair).map (fun p => .motor p.1 p.2)) := by
  simp only [commCycle, if_true, sendBuzzer_eq, sendLedBack_eq, sendLedFrontDown_eq,
    sendLedFrontUp_eq, sendAlert_eq, sendMotor_eq, ControlOutput.motorPair]

end Channels

/-- A channel that `comm_thread` serves by change-only transmission: `proj` finds
its requests and `val` its value in an output. -/
def ChangeOnly {V : Type} [DecidableEq V] (proj : Request → Option V)
    (val : ControlOutput → V) : Prop :=
  ∀ preOut out, (commCycle preOut ⟨out, true⟩).2.filterMap proj = send (val preOut) (val out)

theorem changeOnly_led (side : LedSide) :
    ChangeOnly (Request.led? side) (ControlOutput.lamp side) := by
  intro preOut out
  rw [commCycle_of_engine]
  cases side <;>
    simp [List.filterMap_append, List.filterMap_map, Function.comp_def, Request.led?,
      ControlOutput.lamp]

theorem changeOnly_alert : ChangeOnly Request.alert? ControlOutput.alertIntervalMs := by
  intro preOut out
  rw [commCycle_of_engine]
  simp [List.filterMap_append, List.filterMap_map, Function.comp_def, Request.alert?]

theorem changeOnly_motor : ChangeOnly Request.motor? ControlOutput.motorPair := by
  intro preOut out
  rw [commCycle_of_engine]
  simp [List.filterMap_append, List.filterMap_map, Function.comp_def, Request.motor?]

/-- The requests on the buzzer channel: a change is sent with the old on/off value. -/
theorem filterMap_buzzer? (preOut out : ControlOutput) :
    (commCycle preOut ⟨out, true⟩).2.filterMap Request.buzzer? =
      (send preOut.buzzerPair out.buzzerPair).map fun p => (preOut.buzzerOn, p.2) := by
  rw [commCycle_of_engine]
  simp [List.filterMap_append, List.filterMap_map, Function.comp_def, Request.buzzer?]

/-- **On a change-only channel the ECU holds the cached value**, after any sequence of
cycles with the engine on or off. -/
theorem lastValue_commLog {V : Type} [DecidableEq V] {proj : Request → Option V}
    {val : ControlOutput → V} (h : ChangeOnly proj val) (snaps : List CommSnapshot) :
    lastValue (val {}) ((commLog snaps).filterMap proj) = val (preOutAfter snaps) := by
  induction snaps using List.reverseRecOn with
  | nil => rfl
  | append_singleton snaps snap ih =>
    obtain ⟨out, engine⟩ := snap
    rw [commLog_concat, preOutAfter_concat, List.filterMap_append]
    cases engine with
    | false => rw [commCycle_of_engine_off, List.filterMap_nil, List.append_nil, ih]
    | true =>
      rw [h, lastValue_append_send ih, commCycle_of_engine]

/-- `preOut` is the output of the last snapshot that had the engine on. -/
theorem preOutAfter_eq_lastValue (snaps : List CommSnapshot) :
    preOutAfter snaps =
      lastValue {} ((snaps.filter CommSnapshot.engine).map CommSnapshot.out) := by
  induction snaps using List.reverseRecOn with
  | nil => rfl
  | append_singleton snaps snap ih =>
    obtain ⟨out, engine⟩ := snap
    rw [preOutAfter_concat, List.filter_append, List.map_append, lastValue_append, ← ih]
    cases engine with
    | false => rfl
    | true =>
      rw [commCycle_of_engine]
      rfl

/-! ### Mirroring the control output -/

/-- **The ECU mirrors an output**: on every channel the last value requested, or the
default when there was none, is the output's. -/
structure Mirrors (log : List Request) (out : ControlOutput) : Prop where
  buzzer : lastValue (ControlOutput.buzzerPair {}) (log.filterMap Request.buzzer?) =
    out.buzzerPair
  led : ∀ side, lastValue (ControlOutput.lamp side {}) (log.filterMap (Request.led? side)) =
    out.lamp side
  alert : lastValue (ControlOutput.alertIntervalMs {}) (log.filterMap Request.alert?) =
    out.alertIntervalMs
  motor : lastValue (ControlOutput.motorPair {}) (log.filterMap Request.motor?) =
    out.motorPair

/-- The cycles with the engine on that see the outputs `outs`. -/
def engineOn (outs : List ControlOutput) : List CommSnapshot := outs.map fun out => ⟨out, true⟩

theorem engineOn_concat (outs : List ControlOutput) (out : ControlOutput) :
    engineOn (outs ++ [out]) = engineOn outs ++ [⟨out, true⟩] := by
  rw [engineOn, List.map_append]
  rfl

theorem preOutAfter_engineOn (outs : List ControlOutput) (out : ControlOutput) :
    preOutAfter (engineOn (outs ++ [out])) = out := by
  rw [engineOn_concat, preOutAfter_concat, commCycle_of_engine]

/-- While no output had the buzzer on, the buzzer channel is change-only too. -/
theorem lastValue_buzzer_of_off (outs : List ControlOutput)
    (hoff : ∀ out ∈ outs, out.buzzerOn = false) :
    (preOutAfter (engineOn outs)).buzzerOn = false ∧
      lastValue (ControlOutput.buzzerPair {}) ((commLog (engineOn outs)).filterMap
        Request.buzzer?) = (preOutAfter (engineOn outs)).buzzerPair := by
  induction outs using List.reverseRecOn with
  | nil => exact ⟨rfl, rfl⟩
  | append_singleton outs out ih =>
    obtain ⟨hpre, hlast⟩ := ih fun o ho => hoff o (List.mem_append_left _ ho)
    have hout : out.buzzerOn = false := hoff out (by simp)
    -- the old on/off value a change is sent with is the new one
    have hsame : (send (preOutAfter (engineOn outs)).buzzerPair out.buzzerPair).map
        (fun p => ((preOutAfter (engineOn outs)).buzzerOn, p.2)) =
          send (preOutAfter (engineOn outs)).buzzerPair out.buzzerPair := by
      unfold send
      split_ifs with h
      · rw [List.map_singleton, hpre, ControlOutput.buzzerPair, hout]
      · rfl
    rw [preOutAfter_engineOn, engineOn_concat, commLog_concat, List.filterMap_append,
      filterMap_buzzer?, hsame, lastValue_append_send hlast]
    exact ⟨hout, rfl⟩

/-- **When the comm thread mirrors the control output**: over a sequence of cycles
with the engine on, after every one of them, exactly when no snapshot has the
buzzer on. -/
theorem mirrors_iff (outs : List ControlOutput) :
    (∀ before out, before ++ [out] <+: outs →
      Mirrors (commLog (engineOn (before ++ [out]))) out) ↔
        ∀ out ∈ outs, out.buzzerOn = false := by
  constructor
  · intro hmirrors
    induction outs using List.reverseRecOn with
    | nil => exact fun out hout => absurd hout List.not_mem_nil
    | append_singleton outs out ih =>
      have hoff : ∀ o ∈ outs, o.buzzerOn = false :=
        ih fun before o ho => hmirrors before o (ho.trans (List.prefix_append _ _))
      obtain ⟨hpre, hlast⟩ := lastValue_buzzer_of_off outs hoff
      have hbuzzer := (hmirrors outs out List.prefix_rfl).buzzer
      have hout : out.buzzerOn = false := by
        -- a change to on is requested as off
        by_contra hon
        have hne : out.buzzerPair ≠ (preOutAfter (engineOn outs)).buzzerPair := fun heq =>
          hon ((congrArg Prod.fst heq).trans hpre)
        rw [engineOn_concat, commLog_concat, List.filterMap_append, filterMap_buzzer?,
          lastValue_append, send, if_pos hne, List.map_singleton, lastValue_singleton] at hbuzzer
        exact hon ((congrArg Prod.fst hbuzzer).symm.trans hpre)
      intro o ho
      rcases List.mem_append.mp ho with ho | ho
      · exact hoff o ho
      · rw [List.mem_singleton.mp ho]
        exact hout
  · intro hoff before out hbegin
    have hoff' : ∀ o ∈ before ++ [out], o.buzzerOn = false := fun o ho =>
      hoff o (hbegin.subset ho)
    have hpre := preOutAfter_engineOn before out
    refine ⟨?_, fun side => ?_, ?_, ?_⟩
    · rw [(lastValue_buzzer_of_off _ hoff').2, hpre]
    · rw [lastValue_commLog (changeOnly_led side), hpre]
    · rw [lastValue_commLog changeOnly_alert, hpre]
    · rw [lastValue_commLog changeOnly_motor, hpre]

/-- The output of an emergency braking cycle, as it reaches the comm thread. -/
def brakingOutput : ControlOutput where
  buzzerOn := true
  frequency := 500
  ledBackOn := true
  ledFrontDownOn := true
  alertIntervalMs := 0
  throttle := -100

theorem brakingOutput_not_mirrored : ¬∀ outs before out, before ++ [out] <+: outs →
    Mirrors (commLog (engineOn (before ++ [out]))) out := by
  intro h
  have hbuzzer := (h [brakingOutput] [] brakingOutput List.prefix_rfl).buzzer
  exact absurd hbuzzer (by decide)

end Realtime

end VehicleStack
