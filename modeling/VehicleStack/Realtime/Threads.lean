import VehicleStack.Lib.Run
import VehicleStack.Realtime.ControlLoop
import VehicleStack.Realtime.CommThread

/-!
# The realtime threads

The threads of the realtime process interleaved at their critical sections.
`ipc_thread`, `joystick_thread` and `sensor_thread` take the mutex once per
message; `control_thread` takes it twice a cycle, to snapshot its inputs and to
publish its output, and `comm_thread` once, to snapshot, and then transmits. In
between, other threads may run.

With the engine off a comm cycle sends nothing, so what the motor was last told
is what the last comm cycle that saw the engine on had in its snapshot
(`VehicleStack.Realtime.lastMotor_log`). The zero that the control loop
publishes once it has seen the engine off reaches the ECU only if that snapshot
had it already (`VehicleStack.Realtime.engineOffStops_iff`).
-/

namespace VehicleStack

namespace Realtime

open Latch List

/-- The process: the shared record, and of each thread what it carries from one
critical section to the next. -/
structure System where
  shared : SharedData := {}
  /-- The state of `control_thread`. -/
  loop : ControlLoop := {}
  /-- The output of the control cycle under way, before it is published. -/
  computed : Option ControlOutput := none
  /-- The static `preOut` of `comm_thread`. -/
  preOut : ControlOutput := {}
  /-- The snapshot of the comm cycle under way, before it is transmitted. -/
  snapshot : Option CommSnapshot := none
  /-- All requests sent to the ECU. -/
  log : List Request := []

/-- What can happen next. -/
inductive Event where
  /-- `ipc_thread` handles a message with this command. -/
  | ipc (cmd : String)
  /-- `joystick_thread` handles a button datagram. -/
  | button (btn : ℤ)
  /-- `joystick_thread` handles a stick datagram. -/
  | motion (x y : ℤ) (tsMs : ℕ)
  /-- `sensor_thread` stores a record. -/
  | sensor (data : SensorData)
  /-- `control_thread` takes its inputs at a time and computes its output. -/
  | controlSnapshot (nowMs : ℕ)
  /-- `control_thread` publishes its output. -/
  | controlPublish
  /-- `comm_thread` takes its snapshot. -/
  | commSnapshot
  /-- `comm_thread` sends its requests. -/
  | commTransmit

/-- `ipc_thread`, what a command does to the shared record. -/
def ipcCommand (shared : SharedData) (cmd : String) : SharedData :=
  if ¬shared.running then shared
  else if cmd = "LOCK" then { shared with doorLocked := true }
  else if cmd = "UNLOCK" then { shared with doorLocked := false }
  else if cmd = "START" then { shared with engineOn := true }
  else if cmd = "STOP" then { shared with engineOn := false }
  else shared

/-- One step of one thread. A thread takes its second critical section only after
the first. -/
def systemStep (fl : ℚ → ℚ) (s : System) : Event → Option System
  | .ipc cmd => some { s with shared := ipcCommand s.shared cmd }
  | .button btn => some { s with shared := { s.shared with engineOn := decide (btn = 1) } }
  | .motion x y tsMs => some { s with shared := { s.shared with joy := ⟨x, y, tsMs⟩ } }
  | .sensor data => some { s with shared := { s.shared with sensor := data } }
  | .controlSnapshot nowMs =>
    match s.computed with
    | some _ => none
    | none =>
      let (loop, out) := s.loop.computeOutput fl (ControlLoop.snapshotInputs nowMs s.shared)
      some { s with loop := loop, computed := some out }
  | .controlPublish =>
    s.computed.map fun out => { s with shared := { s.shared with out := out }, computed := none }
  | .commSnapshot =>
    match s.snapshot with
    | some _ => none
    | none => some { s with snapshot := some ⟨s.shared.out, s.shared.engineOn⟩ }
  | .commTransmit =>
    s.snapshot.map fun snap =>
      let (preOut, requests) := commCycle s.preOut snap
      { s with preOut := preOut, snapshot := none, log := s.log ++ requests }

/-- The state the process reaches by a run of events from its start. -/
def systemRun (fl : ℚ → ℚ) (es : List Event) : Option System := Run.run (systemStep fl) {} es

/-- **What a step can do to the comm thread**: take a snapshot, transmit the one it
has, or nothing. -/
theorem systemStep_comm {fl : ℚ → ℚ} {s s' : System} {e : Event}
    (h : systemStep fl s e = some s') :
    (e = .commSnapshot ∧ s.snapshot = none ∧
      s' = { s with snapshot := some ⟨s.shared.out, s.shared.engineOn⟩ }) ∨
    (e = .commTransmit ∧ ∃ snap, s.snapshot = some snap ∧
      s' = { s with
        preOut := (commCycle s.preOut snap).1
        snapshot := none
        log := s.log ++ (commCycle s.preOut snap).2 }) ∨
    (e ≠ .commSnapshot ∧ e ≠ .commTransmit ∧
      s'.snapshot = s.snapshot ∧ s'.preOut = s.preOut ∧ s'.log = s.log) := by
  cases e with
  | ipc cmd =>
    obtain rfl := Option.some_inj.mp h
    exact Or.inr (Or.inr ⟨by simp, by simp, rfl, rfl, rfl⟩)
  | button btn =>
    obtain rfl := Option.some_inj.mp h
    exact Or.inr (Or.inr ⟨by simp, by simp, rfl, rfl, rfl⟩)
  | motion x y tsMs =>
    obtain rfl := Option.some_inj.mp h
    exact Or.inr (Or.inr ⟨by simp, by simp, rfl, rfl, rfl⟩)
  | sensor data =>
    obtain rfl := Option.some_inj.mp h
    exact Or.inr (Or.inr ⟨by simp, by simp, rfl, rfl, rfl⟩)
  | controlSnapshot nowMs =>
    cases hc : s.computed with
    | some out => simp [systemStep, hc] at h
    | none =>
      simp only [systemStep, hc, Option.some_inj] at h
      obtain rfl := h
      exact Or.inr (Or.inr ⟨by simp, by simp, rfl, rfl, rfl⟩)
  | controlPublish =>
    obtain ⟨out, -, rfl⟩ := Option.map_eq_some_iff.mp h
    exact Or.inr (Or.inr ⟨by simp, by simp, rfl, rfl, rfl⟩)
  | commSnapshot =>
    cases hs : s.snapshot with
    | some snap => simp [systemStep, hs] at h
    | none =>
      simp only [systemStep, hs, Option.some_inj] at h
      exact Or.inl ⟨rfl, rfl, h.symm⟩
  | commTransmit =>
    obtain ⟨snap, hs, rfl⟩ := Option.map_eq_some_iff.mp h
    exact Or.inr (Or.inl ⟨rfl, snap, hs, rfl⟩)

/-! ### What the motor was last told -/

/-- The snapshot an event takes for `comm_thread`, if it takes one. -/
def snapshotOf (s : System) : Event → List CommSnapshot
  | .commSnapshot => [⟨s.shared.out, s.shared.engineOn⟩]
  | _ => []

/-- The snapshots `comm_thread` takes along a run. -/
def commSnapshots (fl : ℚ → ℚ) (es : List Event) : List CommSnapshot :=
  Run.observe (systemStep fl) snapshotOf {} es

/-- The last motor command among some requests, or `(0, 0)` if there was none. -/
def lastMotor (log : List Request) : ℤ × ℤ := lastValue (0, 0) (log.filterMap Request.motor?)

/-- The motor pair that the last comm cycle to see the engine on had in its
snapshot, or `(0, 0)` if there was none. -/
def lastDriven (fl : ℚ → ℚ) (es : List Event) : ℤ × ℤ :=
  (lastValue {} (((commSnapshots fl es).filter CommSnapshot.engine).map
    CommSnapshot.out)).motorPair

/-- The log and `preOut` are those of the snapshots dealt with so far, which are all
that were taken but the one under way. -/
def Transmitted (taken : List CommSnapshot) (s : System) : Prop :=
  ∃ dealt, taken = dealt ++ s.snapshot.toList ∧ s.log = commLog dealt ∧
    s.preOut = preOutAfter dealt

theorem transmitted_of_systemRun {fl : ℚ → ℚ} {es : List Event} {s : System}
    (hrun : systemRun fl es = some s) : Transmitted (commSnapshots fl es) s := by
  refine Run.run_induct (P := fun es s => Transmitted (commSnapshots fl es) s)
    ⟨[], rfl, rfl, rfl⟩ ?_ hrun
  intro es s e s' hes ⟨dealt, htaken, hlog, hpre⟩ hstep
  have hobs : commSnapshots fl (es ++ [e]) = commSnapshots fl es ++ snapshotOf s e :=
    Run.observe_concat snapshotOf hes hstep
  rw [hobs, htaken]
  rcases systemStep_comm hstep with ⟨rfl, hnone, rfl⟩ | ⟨rfl, snap, hsome, rfl⟩ |
    ⟨hsnap, htransmit, hs, hp, hl⟩
  · refine ⟨dealt, ?_, hlog, hpre⟩
    rw [hnone, Option.toList_none, append_nil]
    rfl
  · refine ⟨dealt ++ [snap], ?_, ?_, ?_⟩
    · rw [hsome, Option.toList_some, Option.toList_none]
      rfl
    · rw [commLog_concat, hlog, hpre]
    · rw [preOutAfter_concat, hpre]
  · have hshow : snapshotOf s e = [] := by
      unfold snapshotOf
      split
      · exact absurd rfl hsnap
      · rfl
    refine ⟨dealt, ?_, hl.trans hlog, hp.trans hpre⟩
    rw [hs, hshow, append_nil]

/-- **What the motor was last told**, when no snapshot with the engine on is waiting
to be transmitted: what the last comm cycle to see the engine on had. -/
theorem lastMotor_log {fl : ℚ → ℚ} {es : List Event} {s : System}
    (hrun : systemRun fl es = some s)
    (hwaiting : ∀ snap, s.snapshot = some snap → snap.engine = false) :
    lastMotor s.log = lastDriven fl es := by
  obtain ⟨dealt, htaken, hlog, -⟩ := transmitted_of_systemRun hrun
  have hrest : s.snapshot.toList.filter CommSnapshot.engine = [] := by
    cases hs : s.snapshot with
    | none => rfl
    | some snap => rw [Option.toList_some, filter_singleton, hwaiting snap hs, cond_false]
  rw [lastDriven, htaken, filter_append, hrest, append_nil, ← preOutAfter_eq_lastValue, hlog]
  exact lastValue_commLog changeOnly_motor dealt

/-! ### Switching the engine off -/

/-- **The stop has come through**: from some point of the run on the engine has been
off, and since then a control cycle has taken its inputs and published, and after
that a comm cycle has taken its snapshot and transmitted. -/
def StopCompleted (fl : ℚ → ℚ) (es : List Event) : Prop :=
  ∃ before s₀ nowMs a b c after,
    es = before ++ (.controlSnapshot nowMs :: a ++ .controlPublish :: b ++
      .commSnapshot :: c ++ .commTransmit :: after) ∧
    systemRun fl before = some s₀ ∧
    Run.Along (systemStep fl) (fun s => s.shared.engineOn = false) s₀
      (.controlSnapshot nowMs :: a ++ .controlPublish :: b ++
        .commSnapshot :: c ++ .commTransmit :: after)

/-- Once the stop has come through, no snapshot with the engine on is waiting. -/
theorem snapshot_of_stopCompleted {fl : ℚ → ℚ} {es : List Event} {s : System}
    (hrun : systemRun fl es = some s) (hstop : StopCompleted fl es) :
    ∀ snap, s.snapshot = some snap → snap.engine = false := by
  obtain ⟨before, s₀, nowMs, a, b, c, after, rfl, hbefore, halong⟩ := hstop
  obtain ⟨s₀', hs₀', htail⟩ := Run.run_append_eq_some.mp hrun
  obtain rfl : s₀ = s₀' := Option.some_inj.mp (hbefore.symm.trans hs₀')
  -- the state in which the last transmission of the stop starts
  obtain ⟨s₁, hs₁, hafter⟩ := Run.run_append_eq_some.mp htail
  have halong₁ := halong.of_append hs₁
  obtain ⟨s₂, htransmit, hrest⟩ := Run.run_cons_eq_some.mp hafter
  have halong₂ : Run.Along (systemStep fl) (fun s => s.shared.engineOn = false) s₂ after :=
    halong₁.of_append (Run.run_cons_eq_some.mpr ⟨s₂, htransmit, Run.run_nil s₂⟩)
  have hnone : s₂.snapshot = none := by
    rcases systemStep_comm htransmit with ⟨he, -⟩ | ⟨-, snap, -, rfl⟩ | ⟨-, he, -⟩
    · cases he
    · rfl
    · exact absurd rfl he
  refine halong₂.run_induct (P := fun s => ∀ snap, s.snapshot = some snap → snap.engine = false)
    hrest (fun snap h => ?_) ?_
  · rw [hnone] at h
    cases h
  · intro t e t' hoff ht hstep snap hsnap
    rcases systemStep_comm hstep with ⟨-, -, rfl⟩ | ⟨-, _, -, rfl⟩ | ⟨-, -, hs, -, -⟩
    · obtain rfl := Option.some_inj.mp hsnap
      exact hoff
    · cases hsnap
    · exact ht snap (hs ▸ hsnap)

/-- Engine-off stops the car along a run: once the stop has come through, the motor
was last told `(0, 0)`. -/
def EngineOffStops (fl : ℚ → ℚ) (es : List Event) : Prop :=
  ∀ s, systemRun fl es = some s → StopCompleted fl es → lastMotor s.log = (0, 0)

/-- **When switching the engine off stops the car**: in a run in which, once the stop
has come through, the last comm cycle to see the engine on already had throttle
and steer zero in its snapshot, and in no other. -/
theorem engineOffStops_iff (fl : ℚ → ℚ) (es : List Event) : EngineOffStops fl es ↔
    ∀ s, systemRun fl es = some s → StopCompleted fl es → lastDriven fl es = (0, 0) := by
  constructor
  · intro hstops s hrun hstop
    rw [← lastMotor_log hrun (snapshot_of_stopCompleted hrun hstop)]
    exact hstops s hrun hstop
  · intro hdriven s hrun hstop
    rw [lastMotor_log hrun (snapshot_of_stopCompleted hrun hstop)]
    exact hdriven s hrun hstop

/-- With a free road the engine is started, the stick pushed forward and the command
transmitted, and then the engine is stopped and both cycles run once more. -/
def drivingOff : List Event :=
  [.sensor { frontTofMm := 2000 }, .button 1, .motion 50 99 0, .controlSnapshot 0, .controlPublish,
    .commSnapshot, .commTransmit, .button 0, .controlSnapshot 20, .controlPublish, .commSnapshot,
    .commTransmit]

theorem drivingOff_not_stopped : ¬∀ fl es, EngineOffStops fl es := by
  intro h
  have hlast : (systemRun id drivingOff).map (fun s => lastMotor s.log) = some (98, 0) := by
    rfl
  obtain ⟨s, hrun, hmotor⟩ := Option.map_eq_some_iff.mp hlast
  have hstop : StopCompleted id drivingOff :=
    ⟨drivingOff.take 8, _, 20, [], [], [], [], rfl, rfl, rfl, rfl, rfl, rfl, rfl⟩
  have hzero := h id drivingOff s hrun hstop
  exact absurd (hmotor.symm.trans hzero) (by decide)

end Realtime

end VehicleStack
