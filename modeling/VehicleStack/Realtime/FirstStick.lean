import VehicleStack.Realtime.Envelope
import VehicleStack.Realtime.Threads

/-!
# Before the first stick position

Until a stick datagram is accepted the shared record holds the position it was
initialised with, which is `(0, 0)`: the scale's lower end and not its middle. A
control cycle that sees the engine on therefore commands full reverse, unless
something is so near in front that the emergency brake takes over
(`VehicleStack.Realtime.computeOutput_of_initial_joy`).

`VehicleStack.Realtime.noMotionBeforeStick_iff` says of a run when nothing moves
before the first stick position: when every cycle published by then saw the engine
off or something within 105 mm.
-/

namespace VehicleStack

namespace Realtime

open ControlLoop List

/-! ### A cycle on the initial position -/

section Cycle

variable {fl : ℚ → ℚ} {l : ControlLoop} {inputs : ControlInputs}

/-- The forward speed is zero then, so it is the distance alone that decides about the
brake. -/
theorem aebEvent_of_initial_joy (he : inputs.engine = true) (hmode : inputs.mode ≠ .auto)
    (hjoy : inputs.joy = {}) :
    l.aebEvent fl inputs = true ↔
      0 ≤ inputs.sensor.frontTofMm ∧ inputs.sensor.frontTofMm ≤ 105 := by
  have hthr : max (l.driven fl inputs).2.throttle 0 = 0 := by
    have hparks : ∀ l : ControlLoop, ¬l.parks inputs = true := by
      intro l
      simp [parks, hmode]
    rw [driven, drive, if_neg (hparks _), hjoy]
    rfl
  constructor
  · intro ha
    rw [aebEvent, he, Bool.true_and, hthr, resolveFrontDistanceMm] at ha
    by_cases h0 : 0 ≤ inputs.sensor.frontTofMm
    · by_cases hnear : inputs.sensor.frontTofMm ≤ 105
      · exact ⟨h0, hnear⟩
      · have hfar : ¬inputs.sensor.frontTofMm ≤
            AebController.emergencyThresholdMm + AebController.toleranceMm := hnear
        rw [if_pos h0, AebController.update, if_neg (by omega), if_neg hfar, if_pos le_rfl] at ha
        exact absurd ha Bool.false_ne_true
    · rw [if_neg h0, AebController.update, if_pos (by decide)] at ha
      exact absurd ha Bool.false_ne_true
  · exact fun h => aebEvent_of_near he h.1 h.2

/-- **The initial position is full reverse.** -/
theorem computeOutput_of_initial_joy (he : inputs.engine = true) (hmode : inputs.mode ≠ .auto)
    (hjoy : inputs.joy = {}) (ha : l.aebEvent fl inputs = false) :
    (l.computeOutput fl inputs).2.throttle = -100 := by
  rw [(computeOutput_of_stick he hmode ha).1, hjoy]
  rfl

end Cycle

/-! ### Runs up to the first stick position -/

/-- The process at its start, in a mode. The code's own is assist mode. -/
def startIn (mode : ControlMode) : System := { shared := { mode := mode } }

/-- `joystick_thread` accepts a stick position. -/
def Event.isMotion : Event → Bool
  | .motion .. => true
  | _ => false

variable {fl : ℚ → ℚ} {mode : ControlMode}

/-- One step leaves the mode alone, and the stick position too unless it is the one that
stores it. -/
theorem systemStep_joy {s s' : System} {e : Event} (h : systemStep fl s e = some s') :
    s'.shared.mode = s.shared.mode ∧ (e.isMotion = false → s'.shared.joy = s.shared.joy) := by
  cases e with
  | ipc cmd =>
    obtain rfl := Option.some_inj.mp h
    simp only [ipcCommand]
    split_ifs <;> exact ⟨rfl, fun _ => rfl⟩
  | button btn =>
    obtain rfl := Option.some_inj.mp h
    exact ⟨rfl, fun _ => rfl⟩
  | motion x y tsMs =>
    obtain rfl := Option.some_inj.mp h
    exact ⟨rfl, fun hm => by cases hm⟩
  | sensor data =>
    obtain rfl := Option.some_inj.mp h
    exact ⟨rfl, fun _ => rfl⟩
  | controlSnapshot nowMs =>
    cases hc : s.computed with
    | some out => simp [systemStep, hc] at h
    | none =>
      simp only [systemStep, hc, Option.some_inj] at h
      obtain rfl := h
      exact ⟨rfl, fun _ => rfl⟩
  | controlPublish =>
    obtain ⟨out, -, rfl⟩ := Option.map_eq_some_iff.mp h
    exact ⟨rfl, fun _ => rfl⟩
  | commSnapshot =>
    cases hs : s.snapshot with
    | some snap => simp [systemStep, hs] at h
    | none =>
      simp only [systemStep, hs, Option.some_inj] at h
      obtain rfl := h
      exact ⟨rfl, fun _ => rfl⟩
  | commTransmit =>
    obtain ⟨snap, -, rfl⟩ := Option.map_eq_some_iff.mp h
    exact ⟨rfl, fun _ => rfl⟩

/-- **Without a stick datagram the initial position stands.** -/
theorem joy_of_run {es : List Event} {s : System}
    (hrun : Run.run (systemStep fl) (startIn mode) es = some s) :
    s.shared.mode = mode ∧ ((∀ e ∈ es, e.isMotion = false) → s.shared.joy = {}) := by
  refine Run.run_induct (P := fun es s => s.shared.mode = mode ∧
    ((∀ e ∈ es, e.isMotion = false) → s.shared.joy = {})) ⟨rfl, fun _ => rfl⟩ ?_ hrun
  intro es s e s' _ ⟨hmode, hjoy⟩ hstep
  obtain ⟨hm, hj⟩ := systemStep_joy hstep
  refine ⟨hm.trans hmode, fun hes => ?_⟩
  rw [hj (hes e mem_concat_self)]
  exact hjoy fun e' he' => hes e' (mem_append_left _ he')

/-- What a control cycle has computed stays until it is published. -/
theorem systemStep_computed {s s' : System} {e : Event} {out : ControlOutput}
    (h : systemStep fl s e = some s') (hc : s.computed = some out) (he : e ≠ .controlPublish) :
    s'.computed = some out := by
  cases e with
  | ipc cmd =>
    obtain rfl := Option.some_inj.mp h
    exact hc
  | button btn =>
    obtain rfl := Option.some_inj.mp h
    exact hc
  | motion x y tsMs =>
    obtain rfl := Option.some_inj.mp h
    exact hc
  | sensor data =>
    obtain rfl := Option.some_inj.mp h
    exact hc
  | controlSnapshot nowMs => simp [systemStep, hc] at h
  | controlPublish => exact absurd rfl he
  | commSnapshot =>
    cases hs : s.snapshot with
    | some snap => simp [systemStep, hs] at h
    | none =>
      simp only [systemStep, hs, Option.some_inj] at h
      obtain rfl := h
      exact hc
  | commTransmit =>
    obtain ⟨snap, -, rfl⟩ := Option.map_eq_some_iff.mp h
    exact hc

/-- A control cycle of a run, from the state `t` in which it takes its inputs to the state `s`
in which its output has been published. -/
structure PublishedCycle (fl : ℚ → ℚ) (mode : ControlMode) (before between : List Event)
    (nowMs : ℕ) (t s : System) : Prop where
  started : Run.run (systemStep fl) (startIn mode) before = some t
  published : Run.run (systemStep fl) t
    (.controlSnapshot nowMs :: between ++ [.controlPublish]) = some s
  whole : .controlPublish ∉ between

/-- **What a cycle publishes** is what it computed from the inputs it took. -/
theorem PublishedCycle.out_eq {before between : List Event} {nowMs : ℕ} {t s : System}
    (h : PublishedCycle fl mode before between nowMs t s) :
    s.shared.out = (t.loop.computeOutput fl (snapshotInputs nowMs t.shared)).2 := by
  obtain ⟨s₁, hcycle, hpublish⟩ := Run.run_append_eq_some.mp h.published
  obtain ⟨s₀, hsnapshot, hbetween⟩ := Run.run_cons_eq_some.mp hcycle
  have hcomputed : s₀.computed =
      some (t.loop.computeOutput fl (snapshotInputs nowMs t.shared)).2 := by
    cases hc : t.computed with
    | some out => simp [systemStep, hc] at hsnapshot
    | none =>
      simp only [systemStep, hc, Option.some_inj] at hsnapshot
      rw [← hsnapshot]
  have hkept : s₁.computed =
      some (t.loop.computeOutput fl (snapshotInputs nowMs t.shared)).2 := by
    refine Run.run_induct (P := fun es s => .controlPublish ∉ es →
      s.computed = some (t.loop.computeOutput fl (snapshotInputs nowMs t.shared)).2)
      (fun _ => hcomputed) ?_ hbetween h.whole
    intro es u e u' _ hu hstep hes
    rw [mem_append, not_or, mem_singleton] at hes
    exact systemStep_computed hstep (hu hes.1) (Ne.symm hes.2)
  obtain ⟨s₂, hlast, hnil⟩ := Run.run_cons_eq_some.mp hpublish
  rw [Run.run_nil, Option.some_inj] at hnil
  subst hnil
  simp only [systemStep, hkept, Option.map_some, Option.some_inj] at hlast
  rw [← hlast]

/-- Nothing moves before the first stick position along a run: whatever a control cycle
publishes by then and is no AEB event has throttle and steer zero. -/
def NoMotionBeforeStick (fl : ℚ → ℚ) (mode : ControlMode) (es : List Event) : Prop :=
  ∀ before between nowMs later t s,
    es = before ++ (.controlSnapshot nowMs :: between ++ .controlPublish :: later) →
    (∀ e ∈ before ++ between, e.isMotion = false) →
    PublishedCycle fl mode before between nowMs t s →
    t.loop.aebEvent fl (snapshotInputs nowMs t.shared) = false →
    s.shared.out.throttle = 0 ∧ s.shared.out.steer = 0

/-- **When nothing moves before the first stick position**: in the runs in which every cycle
published by then took its inputs with the engine off or with something within 105 mm in
front, and in no other. -/
theorem noMotionBeforeStick_iff (fl : ℚ → ℚ) {mode : ControlMode} (hmode : mode ≠ .auto)
    (es : List Event) : NoMotionBeforeStick fl mode es ↔
      ∀ before between nowMs later t s,
        es = before ++ (.controlSnapshot nowMs :: between ++ .controlPublish :: later) →
        (∀ e ∈ before ++ between, e.isMotion = false) →
        PublishedCycle fl mode before between nowMs t s →
        t.shared.engineOn = false ∨
          (0 ≤ t.shared.sensor.frontTofMm ∧ t.shared.sensor.frontTofMm ≤ 105) := by
  -- the cycle sees the mode of the start and the initial position
  have hinputs : ∀ before between nowMs t s, (∀ e ∈ before ++ between, e.isMotion = false) →
      PublishedCycle fl mode before between nowMs t s →
      (snapshotInputs nowMs t.shared).mode ≠ .auto ∧
        (snapshotInputs nowMs t.shared).joy = {} := by
    intro before between nowMs t s hes hcycle
    obtain ⟨hm, hj⟩ := joy_of_run hcycle.started
    exact ⟨fun h => hmode (hm.symm.trans h), hj fun e he => hes e (mem_append_left _ he)⟩
  constructor
  · intro hstill before between nowMs later t s hsplit hes hcycle
    obtain ⟨hm, hj⟩ := hinputs before between nowMs t s hes hcycle
    by_contra hcon
    rw [not_or, Bool.not_eq_false] at hcon
    have ha : t.loop.aebEvent fl (snapshotInputs nowMs t.shared) = false := by
      rw [Bool.eq_false_iff]
      exact fun h => hcon.2 ((aebEvent_of_initial_joy hcon.1 hm hj).mp h)
    have hzero := (hstill before between nowMs later t s hsplit hes hcycle ha).1
    rw [hcycle.out_eq, computeOutput_of_initial_joy hcon.1 hm hj ha] at hzero
    exact absurd hzero (by decide)
  · intro hoff before between nowMs later t s hsplit hes hcycle ha
    obtain ⟨hm, hj⟩ := hinputs before between nowMs t s hes hcycle
    rw [hcycle.out_eq]
    rcases hoff before between nowMs later t s hsplit hes hcycle with hengine | hnear
    · have he : (snapshotInputs nowMs t.shared).engine = false := hengine
      obtain ⟨buzzer, alert, freq, hout⟩ := computeOutput_of_engine_off fl t.loop he
      rw [hout]
      exact ⟨rfl, rfl⟩
    · by_cases he : (snapshotInputs nowMs t.shared).engine = true
      · have hevent := (@aebEvent_of_initial_joy fl t.loop _ he hm hj).mpr hnear
        exact absurd (ha.symm.trans hevent) Bool.false_ne_true
      · obtain ⟨buzzer, alert, freq, hout⟩ :=
          computeOutput_of_engine_off fl t.loop (Bool.eq_false_iff.mpr he)
        rw [hout]
        exact ⟨rfl, rfl⟩

/-- With a free road the engine is started remotely, and a control cycle runs. -/
def remoteStart : List Event :=
  [.sensor { frontTofMm := 2000 }, .ipc "START", .controlSnapshot 0, .controlPublish]

/-- The cycle of `remoteStart`. -/
theorem remoteStart_cycle : ∃ t s,
    PublishedCycle id .assist (remoteStart.take 2) [] 0 t s ∧ t.shared.engineOn = true ∧
      t.shared.sensor.frontTofMm = 2000 ∧
      t.loop.aebEvent id (snapshotInputs 0 t.shared) = false ∧ s.shared.out.throttle = -100 :=
  ⟨_, _, ⟨rfl, rfl, not_mem_nil⟩, rfl, rfl, rfl, rfl⟩

theorem noMotionBeforeStick_iff_remoteStart : ¬NoMotionBeforeStick id .assist remoteStart := by
  intro h
  obtain ⟨t, s, hcycle, hengine, hfront, -, -⟩ := remoteStart_cycle
  have hcond := (noMotionBeforeStick_iff id (by decide) remoteStart).mp h (remoteStart.take 2) [] 0
    [] t s rfl (by decide) hcycle
  rw [hengine, hfront] at hcond
  exact absurd hcond (by decide)

theorem remoteStart_moves : ¬∀ fl mode es, mode ≠ .auto → NoMotionBeforeStick fl mode es := by
  intro h
  obtain ⟨t, s, hcycle, -, -, ha, hthr⟩ := remoteStart_cycle
  have hzero := (h id .assist remoteStart (by decide) (remoteStart.take 2) [] 0 [] t s rfl
    (by decide) hcycle ha).1
  exact absurd (hthr.symm.trans hzero) (by decide)

end Realtime

end VehicleStack
