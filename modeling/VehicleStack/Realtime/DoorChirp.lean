import VehicleStack.Realtime.Envelope

/-!
# The door chirp

When the doors are locked or unlocked the control loop sounds a low tone and then a high one, on
the buzzer it shares with the emergency brake. The timer is looked at twice a cycle, and on
both ways out of `computeOutput`.

What the timer is for is `VehicleStack.Realtime.DoorMonitor`, in which a tone carries the time it
ends at; the loop's variables show its state (`VehicleStack.Realtime.ControlLoop.shows_run`). The
main result is `VehicleStack.Realtime.ControlLoop.doorChirp_timeline`: after a change of the doors
the tones follow each other by the clock, however far apart the cycles are, and on every cycle
with a tone the buzzer is on. Times are milliseconds of a clock that starts with the machine, so
that adding the length of a tone does not overflow.
-/

namespace VehicleStack

namespace Realtime

/-! ### The monitor -/

/-- The chirp: silent, or a tone and when it ends. -/
inductive Chirp where
  | silent
  | low (untilMs : ℕ)
  | high (untilMs : ℕ)

/-- A tone that has run its time is followed by the next one. -/
def Chirp.advance (nowMs : ℕ) : Chirp → Chirp
  | silent => silent
  | low untilMs => if nowMs < untilMs then low untilMs else high (nowMs + doorChirpDurationMs)
  | high untilMs => if nowMs < untilMs then high untilMs else silent

/-- The doors as they were last seen, and the chirp. -/
structure DoorMonitor where
  last : Option Bool := none
  chirp : Chirp := .silent

/-- One cycle: a change of the doors begins a chirp, also during another one. -/
def DoorMonitor.tick (m : DoorMonitor) (locked : Bool) (nowMs : ℕ) : DoorMonitor where
  last := some locked
  chirp :=
    if m.last = none ∨ m.last = some locked then m.chirp.advance nowMs
    else .low (nowMs + doorChirpDurationMs)

namespace Chirp

variable {untilMs nowMs : ℕ}

theorem advance_low_of_lt (h : nowMs < untilMs) : (low untilMs).advance nowMs = low untilMs :=
  if_pos h

theorem advance_low_of_le (h : untilMs ≤ nowMs) :
    (low untilMs).advance nowMs = high (nowMs + doorChirpDurationMs) :=
  if_neg (Nat.not_lt_of_le h)

theorem advance_high_of_lt (h : nowMs < untilMs) : (high untilMs).advance nowMs = high untilMs :=
  if_pos h

theorem advance_high_of_le (h : untilMs ≤ nowMs) : (high untilMs).advance nowMs = silent :=
  if_neg (Nat.not_lt_of_le h)

end Chirp

/-! ### The loop shows the monitor -/

namespace ControlLoop

/-- The state of the buzzer that a chirp is. -/
def buzzerState : Chirp → DoorBuzzerState
  | .silent => .idle
  | .low _ => .lowTone
  | .high _ => .highTone

/-- The time a chirp's tone ends at. -/
def buzzerUntil : Chirp → ℕ
  | .silent => 0
  | .low untilMs | .high untilMs => untilMs

/-- **The loop's variables show the monitor**: in particular a high tone is pending
exactly during a low one. -/
structure Shows (l : ControlLoop) (m : DoorMonitor) : Prop where
  last : m.last = if l.doorStateInitialized then some l.lastDoorLocked else none
  state : l.doorBuzzerState = buzzerState m.chirp
  untilMs : l.doorBuzzerStateUntilMs = buzzerUntil m.chirp
  pendingHigh : l.doorBuzzerPendingHigh = true ↔ l.doorBuzzerState = .lowTone

/-- The door variables of two loops are the same. -/
structure SameDoor (l l' : ControlLoop) : Prop where
  initialized : l'.doorStateInitialized = l.doorStateInitialized
  lastDoorLocked : l'.lastDoorLocked = l.lastDoorLocked
  state : l'.doorBuzzerState = l.doorBuzzerState
  untilMs : l'.doorBuzzerStateUntilMs = l.doorBuzzerStateUntilMs
  pendingHigh : l'.doorBuzzerPendingHigh = l.doorBuzzerPendingHigh

theorem SameDoor.shows {l l' : ControlLoop} {m : DoorMonitor} (h : SameDoor l l')
    (hl : l.Shows m) : l'.Shows m where
  last := by rw [hl.last, h.initialized, h.lastDoorLocked]
  state := h.state.trans hl.state
  untilMs := h.untilMs.trans hl.untilMs
  pendingHigh := by rw [h.pendingHigh, h.state, hl.pendingHigh]

/-- The timer moves unless the buzzer is idle. -/
theorem fst_applyDoorLockFeedback (l : ControlLoop) (inputs : ControlInputs)
    (out : ControlOutput) : (l.applyDoorLockFeedback inputs out).1 =
      if l.doorBuzzerState = .idle then l else l.advanceDoorBuzzer inputs.nowMs := by
  rw [applyDoorLockFeedback]
  split
  · rfl
  · dsimp only
    split
    · rfl
    · split <;> rfl

/-- Advancing the timer is advancing the chirp. -/
theorem Shows.advance {l : ControlLoop} {m : DoorMonitor} (h : l.Shows m) (inputs : ControlInputs)
    (out : ControlOutput) :
    (l.applyDoorLockFeedback inputs out).1.Shows
      { m with chirp := m.chirp.advance inputs.nowMs } := by
  obtain ⟨last, chirp⟩ := m
  obtain ⟨hlast, hstate, huntil, hpending⟩ := h
  rw [fst_applyDoorLockFeedback]
  rcases chirp with - | untilMs | untilMs
  · -- the timer does not run
    have hidle : l.doorBuzzerState = .idle := hstate
    rw [if_pos hidle]
    exact ⟨hlast, hstate, huntil, hpending⟩
  · -- after the low tone the high one is pending
    have hlow : l.doorBuzzerState = .lowTone := hstate
    have htime : l.doorBuzzerStateUntilMs = untilMs := huntil
    rw [hlow, if_neg nofun, advanceDoorBuzzer, htime, hlow, hpending.mpr hlow]
    rcases Nat.lt_or_ge inputs.nowMs untilMs with hlt | hle
    · rw [if_pos hlt, Chirp.advance_low_of_lt hlt]
      exact ⟨hlast, hstate, huntil, hpending⟩
    · rw [if_neg (Nat.not_lt_of_le hle), if_pos ⟨rfl, rfl⟩, Chirp.advance_low_of_le hle]
      exact ⟨hlast, rfl, rfl, iff_of_false nofun nofun⟩
  · -- after the high tone none is
    have hhigh : l.doorBuzzerState = .highTone := hstate
    have htime : l.doorBuzzerStateUntilMs = untilMs := huntil
    rw [hhigh, if_neg nofun, advanceDoorBuzzer, htime, hhigh]
    rcases Nat.lt_or_ge inputs.nowMs untilMs with hlt | hle
    · rw [if_pos hlt, Chirp.advance_high_of_lt hlt]
      exact ⟨hlast, hstate, huntil, hpending⟩
    · rw [if_neg (Nat.not_lt_of_le hle), if_neg (fun h => nomatch h.1),
        Chirp.advance_high_of_le hle]
      exact ⟨hlast, rfl, rfl, iff_of_false nofun nofun⟩

/-- Looking at the doors begins a chirp if they have changed. -/
theorem Shows.transition {l : ControlLoop} {m : DoorMonitor} (h : l.Shows m)
    (inputs : ControlInputs) : (l.handleDoorLockTransition inputs).Shows
      { last := some inputs.doorLocked
        chirp :=
          if m.last = none ∨ m.last = some inputs.doorLocked then m.chirp
          else .low (inputs.nowMs + doorChirpDurationMs) } := by
  obtain ⟨hlast, hstate, huntil, hpending⟩ := h
  rw [handleDoorLockTransition]
  by_cases hinit : l.doorStateInitialized = true
  · rw [if_pos hinit] at hlast
    rw [if_neg (not_not.mpr hinit), hlast]
    by_cases hsame : inputs.doorLocked = l.lastDoorLocked
    · rw [if_neg (not_not.mpr hsame), if_pos (Or.inr (congrArg some hsame.symm)), hsame]
      exact ⟨(if_pos hinit).symm, hstate, huntil, hpending⟩
    · rw [if_pos hsame, if_neg (by simp [Ne.symm hsame])]
      exact ⟨(if_pos hinit).symm, rfl, rfl, iff_of_true rfl rfl⟩
  · -- the first cycle only remembers the doors
    rw [if_neg hinit] at hlast
    rw [if_pos hinit, if_pos (Or.inl hlast)]
    exact ⟨rfl, hstate, huntil, hpending⟩

/-- A cycle of the monitor is a look at the doors, and then at the clock. -/
theorem tick_eq (m : DoorMonitor) (locked : Bool) (nowMs : ℕ) : m.tick locked nowMs =
    { last := some locked
      chirp := Chirp.advance nowMs <|
        if m.last = none ∨ m.last = some locked then m.chirp
        else .low (nowMs + doorChirpDurationMs) } := by
  rw [DoorMonitor.tick]
  split
  · rfl
  · rw [Chirp.advance_low_of_lt (Nat.lt_add_of_pos_right (by decide))]

/-- What lies between the two looks at the timer leaves the doors alone. -/
theorem sameDoor_driven (fl : ℚ → ℚ) (l : ControlLoop) (inputs : ControlInputs) :
    SameDoor (l.handleDoorLockTransition inputs) (l.driven fl inputs).1 := by
  rw [driven]
  generalize l.handleDoorLockTransition inputs = l
  have hstate : SameDoor l (updateAutoParkingState l inputs.engine inputs.mode) := by
    rw [updateAutoParkingState]
    dsimp only
    split_ifs <;> exact ⟨rfl, rfl, rfl, rfl, rfl⟩
  have hdrive : ∀ l' : ControlLoop, SameDoor l l' →
      SameDoor l (drive fl l' inputs (initializeOutput {})).1 := by
    intro l' h
    rw [drive]
    split
    · exact ⟨h.1, h.2, h.3, h.4, h.5⟩
    · exact h
  exact hdrive _ hstate

theorem sameDoor_emergencyBrake (l : ControlLoop) (inputs : ControlInputs) (out : ControlOutput) :
    SameDoor l (l.emergencyBrake inputs out).1 := by
  rw [emergencyBrake]
  dsimp only
  split <;> exact ⟨rfl, rfl, rfl, rfl, rfl⟩

/-- **A cycle of the loop is one of the monitor**, with the engine on or off. -/
theorem Shows.computeOutput {l : ControlLoop} {m : DoorMonitor} (h : l.Shows m) (fl : ℚ → ℚ)
    (inputs : ControlInputs) :
    (l.computeOutput fl inputs).1.Shows (m.tick inputs.doorLocked inputs.nowMs) := by
  have hlooked := h.transition inputs
  rw [tick_eq]
  by_cases hengine : inputs.engine = true
  · have hbrakes := (sameDoor_emergencyBrake (l.driven fl inputs).1 inputs
      (lamps inputs (l.driven fl inputs).2)).shows ((sameDoor_driven fl l inputs).shows hlooked)
    refine SameDoor.shows ?_ (hbrakes.advance inputs
      ((l.driven fl inputs).1.emergencyBrake inputs (lamps inputs (l.driven fl inputs).2)).2)
    rw [ControlLoop.computeOutput, if_neg (not_not.mpr hengine)]
    exact ⟨rfl, rfl, rfl, rfl, rfl⟩
  · refine SameDoor.shows ?_ (hlooked.advance inputs (initializeOutput {}))
    rw [ControlLoop.computeOutput, if_pos hengine]
    exact ⟨rfl, rfl, rfl, rfl, rfl⟩

/-- The monitor after some cycles. -/
def monitored (history : List ControlInputs) : DoorMonitor :=
  history.foldl (fun m inputs => m.tick inputs.doorLocked inputs.nowMs) {}

/-- **In every run the loop shows the monitor.** -/
theorem shows_run (fl : ℚ → ℚ) (history : List ControlInputs) :
    (after fl history).Shows (monitored history) := by
  refine Mealy.final_induct (P := fun history (l : ControlLoop) => l.Shows (monitored history))
    ⟨rfl, rfl, rfl, by decide⟩ (fun history l inputs h => ?_) history
  rw [monitored, List.foldl_append]
  exact h.computeOutput fl inputs

/-! ### The timeline -/

/-- **The tones after a change of the doors** at the cycle `i`, if they stay as they are: the low
one up to `180` ms after the change, the high one from the first cycle `u` that comes no earlier
than that, up to `180` ms after `u`, and silence from then on. -/
structure Chirps (fl : ℚ → ℚ) (before : List ControlInputs) (i : ControlInputs)
    (later : List ControlInputs) : Prop where
  low : ∀ pre j post, i :: later = pre ++ j :: post → j.nowMs < i.nowMs + 180 →
    (after fl (before ++ (pre ++ [j]))).doorBuzzerState = .lowTone
  high : ∀ first u second, later = first ++ u :: second →
    (∀ j ∈ first, j.nowMs < i.nowMs + 180) → i.nowMs + 180 ≤ u.nowMs →
    ∀ pre j post, u :: second = pre ++ j :: post →
      (after fl (before ++ (i :: first ++ (pre ++ [j])))).doorBuzzerState =
        if j.nowMs < u.nowMs + 180 then .highTone else .idle

/-- **The door chirp**, in every run of the loop. -/
structure DoorChirp (fl : ℚ → ℚ) : Prop where
  /-- A change of the doors is followed by both tones. -/
  timeline : ∀ before i later,
    (∃ previous, before.getLast? = some previous ∧ i.doorLocked ≠ previous.doorLocked) →
    (∀ j ∈ later, j.doorLocked = i.doorLocked) →
    (before ++ i :: later).Pairwise (fun j k => j.nowMs ≤ k.nowMs) → Chirps fl before i later
  /-- On a cycle with a tone the buzzer is on, at its frequency unless the car brakes. -/
  buzzer : ∀ history i, (after fl (history ++ [i])).doorBuzzerState ≠ .idle →
    ((after fl history).computeOutput fl i).2.buzzerOn = true ∧
      ((after fl history).computeOutput fl i).2.frequency =
        if (after fl history).aebEvent fl i then 500
        else if (after fl (history ++ [i])).doorBuzzerState = .lowTone then 350 else 900
  /-- A high tone is pending exactly during a low one. -/
  pendingHigh : ∀ history, (after fl history).doorBuzzerPendingHigh = true ↔
    (after fl history).doorBuzzerState = .lowTone

/-- The chirp after some more cycles in which the doors stay as they are. -/
def advanced (c : Chirp) (cycles : List ControlInputs) : Chirp :=
  cycles.foldl (fun c j => c.advance j.nowMs) c

theorem advanced_low {untilMs : ℕ} {cycles : List ControlInputs}
    (h : ∀ j ∈ cycles, j.nowMs < untilMs) : advanced (.low untilMs) cycles = .low untilMs := by
  induction cycles with
  | nil => rfl
  | cons j cycles ih =>
    rw [advanced, List.foldl_cons, Chirp.advance_low_of_lt (h j List.mem_cons_self)]
    exact ih fun k hk => h k (List.mem_cons_of_mem j hk)

theorem advanced_high {untilMs : ℕ} {cycles : List ControlInputs}
    (h : ∀ j ∈ cycles, j.nowMs < untilMs) : advanced (.high untilMs) cycles = .high untilMs := by
  induction cycles with
  | nil => rfl
  | cons j cycles ih =>
    rw [advanced, List.foldl_cons, Chirp.advance_high_of_lt (h j List.mem_cons_self)]
    exact ih fun k hk => h k (List.mem_cons_of_mem j hk)

/-- A high tone goes on or is over. -/
theorem advanced_high_or (untilMs : ℕ) (cycles : List ControlInputs) :
    advanced (.high untilMs) cycles = .high untilMs ∨
      advanced (.high untilMs) cycles = .silent := by
  induction cycles using List.reverseRecOn with
  | nil => exact Or.inl rfl
  | append_singleton cycles j ih =>
    rw [advanced, List.foldl_append]
    change (advanced (.high untilMs) cycles).advance j.nowMs = _ ∨
      (advanced (.high untilMs) cycles).advance j.nowMs = _
    rcases ih with hhigh | hsilent
    · rw [hhigh, Chirp.advance]
      split
      · exact Or.inl rfl
      · exact Or.inr rfl
    · rw [hsilent]
      exact Or.inr rfl

/-- The monitor has last seen the doors of the last cycle. -/
theorem last_monitored {history : List ControlInputs} {previous : ControlInputs}
    (h : history.getLast? = some previous) :
    (monitored history).last = some previous.doorLocked := by
  obtain ⟨init, rfl⟩ := List.getLast?_eq_some_iff.mp h
  rw [monitored, List.foldl_append]
  rfl

/-- While the doors stay as they are the chirp runs on. -/
theorem foldl_tick {m : DoorMonitor} {locked : Bool} (hlast : m.last = some locked)
    {cycles : List ControlInputs} (hstill : ∀ j ∈ cycles, j.doorLocked = locked) :
    cycles.foldl (fun m inputs => m.tick inputs.doorLocked inputs.nowMs) m =
      { last := some locked, chirp := advanced m.chirp cycles } := by
  induction cycles generalizing m with
  | nil =>
    rw [← hlast]
    rfl
  | cons j cycles ih =>
    have htick : m.tick j.doorLocked j.nowMs =
        { last := some locked, chirp := m.chirp.advance j.nowMs } := by
      rw [DoorMonitor.tick, hstill j List.mem_cons_self, if_pos (Or.inr hlast)]
    rw [List.foldl_cons, htick, ih rfl fun k hk => hstill k (List.mem_cons_of_mem j hk)]
    rfl

/-- The chirp of a run in which the doors change at a cycle and stay as they are then. -/
theorem monitored_change {before cycles : List ControlInputs} {i previous : ControlInputs}
    (hprevious : before.getLast? = some previous) (hchange : i.doorLocked ≠ previous.doorLocked)
    (hstill : ∀ j ∈ cycles, j.doorLocked = i.doorLocked) :
    (monitored (before ++ i :: cycles)).chirp = advanced (.low (i.nowMs + 180)) cycles := by
  have hlast := last_monitored hprevious
  have htick : (monitored before).tick i.doorLocked i.nowMs =
      { last := some i.doorLocked, chirp := .low (i.nowMs + 180) } := by
    rw [DoorMonitor.tick, hlast, if_neg (by simp [Ne.symm hchange])]
    rfl
  rw [monitored, List.foldl_append, List.foldl_cons]
  change (cycles.foldl _ ((monitored before).tick i.doorLocked i.nowMs)).chirp = _
  rw [htick, foldl_tick rfl hstill]

/-- In a run the times only grow, so what comes before an early cycle is early. -/
theorem lt_of_pairwise {cycles init : List ControlInputs} {j : ControlInputs} {bound : ℕ}
    (h : (init ++ [j]).Pairwise fun j k => j.nowMs ≤ k.nowMs) (hj : j.nowMs < bound)
    (hcycles : cycles ⊆ init ++ [j]) : ∀ k ∈ cycles, k.nowMs < bound := by
  intro k hk
  rcases List.mem_append.mp (hcycles hk) with hinit | hlast
  · exact Nat.lt_of_le_of_lt
      ((List.pairwise_append.mp h).2.2 k hinit j (List.mem_singleton_self j)) hj
  · rwa [List.mem_singleton.mp hlast]

/-- A part of a list that begins as the list does begins with its head. -/
theorem exists_cons_of_split {α : Type*} {a b : α} {l pre post : List α}
    (h : a :: l = pre ++ b :: post) : ∃ rest, pre ++ [b] = a :: rest ∧ l = rest ++ post := by
  rcases pre with - | ⟨c, pre⟩
  · obtain ⟨rfl, rfl⟩ := List.cons.inj h
    exact ⟨[], rfl, rfl⟩
  · obtain ⟨rfl, rfl⟩ := List.cons.inj h
    exact ⟨pre ++ [b], rfl, by rw [List.append_assoc]; rfl⟩

/-- The high tone as far as the cycle `j`, which is `u` itself or comes after it. -/
theorem advanced_high_last {u j : ControlInputs} {pre rest : List ControlInputs}
    (hrest : pre ++ [j] = u :: rest)
    (htime : (pre ++ [j]).Pairwise fun j k => j.nowMs ≤ k.nowMs) :
    buzzerState (advanced (.high (u.nowMs + 180)) rest) =
      if j.nowMs < u.nowMs + 180 then .highTone else .idle := by
  split
  · rename_i hj
    rw [advanced_high (lt_of_pairwise htime hj (by rw [hrest]; exact List.subset_cons_self ..))]
    rfl
  · rename_i hj
    rcases rest.eq_nil_or_concat' with rfl | ⟨rest, k, rfl⟩
    · -- the tone does not end on the cycle it begins on
      have hsingle : pre ++ [j] = [] ++ [u] := hrest
      obtain rfl : j = u := List.singleton_inj.mp (List.append_inj_right' hsingle rfl)
      exact absurd (Nat.lt_add_of_pos_right (by decide)) hj
    · obtain rfl : j = k := by
        rw [← List.cons_append] at hrest
        exact List.singleton_inj.mp (List.append_inj_right' hrest rfl)
      have hend : advanced (.high (u.nowMs + 180)) (rest ++ [j]) =
          (advanced (.high (u.nowMs + 180)) rest).advance j.nowMs := List.foldl_append
      rw [hend]
      rcases advanced_high_or (u.nowMs + 180) rest with hhigh | hsilent
      · rw [hhigh, Chirp.advance_high_of_le (Nat.le_of_not_lt hj)]
        rfl
      · rw [hsilent]
        rfl

theorem chirps (fl : ℚ → ℚ) {before later : List ControlInputs} {i previous : ControlInputs}
    (hprevious : before.getLast? = some previous) (hchange : i.doorLocked ≠ previous.doorLocked)
    (hstill : ∀ j ∈ later, j.doorLocked = i.doorLocked)
    (htime : (i :: later).Pairwise fun j k => j.nowMs ≤ k.nowMs) : Chirps fl before i later := by
  -- the chirp of a run that goes on for some cycles after the change
  have hchirp : ∀ cycles, cycles ⊆ later →
      (after fl (before ++ i :: cycles)).doorBuzzerState =
        buzzerState (advanced (.low (i.nowMs + 180)) cycles) := fun cycles hcycles => by
    rw [(shows_run fl _).state,
      monitored_change hprevious hchange fun j hj => hstill j (hcycles hj)]
  constructor
  case low =>
    intro pre j post hsplit hj
    have hpart : pre ++ [j] <+: i :: later := ⟨post, by rw [hsplit, List.append_assoc]; rfl⟩
    obtain ⟨rest, hrest, hlater⟩ := exists_cons_of_split hsplit
    have hearly : ∀ k ∈ rest, k.nowMs < i.nowMs + 180 :=
      lt_of_pairwise (htime.sublist hpart.sublist) hj
        (by rw [hrest]; exact List.subset_cons_self ..)
    rw [hrest, hchirp rest (hlater ▸ List.subset_append_left ..), advanced_low hearly]
    rfl
  case high =>
    rintro first u second rfl hfirst hu pre j post hsplit
    obtain ⟨rest, hrest, rfl⟩ := exists_cons_of_split hsplit
    have hcut : (u :: rest).Sublist (u :: (rest ++ post)) :=
      (List.sublist_append_left rest post).cons_cons u
    have htones : advanced (.low (i.nowMs + 180)) (first ++ u :: rest) =
        advanced (.high (u.nowMs + 180)) rest := by
      rw [advanced, List.foldl_append, List.foldl_cons]
      change advanced ((advanced (.low (i.nowMs + 180)) first).advance u.nowMs) rest = _
      rw [advanced_low hfirst, Chirp.advance_low_of_le hu]
      rfl
    have hlate : (pre ++ [j]).Pairwise fun j k => j.nowMs ≤ k.nowMs := by
      rw [hrest]
      exact htime.sublist ((hcut.trans (List.sublist_append_right ..)).cons i)
    rw [hrest, List.cons_append, hchirp _ (hcut.append_left first).subset, htones,
      advanced_high_last hrest hlate]

/-! ### The buzzer -/

/-- Where the chirp leaves the buzzer: on, with the tone's frequency unless it was on before. -/
theorem buzzer_applyDoorLockFeedback {l : ControlLoop} {inputs : ControlInputs}
    {out : ControlOutput}
    (h : (l.applyDoorLockFeedback inputs out).1.doorBuzzerState ≠ .idle) :
    (l.applyDoorLockFeedback inputs out).2.buzzerOn = true ∧
      (l.applyDoorLockFeedback inputs out).2.frequency =
        if out.buzzerOn then out.frequency
        else if (l.applyDoorLockFeedback inputs out).1.doorBuzzerState = .lowTone then 350
        else 900 := by
  have hidle : l.doorBuzzerState ≠ .idle := by
    intro hidle
    rw [fst_applyDoorLockFeedback, if_pos hidle] at h
    exact h hidle
  rw [fst_applyDoorLockFeedback, if_neg hidle] at h
  rw [fst_applyDoorLockFeedback, if_neg hidle, applyDoorLockFeedback, if_neg hidle]
  dsimp only
  rw [if_neg h]
  by_cases hon : out.buzzerOn = true
  · rw [if_neg (not_not.mpr hon), if_pos hon]
    exact ⟨hon, rfl⟩
  · rw [if_pos hon, if_neg hon]
    exact ⟨rfl, rfl⟩

/-- What the emergency brake leaves of the buzzer. -/
theorem buzzer_emergencyBrake {fl : ℚ → ℚ} {l : ControlLoop} {inputs : ControlInputs}
    (hengine : inputs.engine = true) :
    ((l.driven fl inputs).1.emergencyBrake inputs
        (lamps inputs (l.driven fl inputs).2)).2.buzzerOn = l.aebEvent fl inputs ∧
      (l.aebEvent fl inputs = true →
        ((l.driven fl inputs).1.emergencyBrake inputs
          (lamps inputs (l.driven fl inputs).2)).2.frequency = 500) := by
  obtain ⟨thr, str, hdriven, -⟩ := driven_out fl l inputs
  have hsilent : (lamps inputs (l.driven fl inputs).2).buzzerOn = false := by
    rw [hdriven]
    rfl
  rw [aebEvent, hengine, Bool.true_and, emergencyBrake]
  have hthrottle : (lamps inputs (l.driven fl inputs).2).throttle =
      (l.driven fl inputs).2.throttle := rfl
  dsimp only
  rw [hthrottle]
  split
  · rename_i hbrakes
    exact ⟨hbrakes.symm, fun _ => rfl⟩
  · rename_i hbrakes
    exact ⟨by rw [hsilent, Bool.eq_false_iff.mpr hbrakes], fun h => absurd h hbrakes⟩

/-- **On a cycle with a tone the buzzer is on**, whatever the state of the loop. -/
theorem buzzer_computeOutput (fl : ℚ → ℚ) {l : ControlLoop} {inputs : ControlInputs}
    (h : (l.computeOutput fl inputs).1.doorBuzzerState ≠ .idle) :
    (l.computeOutput fl inputs).2.buzzerOn = true ∧
      (l.computeOutput fl inputs).2.frequency =
        if l.aebEvent fl inputs then 500
        else if (l.computeOutput fl inputs).1.doorBuzzerState = .lowTone then 350 else 900 := by
  by_cases hengine : inputs.engine = true
  · obtain ⟨hon, hfrequency⟩ := @buzzer_emergencyBrake fl l inputs hengine
    rw [computeOutput, if_neg (not_not.mpr hengine)] at h ⊢
    have hchirp := buzzer_applyDoorLockFeedback h
    rw [hon] at hchirp
    refine ⟨hchirp.1, hchirp.2.trans ?_⟩
    by_cases haeb : l.aebEvent fl inputs = true
    · rw [if_pos haeb, if_pos haeb, hfrequency haeb]
    · rw [if_neg haeb, if_neg haeb]
  · have haeb : l.aebEvent fl inputs = false := by
      rw [aebEvent, Bool.eq_false_iff.mpr hengine, Bool.false_and]
    rw [computeOutput, if_pos hengine] at h ⊢
    have hchirp := buzzer_applyDoorLockFeedback h
    rw [haeb]
    exact hchirp

/-- **The door chirp keeps its timeline**, with the engine on or off, in every run of the loop. -/
theorem doorChirp_timeline (fl : ℚ → ℚ) : DoorChirp fl where
  timeline := by
    rintro before i later ⟨previous, hprevious, hchange⟩ hstill htime
    exact chirps fl hprevious hchange hstill (htime.sublist (List.sublist_append_right ..))
  buzzer := by
    intro history i h
    have hafter : after fl (history ++ [i]) = ((after fl history).computeOutput fl i).1 := by
      rw [after, Mealy.final_concat]
      rfl
    rw [hafter] at h ⊢
    exact buzzer_computeOutput fl h
  pendingHigh := fun history => (shows_run fl history).pendingHigh

/-- The doors are locked at 10 ms, and the next cycles come late. -/
example :
    [10, 400, 700].map (fun n => (after id (({} : ControlInputs) ::
      ([10, 400, 700].filter (· ≤ n)).map fun t =>
        { doorLocked := true, nowMs := t })).doorBuzzerState) = [.lowTone, .highTone, .idle] := by
  decide +kernel

end ControlLoop

end Realtime

end VehicleStack
