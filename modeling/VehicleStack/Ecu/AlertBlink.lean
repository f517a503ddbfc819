import VehicleStack.Lib.Periodic
import VehicleStack.Ecu.AlertPriority

/-!
# The blinking alert

While the interval of the alert is positive, `EmerAlert_Update_Periodic` turns the alert on and off,
once in an interval. It is called once in each iteration of the main loop, so that how long the
others of its tasks take is what the alert can be late by.

`VehicleStack.Ecu.Actuators.blinks` is about a run of the main loop during which the interval stays
the same, after any other run, while datagrams arrive on every port: no change of the alert is
sooner after the one before it than the interval, none is later than that by the time the loop takes
to come round, and from the first one on, back lamp and buzzer are what the alert is. Before that
the buzzer may sound without the alert, as it was left by the method `0x0201`.
-/

namespace VehicleStack

namespace Ecu

namespace Actuators

variable {s : Actuators} {T gap : ℕ}

/-! ### An iteration -/

/-- The actuators once the datagram of an iteration has been handled. -/
def received (s : Actuators) (i : Iteration) : Actuators :=
  match i.datagram with
  | none => s
  | some (port, payload) => s.receive i.beyond port payload

theorem iterate_eq (s : Actuators) (i : Iteration) :
    s.iterate i = (s.received i).emerAlertUpdatePeriodic i.timeMs := rfl

/-- The part of the actuators that is the alert's own. -/
def alertPart (s : Actuators) : Bool × UInt64 := (s.isAlertOn, s.lastToggleTimeMs)

/-- Requests leave the alert's own part alone. -/
theorem alertPart_received (s : Actuators) (i : Iteration) :
    (s.received i).alertPart = s.alertPart := by
  rw [received]
  rcases i.datagram with _ | ⟨port, payload⟩
  · rfl
  cases port with
  | service1 => rfl
  | sd => rfl
  | service3 => rfl
  | service2 =>
    show ((s.service2Callback i.beyond payload).1).alertPart = s.alertPart
    simp only [service2Callback, buzzerMethod, ledMethod]
    split_ifs <;> rfl

/-- Back lamp and buzzer. -/
structure Mirrors (s : Actuators) : Prop where
  led : s.led.isOn .back = s.isAlertOn
  pins : ∀ n ∈ LedSide.back.pins, s.led.pin n = s.isAlertOn
  buzzer : s.buzzer.isOn = s.isAlertOn

/-- While the interval is not negative, requests leave back lamp and buzzer alone. -/
theorem Mirrors.received (h : s.Mirrors) (hinterval : 0 ≤ s.interval) (i : Iteration) :
    (s.received i).Mirrors := by
  rw [Actuators.received]
  rcases i.datagram with _ | ⟨port, payload⟩
  · exact h
  cases port with
  | service1 => exact h
  | sd => exact h
  | service3 => exact ⟨h.led, h.pins, h.buzzer⟩
  | service2 =>
    show ((s.service2Callback i.beyond payload).1).Mirrors
    simp only [service2Callback, buzzerMethod, ledMethod, if_pos hinterval]
    split_ifs with _ _ _ _ hguard
    · exact h
    · exact h
    · exact h
    · obtain ⟨hled, hpins⟩ := s.led.control_back (fun hback => hguard ⟨hback, hinterval⟩)
        (rxBuf i.beyond.rxBuf payload 17)
      exact ⟨hled.trans h.led, fun n hn => (hpins n hn).trans (h.pins n hn), h.buzzer⟩
    · exact h
    · exact h

/-- Toggling the alert toggles lamp and buzzer with it. -/
theorem mirrors_toggle (s : Actuators) : s.emerAlertToggle.Mirrors := by
  rw [emerAlertToggle]
  split
  · constructor
    · exact Function.update_self LedSide.back true s.led.isOn
    · exact fun n hn => if_pos hn
    · rfl
  · constructor
    · exact Function.update_self LedSide.back false s.led.isOn
    · exact fun n hn => if_pos hn
    · rfl

theorem isAlertOn_toggle (s : Actuators) : s.emerAlertToggle.isAlertOn = !s.isAlertOn := by
  rw [emerAlertToggle]
  split
  · rename_i h
    rw [Bool.eq_false_iff.mpr h]
    rfl
  · rename_i h
    rw [not_not.mp h]
    rfl

/-- What is left of a difference of times, as the clock has not wrapped. -/
theorem toNat_sub_of_le {now last : UInt64} (h : last.toNat ≤ now.toNat) :
    (now - last).toNat = now.toNat - last.toNat :=
  UInt64.toNat_sub_of_le now last (UInt64.le_iff_toNat_le.mpr h)

/-- The interval is the one that requests leave. -/
theorem interval_iterate (s : Actuators) (i : Iteration) :
    (s.iterate i).interval = (s.received i).interval := by
  rw [iterate_eq, emerAlertUpdatePeriodic]
  split
  · split
    · rw [emerAlertToggle]
      split <;> rfl
    · rfl
  · split
    · rw [emerAlertOff]
      split <;> rfl
    · rw [emerAlertOn]
      split <;> rfl

/-- **An iteration when the interval is over** toggles the alert, -/
theorem iterate_of_due {i : Iteration} (hT : 0 < T) (hinterval : (s.iterate i).interval = T)
    (hlast : s.lastToggleTimeMs.toNat ≤ i.timeMs.toNat)
    (hdue : T ≤ i.timeMs.toNat - s.lastToggleTimeMs.toNat) :
    (s.iterate i).isAlertOn = !s.isAlertOn ∧ (s.iterate i).lastToggleTimeMs = i.timeMs ∧
      (s.iterate i).Mirrors := by
  have hon : (s.received i).isAlertOn = s.isAlertOn := congrArg Prod.fst (s.alertPart_received i)
  have htime : (s.received i).lastToggleTimeMs = s.lastToggleTimeMs :=
    congrArg Prod.snd (s.alertPart_received i)
  rw [interval_iterate] at hinterval
  rw [iterate_eq, emerAlertUpdatePeriodic, if_pos (by omega), htime, toNat_sub_of_le hlast,
    hinterval, if_pos (by omega), ← hon]
  obtain ⟨hled, hpins, hbuzzer⟩ := (s.received i).mirrors_toggle
  exact ⟨(s.received i).isAlertOn_toggle, rfl, hled, hpins, hbuzzer⟩

/-- **and one before that** leaves it. -/
theorem iterate_of_not_due {i : Iteration} (hT : 0 < T) (hinterval : (s.iterate i).interval = T)
    (hlast : s.lastToggleTimeMs.toNat ≤ i.timeMs.toNat)
    (hdue : i.timeMs.toNat - s.lastToggleTimeMs.toNat < T) :
    (s.iterate i).isAlertOn = s.isAlertOn ∧
      (s.iterate i).lastToggleTimeMs = s.lastToggleTimeMs ∧ s.iterate i = s.received i := by
  have hon : (s.received i).isAlertOn = s.isAlertOn := congrArg Prod.fst (s.alertPart_received i)
  have htime : (s.received i).lastToggleTimeMs = s.lastToggleTimeMs :=
    congrArg Prod.snd (s.alertPart_received i)
  rw [interval_iterate] at hinterval
  rw [iterate_eq, emerAlertUpdatePeriodic, if_pos (by omega), htime, toNat_sub_of_le hlast,
    hinterval, if_neg (by omega)]
  exact ⟨hon, htime, rfl⟩

/-! ### A run -/

/-- The times of the iterations that turn the alert on or off. -/
def changes : Actuators → List Iteration → List ℕ
  | _, [] => []
  | s, i :: iterations =>
    if (s.iterate i).isAlertOn = s.isAlertOn then changes (s.iterate i) iterations
    else i.timeMs.toNat :: changes (s.iterate i) iterations

/-- The interval is the same in all of a run. -/
def Kept (T : ℕ) : Actuators → List Iteration → Prop
  | _, [] => True
  | s, i :: iterations => (s.iterate i).interval = T ∧ Kept T (s.iterate i) iterations

/-- **The alert changes as a thing that is done once in an interval.** -/
theorem changes_eq (hT : 0 < T) {start : ℕ} {iterations : List Iteration}
    (hpolled : Periodic.Polled gap start (iterations.map fun i => i.timeMs.toNat))
    (hlast : s.lastToggleTimeMs.toNat ≤ start) (hkept : Kept T s iterations) :
    changes s iterations = Periodic.fired T s.lastToggleTimeMs.toNat
      (iterations.map fun i => i.timeMs.toNat) := by
  induction iterations generalizing s start with
  | nil => rfl
  | cons i iterations ih =>
    obtain ⟨hinterval, hkept⟩ := hkept
    have hnow : s.lastToggleTimeMs.toNat ≤ i.timeMs.toNat := hlast.trans hpolled.head.1
    rw [List.map_cons]
    by_cases hdue : T ≤ i.timeMs.toNat - s.lastToggleTimeMs.toNat
    · obtain ⟨hon, htime, -⟩ := iterate_of_due hT hinterval hnow hdue
      have hchange : ¬ (s.iterate i).isAlertOn = s.isAlertOn := by
        rw [hon]
        exact Bool.not_ne_self s.isAlertOn
      rw [changes, if_neg hchange, Periodic.fired_cons_of_le hdue,
        ih hpolled.tail (by rw [htime]) hkept, htime]
    · obtain ⟨hon, htime, -⟩ := iterate_of_not_due hT hinterval hnow (Nat.not_le.mp hdue)
      rw [changes, if_pos hon, Periodic.fired_cons_of_lt (Nat.not_le.mp hdue),
        ih hpolled.tail (by rw [htime]; exact hnow) hkept, htime]

/-- From the first change on, lamp and buzzer are what the alert is. -/
theorem mirrors_of_changes (hT : 0 < T) {start : ℕ} {iterations : List Iteration}
    (hpolled : Periodic.Polled gap start (iterations.map fun i => i.timeMs.toNat))
    (hlast : s.lastToggleTimeMs.toNat ≤ start) (hkept : Kept T s iterations)
    (h : 0 ≤ s.interval ∧ s.Mirrors ∨ changes s iterations ≠ []) :
    (Mealy.final (fun s i => (iterate s i, ())) s iterations).Mirrors := by
  induction iterations generalizing s start with
  | nil =>
    rcases h with ⟨-, h⟩ | h
    · exact h
    · exact absurd rfl h
  | cons i iterations ih =>
    obtain ⟨hinterval, hkept⟩ := hkept
    have hnow : s.lastToggleTimeMs.toNat ≤ i.timeMs.toNat := hlast.trans hpolled.head.1
    have hnonneg : 0 ≤ (s.iterate i).interval := by omega
    by_cases hdue : T ≤ i.timeMs.toNat - s.lastToggleTimeMs.toNat
    · obtain ⟨-, htime, hmirrors⟩ := iterate_of_due hT hinterval hnow hdue
      exact ih hpolled.tail (by rw [htime]) hkept (Or.inl ⟨hnonneg, hmirrors⟩)
    · obtain ⟨hon, htime, hsame⟩ := iterate_of_not_due hT hinterval hnow (Nat.not_le.mp hdue)
      refine ih hpolled.tail (by rw [htime]; exact hnow) hkept ?_
      rcases h with ⟨hbefore, h⟩ | h
      · have hmirrors := h.received hbefore i
        rw [← hsame] at hmirrors
        exact Or.inl ⟨hnonneg, hmirrors⟩
      · rw [changes, if_pos hon] at h
        exact Or.inr h

/-- The time of the last change is that of the iteration, or zero, or was before. -/
theorem lastToggleTimeMs_iterate (s : Actuators) (i : Iteration) :
    (s.iterate i).lastToggleTimeMs = i.timeMs ∨ (s.iterate i).lastToggleTimeMs = 0 ∨
      (s.iterate i).lastToggleTimeMs = s.lastToggleTimeMs := by
  have htime : (s.received i).lastToggleTimeMs = s.lastToggleTimeMs :=
    congrArg Prod.snd (s.alertPart_received i)
  rw [iterate_eq, emerAlertUpdatePeriodic]
  split
  · split
    · exact Or.inl rfl
    · exact Or.inr (Or.inr htime)
  · split
    · exact Or.inr (Or.inl rfl)
    · exact Or.inr (Or.inl rfl)

/-- The alert did not change later than the last iteration. -/
theorem lastToggleTimeMs_le {iterations : List Iteration}
    (hpolled : Periodic.Polled gap 0 (iterations.map fun i => i.timeMs.toNat)) :
    (after iterations).lastToggleTimeMs.toNat ≤
      (iterations.map fun i => i.timeMs.toNat).getLastD 0 := by
  induction iterations using List.reverseRecOn with
  | nil => exact Nat.le_refl 0
  | append_singleton iterations i ih =>
    rw [List.map_append, List.map_singleton] at hpolled ⊢
    have hhead := hpolled.append_right.head.1
    rw [List.getLastD_concat, after, Mealy.final_concat]
    rcases lastToggleTimeMs_iterate (after iterations) i with h | h | h
    · exact Nat.le_of_eq (congrArg UInt64.toNat h)
    · exact (Nat.le_of_eq (congrArg UInt64.toNat h)).trans (Nat.zero_le _)
    · exact (Nat.le_of_eq (congrArg UInt64.toNat h)).trans ((ih hpolled.append_left).trans hhead)

/-- **The alert blinks**: in a run of the main loop, after any other run, during which the interval
is kept and whatever datagrams arrive, a change of the alert follows the one before it no sooner
than the interval, and sooner than that and a round of the loop; from the first change on, lamp and
buzzer are what the alert is; and if the loop comes round when an interval has gone by since the
change before the run, there is one. -/
theorem blinks (before iterations : List Iteration) {T gap : ℕ} (hT : 0 < T)
    (hpolled : Periodic.Polled gap 0 ((before ++ iterations).map fun i => i.timeMs.toNat))
    (hkept : Kept T (after before) iterations) :
    (changes (after before) iterations).IsChain (fun a b => a + T ≤ b ∧ b < a + T + gap) ∧
      (changes (after before) iterations ≠ [] → (after (before ++ iterations)).Mirrors) ∧
      ∀ i ∈ iterations, (after before).lastToggleTimeMs.toNat + T ≤ i.timeMs.toNat →
        changes (after before) iterations ≠ [] := by
  rw [List.map_append] at hpolled
  have hlast := lastToggleTimeMs_le hpolled.append_left
  have hchanges := changes_eq hT hpolled.append_right hlast hkept
  refine ⟨?_, ?_, ?_⟩
  · rw [hchanges]
    exact Periodic.fired_paced hT _ hpolled.append_right
  · intro h
    rw [after, Mealy.final_append]
    exact mirrors_of_changes hT hpolled.append_right hlast hkept (Or.inr h)
  · intro i hi hdue
    rw [hchanges]
    exact Periodic.fired_ne_nil (List.mem_map_of_mem hi) hdue

/-- A request for an interval of half a second, and two rounds of the loop after it. -/
def blinkHalfSecond : List Iteration :=
  [⟨some (.service3, [3, 0, 3, 1, 0, 0, 0, 16, 0, 0, 0, 0, 1, 1, 0, 0, 0, 0, 0, 0, 0, 0, 1, 244]),
      ⟨fun _ => 0, fun _ => false⟩, 700⟩,
    ⟨none, ⟨fun _ => 0, fun _ => false⟩, 900⟩, ⟨none, ⟨fun _ => 0, fun _ => false⟩, 1300⟩]

theorem blinks_halfSecond :
    (changes (after []) blinkHalfSecond).IsChain (fun a b => a + 500 ≤ b ∧ b < a + 500 + 700) ∧
      (changes (after []) blinkHalfSecond ≠ [] → (after ([] ++ blinkHalfSecond)).Mirrors) ∧
      ∀ i ∈ blinkHalfSecond, (after []).lastToggleTimeMs.toNat + 500 ≤ i.timeMs.toNat →
        changes (after []) blinkHalfSecond ≠ [] :=
  blinks [] blinkHalfSecond (by decide)
    (.cons_cons (by decide) (.cons_cons (by decide) (.cons_cons (by decide) (.singleton _))))
    ⟨by decide +kernel, by decide +kernel, by decide +kernel, trivial⟩

end Actuators

end Ecu

end VehicleStack
