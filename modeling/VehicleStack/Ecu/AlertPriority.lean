import VehicleStack.Lib.Mealy
import VehicleStack.Ecu.Actuators

/-!
# The emergency alert comes first

The alert keeps a flag of its own for whether it is on, the lamps a table, and the
buzzer its state; requests from outside change the last two and the interval of the
alert, and the main loop calls `EmerAlert_Update_Periodic` after every request. The
callback of Service 2 looks at the interval, the alert at its flag.

Whatever requests arrive, complete or not, and whatever the clock says, the three
agree at the end of every iteration (`VehicleStack.Ecu.Actuators.alertShown_after`):
a request can make the flag and the interval disagree, but nothing that it does to
lamp and buzzer then lasts, because the interval was not negative before it or the
flag was off.
-/

namespace VehicleStack

namespace Ecu

namespace Actuators

/-- The back lamp is on, and the buzzer sounds at 500 Hz. -/
structure Sounding (s : Actuators) : Prop where
  led : s.led.isOn .back = true
  pins : ∀ n ∈ LedSide.back.pins, s.led.pin n = true
  buzzer : s.buzzer.isOn = true
  frequency : s.buzzer.frequency = 500

/-- The alert is what its interval says: constant, blinking, or off. -/
structure AlertShown (s : Actuators) : Prop where
  constant : s.interval = 0 → s.isAlertOn = true ∧ s.Sounding
  blinking : 0 < s.interval → s.isAlertOn = true → s.Sounding
  silent : s.interval < 0 → s.isAlertOn = false

/-- While the alert is on, lamp and buzzer show it. -/
theorem AlertShown.sounding {s : Actuators} (h : s.AlertShown) (hon : s.isAlertOn = true) :
    s.Sounding := by
  rcases lt_trichotomy s.interval 0 with hneg | hzero | hpos
  · exact absurd (hon.symm.trans (h.silent hneg)) nofun
  · exact (h.constant hzero).2
  · exact h.blinking hpos hon

/-! ### Requests -/

/-- The buzzer method leaves buzzer and lamp to an alert that is on. -/
theorem sounding_buzzerMethod {s : Actuators} (h : s.AlertShown) (rx : ℕ → UInt8)
    (hon : (s.buzzerMethod rx).1.isAlertOn = true) : (s.buzzerMethod rx).1.Sounding := by
  simp only [buzzerMethod] at hon ⊢
  by_cases hinterval : 0 ≤ s.interval
  · rw [if_pos hinterval] at hon ⊢
    exact h.sounding hon
  · rw [if_neg hinterval] at hon
    exact absurd (hon.symm.trans (h.silent (by omega))) nofun

/-- So does the lamp method. -/
theorem sounding_ledMethod {s : Actuators} (h : s.AlertShown) (beyond : Beyond) (rx : ℕ → UInt8)
    (hon : (s.ledMethod beyond rx).1.isAlertOn = true) : (s.ledMethod beyond rx).1.Sounding := by
  simp only [ledMethod] at hon ⊢
  by_cases hguard : rx 16 = 0 ∧ 0 ≤ s.interval
  · rw [if_pos hguard] at hon ⊢
    exact h.sounding hon
  · rw [if_neg hguard] at hon ⊢
    have hsounding := h.sounding hon
    have hinterval : 0 ≤ s.interval := by
      by_contra hneg
      exact absurd (hon.symm.trans (h.silent (by omega))) nofun
    -- the alert is on, so the side is another one
    have hside : rx 16 ≠ 0 := fun hback => hguard ⟨hback, hinterval⟩
    obtain ⟨hled, hpins⟩ := s.led.control_back hside (rx 17)
    constructor
    · exact hled.trans hsounding.led
    · exact fun n hn => (hpins n hn).trans (hsounding.pins n hn)
    · exact hsounding.buzzer
    · exact hsounding.frequency

/-- **A request**, on any port and of any length, leaves lamp and buzzer to an alert
that is on. -/
theorem sounding_receive {s : Actuators} (h : s.AlertShown) (beyond : Beyond) (port : Port)
    (payload : List UInt8) (hon : (s.receive beyond port payload).isAlertOn = true) :
    (s.receive beyond port payload).Sounding := by
  cases port with
  | service1 => exact h.sounding hon
  | sd => exact h.sounding hon
  | service3 =>
    obtain ⟨hled, hpins, hbuzzer, hfrequency⟩ := h.sounding hon
    exact ⟨hled, hpins, hbuzzer, hfrequency⟩
  | service2 =>
    simp only [receive, service2Callback] at hon ⊢
    split_ifs at hon ⊢
    · exact h.sounding hon
    · exact sounding_buzzerMethod h _ hon
    · exact sounding_ledMethod h beyond _ hon
    · exact h.sounding hon
    · exact h.sounding hon

/-! ### The periodic update -/

/-- Switching the alert on shows it. -/
theorem sounding_on (s : Actuators) :
    Sounding { s with
      isAlertOn := true
      led := s.led.on .back
      buzzer := (s.buzzer.setFrequency 500).1.on } := by
  constructor
  · exact Function.update_self LedSide.back true s.led.isOn
  · exact fun n hn => if_pos hn
  · rfl
  · rfl

/-- **The update** makes the alert what its interval says, if it was shown while it was
on. -/
theorem alertShown_update {s : Actuators} (h : s.isAlertOn = true → s.Sounding)
    (curTimeMs : UInt64) : (s.emerAlertUpdatePeriodic curTimeMs).AlertShown := by
  rw [emerAlertUpdatePeriodic]
  rcases lt_trichotomy s.interval 0 with hneg | hzero | hpos
  · -- off
    rw [if_neg (by omega), if_pos hneg, emerAlertOff]
    split
    · exact ⟨fun hz => absurd hz hneg.ne, fun hp => absurd hp hneg.asymm, fun _ => rfl⟩
    · rename_i hoff
      exact ⟨fun hz => absurd hz hneg.ne, fun hp => absurd hp hneg.asymm,
        fun _ => Bool.eq_false_iff.mpr hoff⟩
  · -- constant
    rw [if_neg (by omega), if_neg (by omega), emerAlertOn]
    have hnot : ¬ 0 < s.interval ∧ ¬ s.interval < 0 := by omega
    split
    · obtain ⟨hled, hpins, hbuzzer, hfrequency⟩ := s.sounding_on
      exact ⟨fun _ => ⟨rfl, hled, hpins, hbuzzer, hfrequency⟩, fun hp => absurd hp hnot.1,
        fun hn => absurd hn hnot.2⟩
    · rename_i hon
      have hon : s.isAlertOn = true := not_not.mp hon
      obtain ⟨hled, hpins, hbuzzer, hfrequency⟩ := h hon
      exact ⟨fun _ => ⟨hon, hled, hpins, hbuzzer, hfrequency⟩, fun hp => absurd hp hnot.1,
        fun hn => absurd hn hnot.2⟩
  · -- blinking
    rw [if_pos hpos]
    split
    · rw [emerAlertToggle]
      split
      · obtain ⟨hled, hpins, hbuzzer, hfrequency⟩ := s.sounding_on
        exact ⟨fun hz => absurd hz hpos.ne', fun _ _ => ⟨hled, hpins, hbuzzer, hfrequency⟩,
          fun hn => absurd hn hpos.asymm⟩
      · exact ⟨fun hz => absurd hz hpos.ne', fun _ hon => absurd hon nofun,
          fun hn => absurd hn hpos.asymm⟩
    · exact ⟨fun hz => absurd hz hpos.ne', fun _ hon => h hon, fun hn => absurd hn hpos.asymm⟩

/-! ### The main loop -/

/-- The actuators after some iterations of the main loop, from power-on. -/
def after (iterations : List Iteration) : Actuators :=
  Mealy.final (fun s i => (iterate s i, ())) {} iterations

/-- **One iteration** keeps the alert what its interval says. -/
theorem AlertShown.iterate {s : Actuators} (h : s.AlertShown) (i : Iteration) :
    (s.iterate i).AlertShown := by
  obtain ⟨datagram, beyond, timeMs⟩ := i
  cases datagram with
  | none => exact alertShown_update h.sounding timeMs
  | some d => exact alertShown_update (sounding_receive h beyond d.1 d.2) timeMs

/-- **The alert cannot be silenced from outside.** At the end of every iteration of the
main loop, whatever datagrams came in and whatever the clock said: an interval of zero
means that the alert is on and shown, a positive one that it is shown while it is on, a
negative one that it is off. -/
theorem alertShown_after (iterations : List Iteration) : (after iterations).AlertShown := by
  refine Mealy.final_of_invariant (P := AlertShown) ?_ ?_ iterations
  · exact ⟨fun hz => absurd hz (by decide), fun hp => absurd hp (by decide), fun _ => rfl⟩
  · intro s i h
    exact h.iterate i

end Actuators

end Ecu

end VehicleStack
