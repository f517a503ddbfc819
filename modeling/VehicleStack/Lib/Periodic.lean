import Mathlib.Data.List.Basic
import Mathlib.Order.Basic

/-!
# Things done once in a period

A loop looks at the clock each time round, and does something if a period has gone by since it did
it last. At which of the times it looks at the clock it does so is `VehicleStack.Periodic.fired`.

It is done no sooner than a period after it was done last, and later than that only by what the
loop takes to look at the clock again (`VehicleStack.Periodic.fired_prompt`,
`VehicleStack.Periodic.fired_paced`). If the loop comes round when a period is over, it is done
(`VehicleStack.Periodic.fired_ne_nil`).
-/

namespace VehicleStack

namespace Periodic

variable {period gap last start now : ℕ} {times : List ℕ}

/-- The times at which it is done, of those at which the loop looks at the clock. -/
def fired (period : ℕ) : ℕ → List ℕ → List ℕ
  | _, [] => []
  | last, now :: times =>
    if period ≤ now - last then now :: fired period now times else fired period last times

@[simp]
theorem fired_nil (period last : ℕ) : fired period last [] = [] := rfl

theorem fired_cons_of_le (h : period ≤ now - last) (times : List ℕ) :
    fired period last (now :: times) = now :: fired period now times :=
  if_pos h

theorem fired_cons_of_lt (h : now - last < period) (times : List ℕ) :
    fired period last (now :: times) = fired period last times :=
  if_neg (Nat.not_le.mpr h)

/-- **If the loop comes round when the period is over, it is done.** -/
theorem fired_ne_nil (hnow : now ∈ times) (hdue : last + period ≤ now) :
    fired period last times ≠ [] := by
  induction times with
  | nil => exact absurd hnow List.not_mem_nil
  | cons now' times ih =>
    by_cases hfirst : period ≤ now' - last
    · rw [fired_cons_of_le hfirst]
      exact List.cons_ne_nil _ _
    · rw [fired_cons_of_lt (Nat.not_le.mp hfirst)]
      rcases List.mem_cons.mp hnow with rfl | hlater
      · omega
      · exact ih hlater

/-- The loop looks at the clock at least every `gap`, from a time on. -/
def Polled (gap : ℕ) (start : ℕ) (times : List ℕ) : Prop :=
  (start :: times).IsChain fun a b => a ≤ b ∧ b ≤ a + gap

theorem Polled.tail (h : Polled gap start (now :: times)) : Polled gap now times :=
  (List.isChain_cons_cons.mp h).2

theorem Polled.head (h : Polled gap start (now :: times)) : start ≤ now ∧ now ≤ start + gap :=
  (List.isChain_cons_cons.mp h).1

/-- None of the times is before the first one. -/
theorem Polled.le (h : Polled gap start times) : ∀ t ∈ times, start ≤ t := by
  induction times generalizing start with
  | nil => exact fun t ht => absurd ht List.not_mem_nil
  | cons now times ih =>
    intro t ht
    rcases List.mem_cons.mp ht with rfl | hlater
    · exact h.head.1
    · exact Nat.le_trans h.head.1 (ih h.tail t hlater)

theorem Polled.append_left {later : List ℕ} (h : Polled gap start (times ++ later)) :
    Polled gap start times := by
  induction times generalizing start with
  | nil => exact .singleton start
  | cons now times ih => exact List.isChain_cons_cons.mpr ⟨h.head, ih h.tail⟩

/-- So is the loop from the last of some of these times on. -/
theorem Polled.append_right {before : List ℕ} (h : Polled gap start (before ++ times)) :
    Polled gap (before.getLastD start) times := by
  induction before generalizing start with
  | nil => exact h
  | cons now before ih =>
    rw [List.getLastD_cons]
    exact ih h.tail

/-- **Later than a period only by what the loop takes to come round**, if it is not late yet. -/
theorem fired_prompt (hperiod : 0 < period) (hdue : start < last + period)
    (hpolled : Polled gap start times) :
    (last :: fired period last times).IsChain fun a b => a + period ≤ b ∧ b < a + period + gap := by
  induction times generalizing last start with
  | nil => exact .singleton last
  | cons now times ih =>
    have hhead := hpolled.head
    by_cases hnow : period ≤ now - last
    · rw [fired_cons_of_le hnow]
      exact List.isChain_cons_cons.mpr ⟨by omega, ih (by omega) hpolled.tail⟩
    · rw [fired_cons_of_lt (Nat.not_le.mp hnow)]
      exact ih (by omega) hpolled.tail

/-- **The pace it keeps**, once it has been done. -/
theorem fired_paced (hperiod : 0 < period) (last : ℕ) (hpolled : Polled gap start times) :
    (fired period last times).IsChain fun a b => a + period ≤ b ∧ b < a + period + gap := by
  induction times generalizing start with
  | nil => exact .nil
  | cons now times ih =>
    by_cases hnow : period ≤ now - last
    · rw [fired_cons_of_le hnow]
      exact fired_prompt hperiod (Nat.lt_add_of_pos_right hperiod) hpolled.tail
    · rw [fired_cons_of_lt (Nat.not_le.mp hnow)]
      exact ih hpolled.tail

end Periodic

end VehicleStack
