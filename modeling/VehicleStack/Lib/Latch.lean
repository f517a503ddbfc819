import Mathlib.Data.List.Basic

/-!
# Channels that transmit changes only

A sender that keeps the last value it has dealt with and transmits a new one
only when it differs. What the receiver holds is the last value transmitted, or
the default it started with (`VehicleStack.Latch.lastValue`); what the sender
holds is its cache. The two agree as long as the transmitted value is the new
one (`VehicleStack.Latch.lastValue_append_send`), and that is the whole
invariant of such a channel.
-/

namespace VehicleStack

namespace Latch

variable {α β : Type*}

/-- What a receiver holds that started with `d` and was sent `xs`. -/
def lastValue (d : α) (xs : List α) : α := xs.getLast?.getD d

@[simp]
theorem lastValue_singleton (d x : α) : lastValue d [x] = x := rfl

/-- A receiver goes on from what it holds. -/
theorem lastValue_append (d : α) (xs ys : List α) :
    lastValue d (xs ++ ys) = lastValue (lastValue d xs) ys := by
  rw [lastValue, lastValue, lastValue, List.getLast?_append]
  cases ys.getLast? with
  | none => rfl
  | some y => rfl

variable [DecidableEq α]

/-- What a change-only sender with the cache `cache` transmits for `x`. -/
def send (cache x : α) : List α := if x ≠ cache then [x] else []

/-- A receiver that agrees with the cache agrees with the new value afterwards. -/
@[simp]
theorem lastValue_send (cache x : α) : lastValue cache (send cache x) = x := by
  unfold send
  by_cases h : x = cache
  · rw [if_neg (not_not.mpr h), h]
    rfl
  · rw [if_pos h]
    rfl

/-- **The invariant of a change-only channel**: if what was transmitted so far
leaves the receiver at the cache, then after the next value it is at that value. -/
theorem lastValue_append_send {d cache : α} {log : List α} (h : lastValue d log = cache)
    (x : α) : lastValue d (log ++ send cache x) = x := by
  rw [lastValue_append, h, lastValue_send]

end Latch

end VehicleStack
