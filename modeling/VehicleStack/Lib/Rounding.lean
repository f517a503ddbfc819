import Mathlib.Algebra.Order.Floor.Ring
import Mathlib.Data.Rat.Floor

/-!
# Rounding to machine numbers

A program that computes in floating point is modelled over the rationals, with
every operation followed by a rounding. What such a program relies on is little:
a rounding keeps the order, and it keeps the integers that fit in the significand
(`VehicleStack.Rounding`). So a bound by an integer survives it
(`VehicleStack.Rounding.le_intCast`, `VehicleStack.Rounding.intCast_le`), and what
remains of the number once its fraction is cut off is known from such bounds
(`VehicleStack.truncate_le`, `VehicleStack.le_truncate`).
-/

namespace VehicleStack

/-- A rounding to double precision, of which only this is used: it keeps the order
and the integers of at most 53 bits. -/
structure Rounding where
  round : ℚ → ℚ
  mono : Monotone round
  round_intCast : ∀ n : ℤ, |n| ≤ 2 ^ 53 → round n = n

namespace Rounding

instance : CoeFun Rounding fun _ => ℚ → ℚ := ⟨round⟩

/-- Exact arithmetic. -/
def exact : Rounding := ⟨id, monotone_id, fun _ _ => rfl⟩

variable (r : Rounding) {q : ℚ} {n : ℤ}

/-- An upper bound by an integer survives. -/
theorem le_intCast (hn : |n| ≤ 2 ^ 53) (h : q ≤ n) : r q ≤ n :=
  (r.mono h).trans_eq (r.round_intCast n hn)

/-- A lower bound by an integer survives. -/
theorem intCast_le (hn : |n| ≤ 2 ^ 53) (h : (n : ℚ) ≤ q) : (n : ℚ) ≤ r q :=
  (r.round_intCast n hn).symm.trans_le (r.mono h)

end Rounding

/-! ### Cutting the fraction off -/

/-- The integer part, towards zero: `int` of a Python float. -/
def truncate (q : ℚ) : ℤ := q.num.tdiv q.den

variable {q : ℚ} {n : ℤ}

/-- Of what is not negative the integer part is the floor. -/
theorem truncate_of_nonneg (h : 0 ≤ q) : truncate q = ⌊q⌋ := by
  rw [truncate, Int.tdiv_eq_ediv_of_nonneg (Rat.num_nonneg.mpr h), Rat.floor_def']

@[simp]
theorem truncate_intCast (n : ℤ) : truncate n = n := by
  rw [truncate, Rat.num_intCast, Rat.den_intCast, Nat.cast_one, Int.tdiv_one]

theorem le_truncate (h0 : 0 ≤ q) (h : (n : ℚ) ≤ q) : n ≤ truncate q := by
  rw [truncate_of_nonneg h0]
  exact Int.le_floor.mpr h

theorem truncate_le (h0 : 0 ≤ q) (h : q ≤ n) : truncate q ≤ n := by
  rw [truncate_of_nonneg h0]
  exact_mod_cast (Int.floor_le q).trans h

end VehicleStack
