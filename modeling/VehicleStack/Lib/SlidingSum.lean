import Mathlib.Algebra.Order.BigOperators.Group.List
import Mathlib.Algebra.Order.Ring.Int
import VehicleStack.Lib.Ring

/-!
# Sums over a sliding window

The sum of the last `size` values of a sequence, kept up to date with one addition and
one subtraction a value: the values are in a circular array of `size` cells, and the
value that is overwritten is taken out of the sum. While the array fills up nothing is
taken out (`VehicleStack.SlidingSum.push`).

`VehicleStack.SlidingSum.Holds` says what is kept of a sequence: the value number `k`
is in the cell `k % size` until the value `size` places later takes it. A push keeps it
(`VehicleStack.SlidingSum.Holds.push`), so the sum is that of the last values at all
times. The average of integers, cut towards zero, is between them
(`VehicleStack.SlidingSum.exists_le_average`, `VehicleStack.SlidingSum.exists_average_le`).
-/

namespace VehicleStack

/-- A sum over the last values, and where they are. -/
@[ext]
structure SlidingSum (α : Type*) where
  cells : ℕ → α
  next : ℕ
  count : ℕ
  sum : α

namespace SlidingSum

section Group

variable {α : Type*} [AddCommGroup α] {size : ℕ} {w : SlidingSum α} {xs : List α}

/-- The sum without the value that the next one overwrites. -/
def kept (size : ℕ) (w : SlidingSum α) : α :=
  if w.count < size then w.sum else w.sum - w.cells w.next

/-- One more value. -/
def push (size : ℕ) (w : SlidingSum α) (x : α) : SlidingSum α where
  cells := Function.update w.cells w.next x
  next := (w.next + 1) % size
  count := if w.count < size then w.count + 1 else w.count
  sum := w.kept size + x

/-- **What is kept of a sequence**: the sum of its last values, and these in the array. -/
structure Holds (size : ℕ) (w : SlidingSum α) (xs : List α) : Prop where
  next : w.next = xs.length % size
  count : w.count = min xs.length size
  cells : ∀ k x, xs[k]? = some x → xs.length ≤ k + size → w.cells (k % size) = x
  sum : w.sum = (xs.rtake size).sum

/-- Nothing is kept of nothing. -/
theorem holds_nil (size : ℕ) (cells : ℕ → α) : Holds size ⟨cells, 0, 0, 0⟩ [] where
  next := (Nat.zero_mod size).symm
  count := (Nat.zero_min size).symm
  cells := fun _ _ h => by cases h
  sum := by rw [List.rtake_nil, List.sum_nil]

omit [AddCommGroup α] in
/-- A window that is full begins with the value that the next one overwrites. -/
theorem rtake_of_le (hsize : 0 < size) (h : size ≤ xs.length) :
    ∃ x, xs[xs.length - size]? = some x ∧ xs.rtake size = x :: xs.rtake (size - 1) := by
  have hlt : xs.length - size < xs.length := by omega
  refine ⟨xs[xs.length - size], List.getElem?_eq_getElem hlt, ?_⟩
  rw [List.rtake, List.rtake, List.drop_eq_getElem_cons hlt,
    show xs.length - size + 1 = xs.length - (size - 1) by omega]

/-- **What is kept is the sum of the window without its first value**, once it is full. -/
theorem Holds.kept (hsize : 0 < size) (h : Holds size w xs) :
    w.kept size = (xs.rtake (size - 1)).sum := by
  rw [SlidingSum.kept, h.count]
  by_cases hfull : size ≤ xs.length
  · obtain ⟨x, hx, hwindow⟩ := rtake_of_le hsize hfull
    have hcell : w.cells w.next = x := by
      have hlast := h.cells _ x hx (by omega)
      rwa [← Nat.mod_eq_sub_mod hfull, ← h.next] at hlast
    rw [if_neg (by omega), h.sum, hwindow, List.sum_cons, hcell, add_sub_cancel_left]
  · rw [if_pos (by omega), h.sum, List.rtake, List.rtake, show xs.length - size = 0 by omega,
      show xs.length - (size - 1) = 0 by omega]

/-- **One more value** moves the window by one. -/
theorem Holds.push (hsize : 0 < size) (h : Holds size w xs) (x : α) :
    Holds size (w.push size x) (xs ++ [x]) where
  next := by
    rw [SlidingSum.push, h.next, Nat.mod_add_mod, List.length_append, List.length_singleton]
  count := by
    rw [SlidingSum.push, List.length_append, List.length_singleton]
    dsimp only
    rw [h.count]
    split <;> omega
  cells := by
    intro k y hk hin
    rw [List.length_append, List.length_singleton] at hin
    rw [SlidingSum.push, h.next]
    rcases Nat.lt_trichotomy k xs.length with hlt | rfl | hgt
    · -- an older value is in another cell than the new one
      have hne : k % size ≠ xs.length % size := by
        have := @Ring.add_mod_ne k 0 (xs.length - k) size (by omega) (by omega)
        rwa [Nat.add_zero, Nat.add_sub_cancel' hlt.le] at this
      rw [List.getElem?_append_left hlt] at hk
      exact (Function.update_of_ne hne ..).trans (h.cells k y hk (by omega))
    · rw [List.getElem?_concat_length, Option.some_inj] at hk
      exact (Function.update_self ..).trans hk
    · rw [List.getElem?_eq_none (by rw [List.length_append, List.length_singleton]; omega)] at hk
      cases hk
  sum := by
    obtain ⟨n, rfl⟩ := Nat.exists_eq_add_of_lt hsize
    rw [SlidingSum.push, h.kept hsize, Nat.zero_add, Nat.add_sub_cancel, List.rtake_concat_succ,
      List.sum_append, List.sum_singleton]

end Group

/-! ### Averages -/

section Average

variable {xs : List ℤ}

/-- What is below all values is below their average. -/
theorem le_average {lo : ℤ} (hne : xs ≠ []) (h : ∀ x ∈ xs, lo ≤ x) :
    lo ≤ xs.sum.tdiv xs.length := by
  have hpos : (0 : ℤ) < xs.length := Int.natCast_pos.mpr (List.length_pos_of_ne_nil hne)
  have hsum : lo * xs.length ≤ xs.sum := by
    rw [mul_comm, ← nsmul_eq_mul]
    exact List.card_nsmul_le_sum xs lo h
  rcases Int.le_total 0 xs.sum with hnonneg | hneg
  · rw [Int.tdiv_eq_ediv_of_nonneg hnonneg]
    exact Int.le_ediv_of_mul_le hpos hsum
  · have hopposite : (-xs.sum).tdiv xs.length ≤ -lo := by
      rw [Int.tdiv_eq_ediv_of_nonneg (by omega)]
      refine Int.ediv_le_of_le_mul hpos ?_
      rw [neg_mul]
      omega
    rw [Int.neg_tdiv] at hopposite
    omega

/-- What is above all values is above their average. -/
theorem average_le {hi : ℤ} (hne : xs ≠ []) (h : ∀ x ∈ xs, x ≤ hi) :
    xs.sum.tdiv xs.length ≤ hi := by
  have hopposite := @le_average (xs.map Neg.neg) (-hi) (mt List.map_eq_nil_iff.mp hne) (by
    intro y hy
    obtain ⟨x, hx, rfl⟩ := List.mem_map.mp hy
    exact Int.neg_le_neg (h x hx))
  rw [← List.sum_neg, List.length_map, Int.neg_tdiv] at hopposite
  omega

/-- **Some value is at most the average.** -/
theorem exists_le_average (hne : xs ≠ []) : ∃ x ∈ xs, x ≤ xs.sum.tdiv xs.length := by
  by_contra hall
  push Not at hall
  exact absurd (le_average hne hall) (by omega)

/-- **Some value is at least the average.** -/
theorem exists_average_le (hne : xs ≠ []) : ∃ x ∈ xs, xs.sum.tdiv xs.length ≤ x := by
  by_contra hall
  push Not at hall
  have := @average_le xs (xs.sum.tdiv xs.length - 1) hne fun x hx => by
    have := hall x hx
    omega
  omega

end Average

end SlidingSum

end VehicleStack
