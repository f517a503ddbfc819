import VehicleStack.Lib.SlidingSum
import VehicleStack.Ecu.Ultrasonic

/-!
# The moving average

The whole of `avg_filter.c`: what makes a filter and what empties it, beside
`VehicleStack.Ecu.AverageFilter.update`. The sum has 64 bits and the values have 32, and
the sum is kept from one call to the next, so it is right only if it was right at every
call before.

A filter keeps the sum over a sliding window of its values since the last reset
(`VehicleStack.Ecu.AverageFilter.Known`). The main result is
`VehicleStack.Ecu.AverageFilter.averages_after`: after every sequence of updates and
resets the next update returns the average of its window, with no operation that
overflows or divides by zero.
-/

namespace VehicleStack

namespace Ecu

namespace AverageFilter

/-- The loop that clears the first cells. -/
def cleared (buffer : ℕ → Int32) (size : ℕ) : ℕ → Int32 :=
  fun i => if i < size then 0 else buffer i

/-- `Filter_Init`, with what it returns. -/
def init (f : AverageFilter) (size : ℤ) : AverageFilter × Bool :=
  if size ≤ 0 ∨ avgFilterMaxBufSize < size then (f, false)
  else
    ({ buffer := cleared f.buffer size.toNat
       filterSize := size.toNat
       nextIndex := 0
       dataCnt := 0
       sum := 0 }, true)

/-- `Filter_Reset`, with what it returns. -/
def reset (f : AverageFilter) : AverageFilter × Bool :=
  ({ f with
      buffer := cleared f.buffer f.filterSize
      nextIndex := 0
      dataCnt := 0
      sum := 0 }, true)

/-- A call of `Filter_Update` or `Filter_Reset`. -/
inductive Call where
  | update (newValue : Int32)
  | reset

/-- What a call leaves. -/
def step (f : AverageFilter) : Call → AverageFilter
  | .update newValue => (f.update newValue).1
  | .reset => f.reset.1

/-- The filter after some calls. -/
def after (f : AverageFilter) (calls : List Call) : AverageFilter := calls.foldl step f

/-- The values since the last reset. -/
def sinceReset (calls : List Call) : List Int32 :=
  calls.foldl (fun values call =>
    match call with
    | .update newValue => values ++ [newValue]
    | .reset => []) []

/-- A number of 64 bits with a sign. -/
def InRange (n : ℤ) : Prop := -2 ^ 63 ≤ n ∧ n < 2 ^ 63

/-- Neither operation of `Filter_Update` on the sum overflows. -/
def NoOverflow (f : AverageFilter) (newValue : Int32) : Prop :=
  let kept := if f.dataCnt < f.filterSize then f.sum.toInt
    else f.sum.toInt - (f.buffer f.nextIndex).toInt
  InRange kept ∧ InRange (kept + newValue.toInt)

/-- **The next update averages its window.** -/
structure Averages (f : AverageFilter) (newValue : Int32) (window : List Int32) : Prop where
  /-- The cell that is read and written is in the array. -/
  inside : f.nextIndex < avgFilterMaxBufSize
  noOverflow : NoOverflow f newValue
  /-- The sum is divided by the number of values. -/
  divisor : (f.update newValue).1.dataCnt = window.length
  nonzero : 0 < window.length
  average : (f.update newValue).2.toInt = (window.map Int32.toInt).sum.tdiv window.length
  least : ∃ value ∈ window, value.toInt ≤ (f.update newValue).2.toInt
  greatest : ∃ value ∈ window, (f.update newValue).2.toInt ≤ value.toInt

/-! ### A filter keeps a sum over a window -/

/-- The integers in a filter. -/
def sliding (f : AverageFilter) : SlidingSum ℤ where
  cells := fun i => (f.buffer i).toInt
  next := f.nextIndex
  count := f.dataCnt
  sum := f.sum.toInt

/-- **What is known of a filter**: it keeps the sum over a window of its values. -/
structure Known (size : ℕ) (f : AverageFilter) (values : List Int32) : Prop where
  filterSize : f.filterSize = size
  holds : f.sliding.Holds size (values.map Int32.toInt)

variable {size : ℕ} {f : AverageFilter} {values : List Int32}

/-- The sum of a few numbers of 32 bits. -/
theorem sum_bounds (values : List Int32) :
    values.length * -2 ^ 31 ≤ (values.map Int32.toInt).sum ∧
      (values.map Int32.toInt).sum ≤ values.length * (2 ^ 31 : ℤ) := by
  have hlo : ∀ x ∈ values.map Int32.toInt, -2 ^ 31 ≤ x := by
    intro x hx
    obtain ⟨value, -, rfl⟩ := List.mem_map.mp hx
    exact value.le_toInt
  have hhi : ∀ x ∈ values.map Int32.toInt, x ≤ 2 ^ 31 := by
    intro x hx
    obtain ⟨value, -, rfl⟩ := List.mem_map.mp hx
    exact value.toInt_lt.le
  have hcard := List.card_nsmul_le_sum _ _ hlo
  have hcard' := List.sum_le_card_nsmul _ _ hhi
  rw [List.length_map, nsmul_eq_mul] at hcard hcard'
  exact ⟨hcard, hcard'⟩

/-- A number in range is kept. -/
theorem bmod_of_inRange {n : ℤ} (h : InRange n) : n.bmod (2 ^ 64) = n :=
  Int.bmod_eq_of_le (by have := h.1; omega) (by have := h.2; omega)

/-- A quotient that is between two numbers of 32 bits fits in 32 bits. -/
theorem toInt_quotient {sum : Int64} {n : ℕ} (hn : n ≤ 16) {least greatest : Int32}
    (hleast : least.toInt ≤ sum.toInt.tdiv n) (hgreatest : sum.toInt.tdiv n ≤ greatest.toInt) :
    (sum / Int64.ofNat n).toInt32.toInt = sum.toInt.tdiv n := by
  have hdivisor : (Int64.ofNat n).toInt = n := Int64.toInt_ofNat_of_lt (by omega)
  have hnever : Int64.ofNat n ≠ -1 := by
    intro heq
    have hminus : (-1 : Int64).toInt = -1 := by decide
    rw [heq, hminus] at hdivisor
    omega
  have hlow := least.le_toInt
  have hhigh := greatest.toInt_lt
  rw [Int64.toInt_toInt32, Int64.toInt_div_of_ne_right _ _ hnever, hdivisor]
  exact Int.bmod_eq_of_le (by omega) (by omega)

theorem known_reset (h : f.filterSize = size) : Known size f.reset.1 [] where
  filterSize := h
  holds := SlidingSum.holds_nil size _

theorem known_init (f : AverageFilter) {size : ℕ} (hlo : 1 ≤ size) (hhi : size ≤ 16) :
    (f.init size).2 = true ∧ Known size (f.init size).1 [] := by
  have hrange : ¬ ((size : ℤ) ≤ 0 ∨ (avgFilterMaxBufSize : ℤ) < size) := by
    rw [avgFilterMaxBufSize]
    omega
  rw [init, if_neg hrange]
  exact ⟨rfl, rfl, SlidingSum.holds_nil size _⟩

section Update

variable (hlo : 1 ≤ size) (hhi : size ≤ 16) (h : Known size f values)

include hlo hhi h

/-- No operation on the sum overflows. -/
theorem Known.noOverflow (newValue : Int32) : NoOverflow f newValue := by
  have hkept : f.sliding.kept size = ((values.rtake (size - 1)).map Int32.toInt).sum := by
    rw [h.holds.kept hlo, List.rtake, List.rtake, List.map_drop, List.length_map]
  have hlength : (values.rtake (size - 1)).length ≤ 15 := by
    rw [List.rtake, List.length_drop]
    omega
  have hbounds := sum_bounds (values.rtake (size - 1))
  have hvalue := newValue.le_toInt
  have hvalue' := newValue.toInt_lt
  rw [← hkept] at hbounds
  rw [NoOverflow, h.filterSize]
  show InRange (f.sliding.kept size) ∧ InRange (f.sliding.kept size + newValue.toInt)
  rw [InRange, InRange]
  omega

/-- What `Filter_Update` computes, without its guard. -/
theorem Known.update_eq (newValue : Int32) : f.update newValue =
    let sum := (if f.dataCnt < size then f.sum else f.sum - (f.buffer f.nextIndex).toInt64) +
      newValue.toInt64
    let dataCnt := if f.dataCnt < size then f.dataCnt + 1 else f.dataCnt
    ({ buffer := Function.update f.buffer f.nextIndex newValue
       filterSize := size
       nextIndex := (f.nextIndex + 1) % size
       dataCnt := dataCnt
       sum := sum }, (sum / Int64.ofNat dataCnt).toInt32) := by
  have hguard : ¬ (f.filterSize = 0 ∨ avgFilterMaxBufSize < f.filterSize) := by
    rw [h.filterSize, avgFilterMaxBufSize]
    omega
  rw [update, if_neg hguard, h.filterSize]
  by_cases hfill : f.dataCnt < size
  · simp only [hfill, not_true_eq_false, if_true, if_false]
  · simp only [hfill, not_false_iff, if_true, if_false]

/-- The sum is computed without an overflow. -/
theorem Known.toInt_sum (newValue : Int32) :
    ((if f.dataCnt < size then f.sum else f.sum - (f.buffer f.nextIndex).toInt64) +
      newValue.toInt64).toInt = f.sliding.kept size + newValue.toInt := by
  obtain ⟨hkept, hsum⟩ := h.noOverflow hlo hhi newValue
  have htaken : (if f.dataCnt < size then f.sum
      else f.sum - (f.buffer f.nextIndex).toInt64).toInt = f.sliding.kept size := by
    rw [h.filterSize] at hkept
    show _ = if f.dataCnt < size then f.sum.toInt
      else f.sum.toInt - (f.buffer f.nextIndex).toInt
    split at hkept
    · rename_i hfill
      rw [if_pos hfill, if_pos hfill]
    · rename_i hfull
      rw [if_neg hfull, if_neg hfull, Int64.toInt_sub, Int32.toInt_toInt64]
      exact bmod_of_inRange hkept
  rw [Int64.toInt_add, htaken, Int32.toInt_toInt64]
  rw [h.filterSize] at hsum
  exact bmod_of_inRange hsum

/-- **An update moves the window by one.** -/
theorem Known.update (newValue : Int32) :
    Known size (f.update newValue).1 (values ++ [newValue]) := by
  have hsliding : (f.update newValue).1.sliding = f.sliding.push size newValue.toInt := by
    have hsum := h.toInt_sum hlo hhi newValue
    rw [h.update_eq hlo hhi]
    exact SlidingSum.ext (Function.comp_update Int32.toInt ..) rfl rfl hsum
  refine ⟨?_, ?_⟩
  · rw [h.update_eq hlo hhi]
  · rw [hsliding, List.map_append]
    exact h.holds.push hlo newValue.toInt

/-- **What an update returns** is the average of its window. -/
theorem Known.averages (newValue : Int32) :
    Averages f newValue ((values ++ [newValue]).rtake size) := by
  obtain ⟨window, hwindow⟩ : ∃ window, window = (values ++ [newValue]).rtake size := ⟨_, rfl⟩
  rw [← hwindow]
  have hnew := h.update hlo hhi newValue
  have hints : window.map Int32.toInt = ((values ++ [newValue]).map Int32.toInt).rtake size := by
    rw [hwindow, List.rtake, List.rtake, List.map_drop, List.length_map]
  have hlength : window.length = min (values.length + 1) size := by
    rw [hwindow, List.rtake, List.length_drop, List.length_append, List.length_singleton]
    omega
  have hcount : (f.update newValue).1.dataCnt = window.length := by
    rw [hlength]
    refine hnew.holds.count.trans ?_
    rw [List.length_map, List.length_append, List.length_singleton]
  have hsum : (f.update newValue).1.sum.toInt = (window.map Int32.toInt).sum :=
    hnew.holds.sum.trans (congrArg List.sum hints.symm)
  have hne : window.map Int32.toInt ≠ [] := by
    rw [← List.length_pos_iff, List.length_map]
    omega
  obtain ⟨x, hx, hleast⟩ := SlidingSum.exists_le_average hne
  obtain ⟨y, hy, hgreatest⟩ := SlidingSum.exists_average_le hne
  obtain ⟨least, hmem, rfl⟩ := List.mem_map.mp hx
  obtain ⟨greatest, hmem', rfl⟩ := List.mem_map.mp hy
  rw [List.length_map] at hleast hgreatest
  have haverage : (f.update newValue).2.toInt =
      (window.map Int32.toInt).sum.tdiv window.length := by
    have hanswer : (f.update newValue).2 = ((f.update newValue).1.sum /
        Int64.ofNat (f.update newValue).1.dataCnt).toInt32 := by
      rw [h.update_eq hlo hhi]
    rw [← hsum] at hleast hgreatest
    rw [hanswer, hcount, ← hsum]
    exact toInt_quotient (by omega) hleast hgreatest
  refine ⟨?_, h.noOverflow hlo hhi newValue, hcount, by omega, haverage, ⟨least, hmem, ?_⟩,
    ⟨greatest, hmem', ?_⟩⟩
  · have hnext : f.nextIndex = _ := h.holds.next
    rw [hnext]
    exact (Nat.mod_lt _ hlo).trans_le hhi
  · rwa [haverage]
  · rwa [haverage]

end Update

/-- **What is known after some calls.** -/
theorem Known.after (hlo : 1 ≤ size) (hhi : size ≤ 16) (h : Known size f []) (calls : List Call) :
    Known size (f.after calls) (sinceReset calls) := by
  induction calls using List.reverseRecOn with
  | nil => exact h
  | append_singleton calls call ih =>
    have hafter : f.after (calls ++ [call]) = (f.after calls).step call := List.foldl_concat ..
    rw [hafter, sinceReset, List.foldl_concat]
    rcases call with newValue | -
    · exact ih.update hlo hhi newValue
    · exact known_reset ih.filterSize

/-- **The moving average is the average of the window.** For every size from 1 to 16 and whatever
the record held before, `Filter_Init` succeeds, and after it and every sequence of updates and
resets the next update returns the average of the last values since then, cut towards zero: of
`size` of them, or of all if there are fewer. -/
theorem averages_after {size : ℤ} (hlo : 1 ≤ size) (hhi : size ≤ 16) (f : AverageFilter)
    (calls : List Call) (newValue : Int32) :
    (f.init size).2 = true ∧ Averages ((f.init size).1.after calls) newValue
      ((sinceReset calls ++ [newValue]).rtake size.toNat) := by
  obtain ⟨n, rfl⟩ := Int.eq_ofNat_of_zero_le (by omega : 0 ≤ size)
  have hpos : 1 ≤ n := by omega
  have hfits : n ≤ 16 := by omega
  obtain ⟨hok, hknown⟩ := known_init f hpos hfits
  exact ⟨hok, (hknown.after hpos hfits calls).averages hpos hfits newValue⟩

/-- Of the values 7 and -10 the average is -1, a reset and two other values before. -/
theorem averages_seven :
    Averages ((({ filterSize := 0 } : AverageFilter).init 2).1.after
      [.update 100, .update 3, .reset, .update 7]) (-10) [7, -10] :=
  (averages_after (by decide) (by decide) _ [.update 100, .update 3, .reset, .update 7] (-10)).2

end AverageFilter

end Ecu

end VehicleStack
