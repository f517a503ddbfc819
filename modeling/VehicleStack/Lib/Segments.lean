import Mathlib.Data.List.Basic

/-!
# Lists cut into segments

A list that is sent in segments of one length arrives as the beginnings of what holds
them. If every segment of the list is the beginning of its holder, then the list is the
beginning of what the holders hold together
(`VehicleStack.Segments.prefix_flatten`), and the other way round each holder can be
found again in what they hold together (`VehicleStack.Segments.segment_flatten`). What a list has
behind its last full segment is `VehicleStack.Segments.leftover`.
-/

namespace VehicleStack

namespace Segments

variable {α : Type*} {n : ℕ}

open List

/-- The beginning of a list in one holder, and the rest of it in others. -/
theorem prefix_append_of_take {xs a b : List α} (hfirst : xs.take a.length <+: a)
    (hrest : xs.drop a.length <+: b) : xs <+: a ++ b := by
  by_cases hlen : a.length ≤ xs.length
  · have htake : xs.take a.length = a :=
      hfirst.eq_of_length (by rw [length_take, Nat.min_eq_left hlen])
    rw [← take_append_drop a.length xs, htake]
    exact (prefix_append_right_inj a).mpr hrest
  · rw [take_of_length_le (by omega)] at hfirst
    exact hfirst.trans (prefix_append a b)

/-- **A list in holders**, segment by segment. -/
theorem prefix_flatten {xs : List α} {holders : List (List α)}
    (hholders : ∀ c ∈ holders, c.length = n) (hlen : xs.length ≤ n * holders.length)
    (h : ∀ k c, holders[k]? = some c → (xs.drop (n * k)).take n <+: c) :
    xs <+: holders.flatten := by
  induction holders generalizing xs with
  | nil =>
    rw [length_nil, Nat.mul_zero, Nat.le_zero, length_eq_zero_iff] at hlen
    rw [hlen]
    exact nil_prefix
  | cons c holders ih =>
    have hc : c.length = n := hholders c mem_cons_self
    have hfirst := h 0 c rfl
    rw [Nat.mul_zero, drop_zero] at hfirst
    rw [flatten_cons]
    refine prefix_append_of_take (hc.symm ▸ hfirst) (ih (fun d hd => hholders d
      (mem_cons_of_mem c hd)) ?_ ?_)
    · rw [length_cons, Nat.mul_succ] at hlen
      rw [length_drop, hc]
      omega
    · intro k d hd
      have hk := h (k + 1) d hd
      rw [Nat.mul_succ, Nat.add_comm, ← drop_drop] at hk
      rwa [hc]

/-- **A holder, found again.** -/
theorem segment_flatten {holders : List (List α)} (hholders : ∀ c ∈ holders, c.length = n)
    {k : ℕ} {c : List α} (hc : holders[k]? = some c) :
    (holders.flatten.drop (n * k)).take n = c := by
  induction holders generalizing k with
  | nil => cases hc
  | cons d holders ih =>
    have hd : d.length = n := hholders d mem_cons_self
    rw [flatten_cons]
    cases k with
    | zero =>
      obtain rfl := Option.some.inj hc
      rw [Nat.mul_zero, drop_zero, take_left' hd]
    | succ k =>
      rw [Nat.mul_succ, Nat.add_comm, ← drop_drop, drop_left' hd]
      exact ih (fun e he => hholders e (mem_cons_of_mem d he)) hc

/-! ### What is left over -/

/-- What is behind the last full segment of a list. -/
def leftover (n : ℕ) (xs : List α) : List α := xs.drop (n * (xs.length / n))

theorem length_leftover (n : ℕ) (xs : List α) : (leftover n xs).length = xs.length % n := by
  rw [leftover, length_drop, Nat.mod_def]

@[simp]
theorem leftover_nil : leftover n ([] : List α) = [] := drop_nil

theorem leftover_map {β : Type*} (f : α → β) (xs : List α) :
    leftover n (xs.map f) = (leftover n xs).map f := by
  rw [leftover, leftover, length_map, map_drop]

/-- A list shorter than a segment is left over. -/
theorem leftover_of_length_lt {xs : List α} (h : xs.length < n) : leftover n xs = xs := by
  rw [leftover, Nat.div_eq_of_lt h, Nat.mul_zero, drop_zero]

/-- **One more item** is left over too, unless it fills a segment. -/
theorem leftover_concat (hn : 0 < n) (xs : List α) (x : α) :
    leftover n (xs ++ [x]) =
      if n ≤ (leftover n xs).length + 1 then [] else leftover n xs ++ [x] := by
  have hdiv := Nat.div_add_mod xs.length n
  have hmod := Nat.mod_lt xs.length hn
  rw [length_leftover]
  split
  · rename_i hfull
    refine eq_nil_of_length_eq_zero ?_
    rw [length_leftover, length_append, length_singleton]
    have hlen : xs.length + 1 = n * (xs.length / n + 1) := by
      rw [Nat.mul_succ]
      omega
    rw [hlen, Nat.mul_mod_right]
  · rename_i hroom
    have hsame : (xs.length + 1) / n = xs.length / n := by
      refine Nat.div_eq_of_lt_le ?_ ?_
      · rw [Nat.mul_comm]
        omega
      · rw [Nat.add_mul, Nat.one_mul, Nat.mul_comm]
        omega
    rw [leftover, leftover, length_append, length_singleton, hsame,
      drop_append_of_le_length (by omega)]

end Segments

end VehicleStack
