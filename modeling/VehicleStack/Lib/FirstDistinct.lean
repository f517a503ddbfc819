import Mathlib.Data.List.Basic
import Mathlib.Data.List.Induction
import Mathlib.Data.List.Nodup

/-!
# The first distinct elements of a list

A table with room for `k` entries that takes up what it has not yet seen, and takes
up nothing once it is full, holds the first `k` distinct elements of what it was
given, in the order they first came (`VehicleStack.firstDistinct`). What one more
element does to them is one lemma for each of the three things such a table does:
the element is known, there is room for it, there is none.
-/

namespace VehicleStack

/-- The first `k` distinct elements of a list, in the order they first come. -/
def firstDistinct {α : Type*} [BEq α] (k : ℕ) (l : List α) : List α := l.eraseDups.take k

variable {α : Type*} [BEq α] [LawfulBEq α] {k : ℕ} {l : List α} {a : α}

theorem eraseDups_concat_of_mem (h : a ∈ l) : (l ++ [a]).eraseDups = l.eraseDups := by
  have hgone : [a].removeAll l = [] := by simpa [List.removeAll] using h
  rw [List.eraseDups_append, hgone, List.eraseDups_nil, List.append_nil]

theorem eraseDups_concat_of_not_mem (h : a ∉ l) :
    (l ++ [a]).eraseDups = l.eraseDups ++ [a] := by
  have hkept : [a].removeAll l = [a] := by simpa [List.removeAll] using h
  rw [List.eraseDups_append, hkept, List.eraseDups_cons]
  rfl

/-- An element that is there already changes nothing. -/
theorem firstDistinct_concat_of_mem (h : a ∈ firstDistinct k l) :
    firstDistinct k (l ++ [a]) = firstDistinct k l := by
  have hmem : a ∈ l := List.mem_eraseDups.mp (List.mem_of_mem_take h)
  rw [firstDistinct, firstDistinct, eraseDups_concat_of_mem hmem]

/-- No element changes anything once there are `k`. -/
theorem firstDistinct_concat_of_full (h : k ≤ (firstDistinct k l).length) (a : α) :
    firstDistinct k (l ++ [a]) = firstDistinct k l := by
  have hfull : k ≤ l.eraseDups.length := by
    rw [firstDistinct, List.length_take] at h
    omega
  rw [firstDistinct, firstDistinct]
  by_cases ha : a ∈ l
  · rw [eraseDups_concat_of_mem ha]
  · rw [eraseDups_concat_of_not_mem ha, List.take_append_of_le_length hfull]

/-- A new element is added while there are fewer than `k`. -/
theorem firstDistinct_concat_of_room (hnew : a ∉ firstDistinct k l)
    (h : (firstDistinct k l).length < k) : firstDistinct k (l ++ [a]) =
    firstDistinct k l ++ [a] := by
  have hroom : l.eraseDups.length < k := by
    rw [firstDistinct, List.length_take] at h
    omega
  have hall : firstDistinct k l = l.eraseDups := List.take_of_length_le (Nat.le_of_lt hroom)
  have ha : a ∉ l := by
    rw [hall] at hnew
    exact fun hmem => hnew (List.mem_eraseDups.mpr hmem)
  rw [hall, firstDistinct, eraseDups_concat_of_not_mem ha]
  refine List.take_of_length_le ?_
  rw [List.length_append, List.length_singleton]
  exact hroom

/-- No element is there twice. -/
theorem nodup_firstDistinct (k : ℕ) (l : List α) : (firstDistinct k l).Nodup := by
  refine List.Nodup.sublist (List.take_sublist _ _) ?_
  induction l using List.reverseRecOn with
  | nil => exact List.nodup_nil
  | append_singleton l a ih =>
    by_cases ha : a ∈ l
    · rwa [eraseDups_concat_of_mem ha]
    · rw [eraseDups_concat_of_not_mem ha]
      rw [← List.concat_eq_append]
      exact List.Nodup.concat (fun hmem => ha (List.mem_eraseDups.mp hmem)) ih

end VehicleStack
