import Mathlib.Data.List.Basic
import Mathlib.Data.List.Chain
import Mathlib.Data.List.Induction
import Mathlib.Data.List.Range

/-!
# Taking the next expected item from a stream

A receiver that knows in which order numbers come waits for the next one and
ignores every item with another number. `VehicleStack.Subsequence.taken` is what
it has taken from a stream, for items `β` numbered by `key` and expected numbers
`e 0, e 1, …`. The numbers may come round again: nothing is assumed of `e` but,
where it is needed, that neighbours in it differ.

* `VehicleStack.Subsequence.le_length_taken_iff` – the receiver gets as far as
  some place exactly when the numbers up to there are a subsequence of the stream;
* `VehicleStack.Subsequence.taken_repeated` – a stream that brings every item, in
  order and any number of times each, is taken once over;
* `VehicleStack.Subsequence.length_taken_lt_of_missing` – a stream that brings the
  items in order but leaves one out never gets the receiver to the end. However
  the numbers come round, there are not enough of them left.
-/

namespace VehicleStack

namespace Subsequence

open List

variable {α β : Type*}

variable [DecidableEq α] (e : ℕ → α) (key : β → α)

/-- The items taken from a stream, in order: an item is taken if it carries the
number that is due. -/
def taken (s : List β) : List β :=
  s.foldl (fun acc y => if key y = e acc.length then acc ++ [y] else acc) []

@[simp]
theorem taken_nil : taken e key [] = [] := rfl

theorem taken_concat (s : List β) (y : β) :
    taken e key (s ++ [y]) =
      if key y = e (taken e key s).length then taken e key s ++ [y] else taken e key s := by
  rw [taken, foldl_append]
  rfl

variable {e key}

theorem taken_concat_due {s : List β} {y : β} (h : key y = e (taken e key s).length) :
    taken e key (s ++ [y]) = taken e key s ++ [y] := by
  rw [taken_concat, if_pos h]

theorem taken_concat_ignored {s : List β} {y : β} (h : key y ≠ e (taken e key s).length) :
    taken e key (s ++ [y]) = taken e key s := by
  rw [taken_concat, if_neg h]

theorem length_taken_le_concat (s : List β) (y : β) :
    (taken e key s).length ≤ (taken e key (s ++ [y])).length := by
  rw [taken_concat]
  split <;> simp

/-- The numbers the receiver has waited for are a subsequence of those that came. -/
theorem sublist_of_le_length_taken {m : ℕ} {s : List β} (h : m ≤ (taken e key s).length) :
    (range m).map e <+ s.map key := by
  induction s using List.reverseRecOn generalizing m with
  | nil =>
    obtain rfl : m = 0 := Nat.le_zero.mp h
    exact Sublist.refl []
  | append_singleton s y ih =>
    rw [map_append, map_singleton]
    rcases Nat.lt_or_ge (taken e key s).length m with hnew | hold
    · -- the last item is the one that gets the receiver this far
      have hdue : key y = e (taken e key s).length := by
        by_contra hne
        rw [taken_concat_ignored hne] at h
        omega
      have hm : m = (taken e key s).length + 1 := by
        rw [taken_concat_due hdue, length_append, length_singleton] at h
        omega
      rw [hm, range_succ, map_append, map_singleton, hdue]
      exact (ih le_rfl).append (Sublist.refl _)
    · exact (ih hold).trans (sublist_append_left _ _)

/-- The receiver has taken an item for every number of such a subsequence. -/
theorem le_length_taken_of_sublist {m : ℕ} {s : List β} (h : (range m).map e <+ s.map key) :
    m ≤ (taken e key s).length := by
  induction s using List.reverseRecOn generalizing m with
  | nil => simpa using h.length_le
  | append_singleton s y ih =>
    rw [map_append, map_singleton] at h
    obtain ⟨l₁, l₂, hl, h₁, h₂⟩ := sublist_append_iff.mp h
    rcases sublist_singleton.mp h₂ with rfl | rfl
    · rw [append_nil] at hl
      exact (ih (hl ▸ h₁)).trans (length_taken_le_concat s y)
    · -- the subsequence ends with the last item
      obtain ⟨k, rfl⟩ : ∃ k, m = k + 1 := by
        cases m with
        | zero => simp at hl
        | succ k => exact ⟨k, rfl⟩
      rw [range_succ, map_append, map_singleton] at hl
      obtain ⟨hinit, hlast⟩ := append_inj' hl rfl
      have hk : k ≤ (taken e key s).length := ih (hinit ▸ h₁)
      rcases hk.lt_or_eq with hlt | heq
      · exact le_trans hlt (length_taken_le_concat s y)
      · have hdue : key y = e (taken e key s).length := by
          rw [← heq]
          exact (cons.inj hlast).1.symm
        rw [taken_concat_due hdue, length_append, length_singleton, heq]

/-- **How far the receiver gets**: it has taken `m` items exactly when the first
`m` numbers are a subsequence of the numbers that came. -/
theorem le_length_taken_iff {m : ℕ} {s : List β} :
    m ≤ (taken e key s).length ↔ (range m).map e <+ s.map key :=
  ⟨sublist_of_le_length_taken, le_length_taken_of_sublist⟩

/-! ### Streams that repeat items in place and leave items out -/

/-- The stream in which each item comes as many times as its count says. -/
def repeated (ys : List (β × ℕ)) : List β := ys.flatMap fun p => replicate p.2 p.1

@[simp]
theorem repeated_nil : repeated ([] : List (β × ℕ)) = [] := rfl

theorem repeated_concat (ys : List (β × ℕ)) (p : β × ℕ) :
    repeated (ys ++ [p]) = repeated ys ++ replicate p.2 p.1 := by
  rw [repeated, flatMap_append, flatMap_singleton]
  rfl

theorem map_repeated {γ : Type*} (f : β → γ) (ys : List (β × ℕ)) :
    (repeated ys).map f = repeated (ys.map fun p => (f p.1, p.2)) := by
  simp only [repeated, map_flatMap, flatMap_map, map_replicate]

/-- An item that is not due is ignored however often it comes. -/
theorem taken_append_ignored {s : List β} {y : β} (c : ℕ)
    (h : key y ≠ e (taken e key s).length) :
    taken e key (s ++ replicate c y) = taken e key s := by
  induction c with
  | zero => rw [replicate_zero, append_nil]
  | succ c ih =>
    rw [replicate_succ', ← append_assoc, taken_concat_ignored (ih.symm ▸ h), ih]

/-- An item that is due is taken once, if the next number is another one. -/
theorem taken_append_due {s : List β} {y : β} {c : ℕ} (hc : c ≠ 0)
    (h : key y = e (taken e key s).length)
    (hnext : e (taken e key s).length ≠ e ((taken e key s).length + 1)) :
    taken e key (s ++ replicate c y) = taken e key s ++ [y] := by
  obtain ⟨c, rfl⟩ := Nat.exists_eq_succ_of_ne_zero hc
  have hfirst := taken_concat_due h
  rw [replicate_succ, ← singleton_append, ← append_assoc, taken_append_ignored c, hfirst]
  rw [hfirst, length_append, length_singleton, h]
  exact hnext

/-- **A stream that brings every item in order is taken once over**, however often
each of them comes. -/
theorem taken_repeated (hne : ∀ n, e n ≠ e (n + 1)) {ys : List (β × ℕ)}
    (hkeys : ys.map (key ∘ Prod.fst) = (range ys.length).map e) (hall : ∀ p ∈ ys, p.2 ≠ 0) :
    taken e key (repeated ys) = ys.map Prod.fst := by
  induction ys using List.reverseRecOn with
  | nil => rfl
  | append_singleton ys p ih =>
    rw [map_append, map_singleton, length_append, length_singleton, range_succ, map_append,
      map_singleton] at hkeys
    obtain ⟨hinit, hlast⟩ := append_inj' hkeys rfl
    have hih := ih hinit fun q hq => hall q (mem_append_left _ hq)
    have hdue : key p.1 = e (taken e key (repeated ys)).length := by
      rw [hih, length_map]
      exact (cons.inj hlast).1
    rw [repeated_concat, taken_append_due (hall p (by simp)) hdue (hne _), hih, map_append,
      map_singleton]

omit [DecidableEq α] in
/-- Letters no two neighbours of which agree, found in order in a stream of
blocks, are no more than the blocks that are there. -/
theorem length_le_of_sublist_repeated {w : List α} {ys : List (β × ℕ)}
    (hw : w.IsChain (· ≠ ·)) (h : w <+ (repeated ys).map key) :
    w.length ≤ (ys.filter fun p => p.2 ≠ 0).length := by
  induction ys generalizing w with
  | nil => simpa using h.length_le
  | cons p ys ih =>
    have hsplit : (repeated (p :: ys)).map key =
        replicate p.2 (key p.1) ++ (repeated ys).map key := by
      rw [repeated, flatMap_cons, map_append, map_replicate]
      rfl
    obtain ⟨l₁, l₂, rfl, h₁, h₂⟩ := sublist_append_iff.mp (hsplit ▸ h)
    have hrest := ih (isChain_append.mp hw).2.1 h₂
    have hblock : l₁.length ≤ ([p].filter fun p => p.2 ≠ 0).length := by
      obtain ⟨k, hk, rfl⟩ := sublist_replicate_iff.mp h₁
      rw [length_replicate]
      rcases Nat.eq_zero_or_pos p.2 with hz | hpos
      · omega
      · have hone : k ≤ 1 := by
          by_contra hk2
          obtain ⟨j, rfl⟩ : ∃ j, k = j + 2 := ⟨k - 2, by omega⟩
          have hchain := (isChain_append.mp hw).1
          rw [replicate_succ, replicate_succ, isChain_cons_cons] at hchain
          exact hchain.1 rfl
        rw [filter_cons_of_pos (by simp; omega)]
        simpa using hone
    rw [length_append, ← singleton_append, filter_append, length_append]
    exact Nat.add_le_add hblock hrest

/-- **A stream that leaves an item out does not get the receiver to the end.** -/
theorem length_taken_lt_of_missing (hne : ∀ n, e n ≠ e (n + 1)) {ys : List (β × ℕ)}
    (hmiss : ∃ p ∈ ys, p.2 = 0) : (taken e key (repeated ys)).length < ys.length := by
  by_contra hle
  have hsub := le_length_taken_iff.mp (not_lt.mp hle)
  have hchain : ((range ys.length).map e).IsChain (· ≠ ·) := by
    rw [isChain_map]
    exact (isChain_range _ _).mpr fun n _ => hne n
  have hcount := length_le_of_sublist_repeated hchain hsub
  rw [length_map, length_range] at hcount
  obtain ⟨p, hp, hzero⟩ := hmiss
  have hfull := filter_eq_self.mp (filter_sublist.eq_of_length_le hcount) p hp
  simp [hzero] at hfull

end Subsequence

end VehicleStack
