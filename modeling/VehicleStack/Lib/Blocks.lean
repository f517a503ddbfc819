import Mathlib.Data.List.Basic
import VehicleStack.Lib.Terminated

/-!
# Texts in blocks

A text that is sent in blocks of a limited length, and a way to read one from a place in it on.

A sender that cuts each text by `List.toChunks` and puts an empty block behind it can be
understood: cut at the empty blocks and put together, the blocks are the texts again
(`VehicleStack.Blocks.texts_flatMap_framed`). A reader that asks for what comes behind all it has,
and gets of each answer as much as the link passes on, has the text once it gets nothing more
(`VehicleStack.Blocks.eq_of_slice_eq_nil`).
-/

namespace VehicleStack

namespace Blocks

open List

variable {α : Type*}

/-! ### Cutting -/

/-- What is still to be cut, behind what has been. -/
theorem flatten_go (n : ℕ) (xs : List α) (block : Array α) (blocks : Array (List α)) :
    (toChunks.go n xs block blocks).flatten =
      blocks.toList.flatten ++ block.toList ++ xs := by
  induction xs generalizing block blocks with
  | nil => simp [toChunks.go]
  | cons x xs ih =>
    rw [toChunks.go]
    split_ifs
    · rw [ih]
      simp
    · rw [ih]
      simp

/-- The blocks, put together, are the text. -/
theorem flatten_toChunks (n : ℕ) (xs : List α) : (xs.toChunks n).flatten = xs := by
  rcases xs with _ | ⟨x, xs⟩
  · cases n <;> rfl
  · rcases n with _ | n
    · exact append_nil _
    · exact flatten_go (n + 1) xs #[x] #[]

theorem forall_mem_go {n : ℕ} (hn : 0 < n) {xs : List α} {block : Array α}
    {blocks : Array (List α)} (hblock : 0 < block.size ∧ block.size ≤ n)
    (hblocks : ∀ b ∈ blocks.toList, b ≠ [] ∧ b.length ≤ n) :
    ∀ b ∈ toChunks.go n xs block blocks, b ≠ [] ∧ b.length ≤ n := by
  have hpush : ∀ block : Array α, 0 < block.size ∧ block.size ≤ n →
      ∀ blocks : Array (List α), (∀ b ∈ blocks.toList, b ≠ [] ∧ b.length ≤ n) →
      ∀ b ∈ (blocks.push block.toList).toList, b ≠ [] ∧ b.length ≤ n := by
    rintro block ⟨hpos, hle⟩ blocks hblocks b hb
    rw [Array.toList_push] at hb
    rcases mem_append.mp hb with hold | hnew
    · exact hblocks b hold
    · rw [mem_singleton.mp hnew, Array.length_toList]
      exact ⟨ne_nil_of_length_pos (by rwa [Array.length_toList]), hle⟩
  induction xs generalizing block blocks with
  | nil => exact hpush block hblock blocks hblocks
  | cons x xs ih =>
    rw [toChunks.go]
    split_ifs with hfull
    · -- the block is full, and the next one begins
      refine ih ?_ (hpush block hblock blocks hblocks)
      simp
      omega
    · refine ih ?_ hblocks
      rw [beq_iff_eq] at hfull
      rw [Array.size_push]
      omega

/-- No block is empty, and none is too long. -/
theorem forall_mem_toChunks {n : ℕ} (hn : 0 < n) (xs : List α) :
    ∀ b ∈ xs.toChunks n, b ≠ [] ∧ b.length ≤ n := by
  rcases xs with _ | ⟨x, xs⟩
  · intro b hb
    cases n <;> exact absurd hb not_mem_nil
  · rcases n with _ | n
    · exact absurd hn (Nat.lt_irrefl 0)
    · exact forall_mem_go hn ⟨Nat.one_pos, hn⟩ fun b hb => absurd hb not_mem_nil

/-! ### Blocks with ends -/

/-- A text in blocks, with an empty block behind them. -/
def framed (n : ℕ) (xs : List α) : List (List α) := xs.toChunks n ++ [[]]

theorem length_le_of_mem_framed {n : ℕ} (hn : 0 < n) {xs b : List α} (h : b ∈ framed n xs) :
    b.length ≤ n := by
  rcases mem_append.mp h with hblock | hend
  · exact (forall_mem_toChunks hn xs b hblock).2
  · rw [mem_singleton.mp hend]
    exact Nat.zero_le n

/-- **Texts in blocks are found again**, each at its end. -/
theorem texts_flatMap_framed {n : ℕ} (hn : 0 < n) (ts : List (List α)) :
    (Terminated.texts isEmpty (ts.flatMap (framed n))).map flatten = ts ∧
      Terminated.pending isEmpty (ts.flatMap (framed n)) = [] := by
  obtain ⟨htexts, hpending⟩ := @Terminated.texts_flatMap _ _ isEmpty (framed n) ts
    fun t _ => ⟨t.toChunks n, [], rfl, rfl, fun b hb =>
      isEmpty_eq_false_iff.mpr (forall_mem_toChunks hn t b hb).1⟩
  refine ⟨?_, hpending⟩
  rw [htexts, map_map]
  refine (map_congr_left fun t _ => ?_).trans (map_id ts)
  rw [Function.comp_apply, framed, dropLast_concat, flatten_toChunks, id]

/-! ### Reading from a place on -/

/-- The part of a text behind so many items, at most so long. -/
def slice (xs : List α) (offset n : ℕ) : List α := (xs.drop offset).take n

/-- What a reader has, and some of what comes behind it. -/
theorem append_take_slice_prefix {xs got : List α} (h : got <+: xs) (n passed : ℕ) :
    got ++ (slice xs got.length n).take passed <+: xs := by
  obtain ⟨rest, rfl⟩ := h
  rw [slice, drop_left, take_take, prefix_append_right_inj]
  exact take_prefix _ _

/-- **A reader to whom nothing more comes has the text.** -/
theorem eq_of_slice_eq_nil {xs got : List α} (h : got <+: xs) {n : ℕ} (hn : 0 < n)
    (hnil : slice xs got.length n = []) : got = xs := by
  obtain ⟨rest, rfl⟩ := h
  rw [slice, drop_left, take_eq_nil_iff] at hnil
  rcases hnil with hzero | hrest
  · omega
  · rw [hrest, append_nil]

end Blocks

end VehicleStack
