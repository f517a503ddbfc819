import Mathlib.Data.List.Basic

/-!
# Frames in a stream

A stream of items is cut into frames of a fixed length: everything up to a header
is skipped, the header and the `more` items after it are a frame, and the search
starts over behind them (`VehicleStack.Framing.frames`). What is left at the end of
the stream is the beginning of a frame that is not complete
(`VehicleStack.Framing.pending`).

A receiver does not have the stream, but gets it item by item, with nothing but the
incomplete frame to remember (`VehicleStack.Framing.feed`). That it finds the same
frames is `VehicleStack.Framing.frames_concat` with
`VehicleStack.Framing.pending_concat`.
-/

namespace VehicleStack

namespace Framing

variable {α : Type*} (isHeader : α → Prop) [DecidablePred isHeader] (more : ℕ)

/-- The frames of a stream. -/
def frames : List α → List (List α)
  | [] => []
  | x :: xs =>
    if isHeader x then
      if xs.length < more then [] else (x :: xs.take more) :: frames (xs.drop more)
    else frames xs
termination_by s => s.length
decreasing_by all_goals
  simp only [List.length_cons, List.length_drop]
  omega

/-- The beginning of a frame at the end of a stream. -/
def pending : List α → List α
  | [] => []
  | x :: xs =>
    if isHeader x then if xs.length < more then x :: xs else pending (xs.drop more)
    else pending xs
termination_by s => s.length
decreasing_by all_goals
  simp only [List.length_cons, List.length_drop]
  omega

/-- One more item for a receiver that remembers the incomplete frame: what it then
remembers, and the frame that became complete. -/
def feed (rest : List α) (x : α) : List α × Option (List α) :=
  if rest = [] then if isHeader x then ([x], none) else ([], none)
  else if rest.length < more then (rest ++ [x], none)
  else ([], some (rest ++ [x]))

@[simp]
theorem frames_nil : frames isHeader more [] = [] := by rw [frames]

@[simp]
theorem pending_nil : pending isHeader more [] = [] := by rw [pending]

/-- An incomplete frame begins with a header and lacks an item. -/
theorem pending_eq_nil_or (s : List α) : pending isHeader more s = [] ∨
    ∃ x xs, pending isHeader more s = x :: xs ∧ isHeader x ∧ xs.length < more := by
  induction s using frames.induct isHeader more with
  | case1 => exact Or.inl (pending_nil _ _)
  | case2 x xs hx hshort =>
    rw [pending, if_pos hx, if_pos hshort]
    exact Or.inr ⟨x, xs, rfl, hx, hshort⟩
  | case3 x xs hx hlong ih =>
    rw [pending, if_pos hx, if_neg hlong]
    exact ih
  | case4 x xs hx ih =>
    rw [pending, if_neg hx]
    exact ih

variable {isHeader more}

/-- An incomplete frame and one more item. -/
theorem feed_cons (x y : α) (xs : List α) :
    feed isHeader more (x :: xs) y =
      if (xs ++ [y]).length < more then (x :: (xs ++ [y]), none)
      else ([], some (x :: (xs ++ [y]))) := by
  rw [feed, if_neg (List.cons_ne_nil x xs), List.length_append, List.length_singleton,
    List.length_cons, List.cons_append]

/-- **The receiver remembers the incomplete frame** at the end of what it got. -/
theorem pending_concat (hmore : 0 < more) (s : List α) (y : α) :
    pending isHeader more (s ++ [y]) = (feed isHeader more (pending isHeader more s) y).1 := by
  induction s using frames.induct isHeader more with
  | case1 =>
    rw [List.nil_append, pending_nil, pending, feed, if_pos rfl]
    by_cases hy : isHeader y
    · rw [if_pos hy, if_pos hy, List.length_nil, if_pos hmore]
    · rw [if_neg hy, if_neg hy, pending_nil]
  | case2 x xs hx hshort =>
    have hbefore : pending isHeader more (x :: xs) = x :: xs := by
      rw [pending, if_pos hx, if_pos hshort]
    rw [hbefore, feed_cons, List.cons_append, pending, if_pos hx]
    split
    · rfl
    · rw [List.drop_of_length_le (by rw [List.length_append, List.length_singleton]; omega),
        pending_nil]
  | case3 x xs hx hlong ih =>
    have hbefore : pending isHeader more (x :: xs) = pending isHeader more (xs.drop more) := by
      rw [pending, if_pos hx, if_neg hlong]
    have hlong' : ¬ (xs ++ [y]).length < more := by
      rw [List.length_append]
      omega
    rw [hbefore, ← ih, List.cons_append, pending, if_pos hx, if_neg hlong',
      List.drop_append_of_le_length (by omega)]
  | case4 x xs hx ih =>
    have hbefore : pending isHeader more (x :: xs) = pending isHeader more xs := by
      rw [pending, if_neg hx]
    rw [hbefore, ← ih, List.cons_append, pending, if_neg hx]

/-- **The receiver completes the frames of the stream**, each with its last item. -/
theorem frames_concat (hmore : 0 < more) (s : List α) (y : α) :
    frames isHeader more (s ++ [y]) =
      frames isHeader more s ++ (feed isHeader more (pending isHeader more s) y).2.toList := by
  induction s using frames.induct isHeader more with
  | case1 =>
    rw [List.nil_append, pending_nil, frames_nil, frames, feed, if_pos rfl]
    by_cases hy : isHeader y
    · rw [if_pos hy, if_pos hy, List.length_nil, if_pos hmore]
      rfl
    · rw [if_neg hy, if_neg hy, frames_nil]
      rfl
  | case2 x xs hx hshort =>
    have hbefore : pending isHeader more (x :: xs) = x :: xs := by
      rw [pending, if_pos hx, if_pos hshort]
    have hnone : frames isHeader more (x :: xs) = [] := by rw [frames, if_pos hx, if_pos hshort]
    rw [hbefore, feed_cons, hnone, List.cons_append, frames, if_pos hx]
    split
    · rfl
    · have hlen : (xs ++ [y]).length = more := by
        rw [List.length_append, List.length_singleton] at *
        omega
      rw [List.drop_of_length_le (Nat.le_of_eq hlen), frames_nil,
        List.take_of_length_le (Nat.le_of_eq hlen)]
      rfl
  | case3 x xs hx hlong ih =>
    have hbefore : pending isHeader more (x :: xs) = pending isHeader more (xs.drop more) := by
      rw [pending, if_pos hx, if_neg hlong]
    have hfirst : frames isHeader more (x :: xs) =
        (x :: xs.take more) :: frames isHeader more (xs.drop more) := by
      rw [frames, if_pos hx, if_neg hlong]
    have hlong' : ¬ (xs ++ [y]).length < more := by
      rw [List.length_append]
      omega
    rw [hbefore, hfirst, List.cons_append, List.cons_append, ← ih, frames, if_pos hx,
      if_neg hlong', List.drop_append_of_le_length (by omega),
      List.take_append_of_le_length (by omega)]
  | case4 x xs hx ih =>
    have hbefore : pending isHeader more (x :: xs) = pending isHeader more xs := by
      rw [pending, if_neg hx]
    have hsame : frames isHeader more (x :: xs) = frames isHeader more xs := by
      rw [frames, if_neg hx]
    rw [hbefore, hsame, ← ih, List.cons_append, frames, if_neg hx]

end Framing

end VehicleStack
