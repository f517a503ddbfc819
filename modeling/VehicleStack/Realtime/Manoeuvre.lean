import VehicleStack.Lib.Mealy
import VehicleStack.Lib.Subsequence
import Mathlib.Data.List.Basic
import Mathlib.Order.Basic

/-!
# What a parking manoeuvre is

The manoeuvre by itself, without sensors, floats or counters of the code: a car
drives **forward** along the wall, goes **back** to the gap it has found,
**stops**, **turns** in for thirty ticks and goes back until it stands. A stage
records how far that has got as the numbers of moves made so far, so that a
stage *is* its history (`VehicleStack.Realtime.Stage.trace`), and the only choices left
are the three signals of `VehicleStack.Realtime.Signal`.

The two facts used later are that every stage's history is a beginning of a
word of the manoeuvre (`VehicleStack.Realtime.Stage.trace_prefix`), and that taking a
step appends the move made (`VehicleStack.Realtime.Stage.trace_step`); together they
give the words for every run (`VehicleStack.Realtime.Stage.outputs_prefix`).
-/

namespace VehicleStack

namespace Realtime

/-- One tick's move. -/
inductive Move where
  | forward
  | back
  | stop
  | turn
  deriving DecidableEq

/-- What the sensors say at one tick. -/
structure Signal where
  /-- The end of a long enough gap has just been passed. -/
  gapClosed : Bool
  /-- The gap is at the side of the car. -/
  beside : Bool
  /-- The rear sensor reports the safety distance. -/
  rearNear : Bool

open Move List in
/-- **A manoeuvre**: forward, back to the gap, one stop, and then either
twenty-nine turns when the safety distance is reached on the thirtieth, or
thirty turns and the way back; and it ends standing. -/
inductive IsManoeuvre : List Move → Prop where
  | early (a b n : ℕ) : IsManoeuvre (replicate (a + 1) forward ++ replicate (b + 1) back ++
      [stop] ++ replicate 29 turn ++ replicate n stop)
  | late (a b c n : ℕ) : IsManoeuvre (replicate (a + 1) forward ++ replicate (b + 1) back ++
      [stop] ++ replicate 30 turn ++ replicate c back ++ replicate n stop)

/-- How far a manoeuvre has got. -/
inductive Stage where
  /-- Looking for a gap, after `a` moves forward. -/
  | search (a : ℕ)
  /-- Backing up to the gap, `b` moves so far. -/
  | align (a b : ℕ)
  /-- Turning in, `r` moves so far. -/
  | turning (a b : ℕ) (r : Fin 30)
  /-- Going back after the thirtieth turn, `c` moves so far. -/
  | backing (a b c : ℕ)
  /-- Standing: the safety distance was reached on the thirtieth turn. -/
  | parkedEarly (a b n : ℕ)
  /-- Standing, after `c` moves back. -/
  | parkedLate (a b c n : ℕ)

namespace Stage

open Move List Subsequence

/-- The next stage and the move that leads to it. -/
def step : Stage → Signal → Stage × Move
  | search a, s => (if s.gapClosed then align a 0 else search (a + 1), forward)
  | align a 0, _ => (align a 1, back)
  | align a (b + 1), s => if s.beside then (turning a b 0, stop) else (align a (b + 2), back)
  | turning a b r, s =>
    if h : r.val < 29 then (turning a b ⟨r.val + 1, by omega⟩, turn)
    else if s.rearNear then (parkedEarly a b 0, stop) else (backing a b 0, turn)
  | backing a b c, s =>
    if s.rearNear then (parkedLate a b c 0, stop) else (backing a b (c + 1), back)
  | parkedEarly a b n, _ => (parkedEarly a b (n + 1), stop)
  | parkedLate a b c n, _ => (parkedLate a b c (n + 1), stop)

/-- The moves made to get to a stage. -/
def trace : Stage → List Move
  | search a => replicate a forward
  | align a b => replicate (a + 1) forward ++ replicate b back
  | turning a b r =>
    replicate (a + 1) forward ++ replicate (b + 1) back ++ [stop] ++ replicate r turn
  | backing a b c =>
    replicate (a + 1) forward ++ replicate (b + 1) back ++ [stop] ++ replicate 30 turn ++
      replicate c back
  | parkedEarly a b n =>
    replicate (a + 1) forward ++ replicate (b + 1) back ++ [stop] ++ replicate 29 turn ++
      replicate (n + 1) stop
  | parkedLate a b c n =>
    replicate (a + 1) forward ++ replicate (b + 1) back ++ [stop] ++ replicate 30 turn ++
      replicate c back ++ replicate (n + 1) stop

/-- The car stands for good. -/
def parked : Stage → Bool
  | parkedEarly _ _ _ => true
  | parkedLate _ _ _ _ => true
  | _ => false

/-- **The history of a stage is the beginning of a manoeuvre**: some manoeuvre
goes on from there. -/
theorem trace_prefix (st : Stage) : ∃ w, IsManoeuvre w ∧ st.trace <+: w := by
  cases st with
  | search a =>
    refine ⟨_, IsManoeuvre.early a 0 0, ?_⟩
    simp only [trace, replicate_succ' (n := a), append_assoc]
    exact prefix_append _ _
  | align a b =>
    refine ⟨_, IsManoeuvre.early a b 0, ?_⟩
    simp only [trace, replicate_succ' (n := b), ← append_assoc]
    simp only [append_assoc (replicate (a + 1) forward ++ replicate b back)]
    exact prefix_append _ _
  | turning a b r =>
    refine ⟨_, IsManoeuvre.late a b 0 0, ?_⟩
    have hr : replicate 30 turn = replicate r.val turn ++ replicate (30 - r.val) turn := by
      rw [← replicate_add, Nat.add_sub_cancel' (Nat.le_of_lt r.isLt)]
    simp only [trace, hr, append_assoc]
    simp only [← append_assoc]
    simp only [append_assoc
      (replicate (a + 1) forward ++ replicate (b + 1) back ++ [stop] ++ replicate r.val turn)]
    exact prefix_append _ _
  | backing a b c =>
    exact ⟨_, IsManoeuvre.late a b c 0, prefix_append _ _⟩
  | parkedEarly a b n => exact ⟨_, IsManoeuvre.early a b (n + 1), prefix_rfl⟩
  | parkedLate a b c n => exact ⟨_, IsManoeuvre.late a b c (n + 1), prefix_rfl⟩

/-! ### Reading a history

The forward moves come first, and a car that has turned and then stopped is
parked. Both are statements about which moves follow which, so they are put as
sublists of the history. -/

end Stage

end Realtime

end VehicleStack
