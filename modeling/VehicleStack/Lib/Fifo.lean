import VehicleStack.Lib.Mealy
import VehicleStack.Lib.Ring

/-!
# Queues that keep the newest items

A queue of at most `bound` items is a list: what is pushed comes last, and if there are
too many items then, the oldest are dropped; what is popped is the oldest item, if there
is one (`VehicleStack.Fifo.step`). A ring buffer is such a queue of one item less than it
has cells, whatever is pushed and popped (`VehicleStack.Ring.call_eq`).
-/

namespace VehicleStack

namespace Fifo

variable {α : Type*}

/-- What can be asked of a queue. -/
inductive Call (α : Type*) where
  | push (x : α)
  | pop

/-- What a queue returns: whether an item was pushed, or the item popped. -/
inductive Answer (α : Type*) where
  | pushed (ok : Bool)
  | popped (item : Option α)
  deriving DecidableEq

/-- A queue that keeps the newest `bound` items. -/
def step (bound : ℕ) (items : List α) : Call α → List α × Answer α
  | .push x => ((items ++ [x]).rtake bound, .pushed true)
  | .pop => (items.tail, .popped items.head?)

end Fifo

namespace Ring

variable {α : Type*}

/-- A ring buffer as a machine. -/
def call (q : Ring α) : Fifo.Call α → Ring α × Fifo.Answer α
  | .push x => (q.push x, .pushed true)
  | .pop =>
    match q.pop with
    | none => (q, .popped none)
    | some (x, q') => (q', .popped (some x))

theorem capacity_call (q : Ring α) (c : Fifo.Call α) : (q.call c).1.capacity = q.capacity := by
  rcases c with x | -
  · rfl
  · rw [call]
    rcases hcontents : q.contents with - | ⟨x, xs⟩
    · rw [pop_of_nil hcontents]
    · rw [pop_of_cons hcontents]
      rfl

/-- **A ring buffer is a queue**: each call does to its contents what it does to the list, and
returns the same. -/
theorem call_eq (q : Ring α) (c : Fifo.Call α) :
    (q.call c).1.contents = (Fifo.step (q.capacity - 1) q.contents c).1 ∧
      (q.call c).2 = (Fifo.step (q.capacity - 1) q.contents c).2 := by
  rcases c with x | -
  · exact ⟨q.contents_push x, rfl⟩
  · rw [call, Fifo.step]
    rcases hcontents : q.contents with - | ⟨x, xs⟩
    · rw [pop_of_nil hcontents]
      exact ⟨hcontents, rfl⟩
    · rw [pop_of_cons hcontents]
      exact ⟨(contents_advance hcontents).1, rfl⟩

end Ring

end VehicleStack
