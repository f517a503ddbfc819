import Mathlib.Data.List.Basic

/-!
# Buffers of a fixed size

An array of `n` cells that a program writes runs of cells into. The size is part
of the type, so a buffer of another length cannot be built, and a write that
would leave the array is not a write at all: `VehicleStack.Buffer.write` gives
`none` for it, where the program would go on over whatever lies behind the array.

A write that stays inside succeeds (`VehicleStack.Buffer.write_isSome_iff`) and
appends to what was there up to its first cell
(`VehicleStack.Buffer.take_write`), which is all that filling a buffer from the
left needs.
-/

namespace VehicleStack

/-- An array of `n` cells. -/
@[ext]
structure Buffer (α : Type*) (n : ℕ) where
  /-- The contents, first cell first. -/
  cells : List α
  length_cells : cells.length = n
  deriving DecidableEq

namespace Buffer

variable {α : Type*} {n : ℕ}

attribute [simp] length_cells

/-- The array all of whose cells hold `a`. -/
def fill (n : ℕ) (a : α) : Buffer α n := ⟨List.replicate n a, List.length_replicate⟩

/-- The cell at an index below the size. -/
def get (b : Buffer α n) (i : Fin n) : α := b.cells.get (i.cast b.length_cells.symm)

/-- The first `n` cells of a list, filled up with `a` where the list is shorter. -/
def ofList (n : ℕ) (a : α) (xs : List α) : Buffer α n :=
  ⟨(xs ++ List.replicate n a).take n, by
    rw [List.length_take, List.length_append, List.length_replicate]; omega⟩

/-- Copying a run of cells to the cells from `i` on, provided that they exist. -/
def write (b : Buffer α n) (i : ℕ) (xs : List α) : Option (Buffer α n) :=
  if h : i + xs.length ≤ n then
    some ⟨b.cells.take i ++ xs ++ b.cells.drop (i + xs.length), by
      simp only [List.length_append, List.length_take, List.length_drop, length_cells]; omega⟩
  else none

theorem write_isSome_iff {b : Buffer α n} {i : ℕ} {xs : List α} :
    (b.write i xs).isSome ↔ i + xs.length ≤ n := by
  rw [write]
  split <;> simp [*]

/-- **What a write appends to**: up to its last cell, the array holds what it held
before the first cell of the write, and then what was written. -/
theorem take_write {b b' : Buffer α n} {i : ℕ} {xs : List α} (h : b.write i xs = some b') :
    b'.cells.take (i + xs.length) = b.cells.take i ++ xs := by
  rw [write] at h
  split at h
  · rename_i hroom
    obtain rfl := Option.some.inj h
    have hlen : (b.cells.take i ++ xs).length = i + xs.length := by
      rw [List.length_append, List.length_take, length_cells]
      omega
    exact List.take_left' hlen
  · cases h

/-- A list of the right length is the contents of the array made of it. -/
theorem ofList_cells {xs : List α} {a : α} (h : xs.length = n) : (ofList n a xs).cells = xs := by
  subst h
  exact List.take_left

/-- Of a longer list, the array takes what it has cells for. -/
theorem ofList_cells_of_ge {xs : List α} {a : α} (h : n ≤ xs.length) :
    (ofList n a xs).cells = xs.take n := by
  change (xs ++ List.replicate n a).take n = xs.take n
  exact List.take_append_of_le_length h

/-- A shorter list is filled up at the end. -/
theorem ofList_cells_of_le {xs : List α} {a : α} (h : xs.length ≤ n) :
    (ofList n a xs).cells = xs ++ List.replicate (n - xs.length) a := by
  change (xs ++ List.replicate n a).take n = _
  rw [List.take_append, List.take_of_length_le h, List.take_replicate, Nat.min_eq_left (by omega)]

end Buffer

end VehicleStack
