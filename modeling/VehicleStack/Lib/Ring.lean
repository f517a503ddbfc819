import Mathlib.Data.List.DropRight
import Mathlib.Logic.Function.Basic

/-!
# Ring buffers

A queue in an array of `capacity` cells between a read position and a write
position. The two are equal when the queue is empty, so it holds one item less than
it has cells, and when a push has made them equal the read position moves on, which
drops the oldest item. That both positions stay inside is a field of the structure.

What a ring buffer is for is a list of at most `capacity - 1` items
(`VehicleStack.Ring.contents`): a push appends and drops from the front what is too
much (`VehicleStack.Ring.contents_push`), a pop takes the first
(`VehicleStack.Ring.pop_of_nil`, `VehicleStack.Ring.pop_of_cons`). The cells are
there as well, because a program may keep something beside each cell;
`VehicleStack.Ring.map` is the ring buffer without what is beside.
-/

namespace VehicleStack

/-- A ring buffer: its cells, and the positions of the next read and write. -/
structure Ring (α : Type*) where
  buffer : ℕ → α
  head : ℕ
  tail : ℕ
  capacity : ℕ
  head_lt : head < capacity
  tail_lt : tail < capacity

namespace Ring

variable {α β : Type*}

/-- The empty ring buffer. -/
def init (buffer : ℕ → α) (capacity : ℕ) (h : 0 < capacity) : Ring α :=
  ⟨buffer, 0, 0, capacity, h, h⟩

/-- Writing an item, over the oldest one if there is no room. -/
def push (q : Ring α) (x : α) : Ring α where
  buffer := Function.update q.buffer q.tail x
  head := if (q.tail + 1) % q.capacity = q.head then (q.head + 1) % q.capacity else q.head
  tail := (q.tail + 1) % q.capacity
  capacity := q.capacity
  head_lt := by
    split
    · exact Nat.mod_lt _ (Nat.lt_of_le_of_lt (Nat.zero_le _) q.head_lt)
    · exact q.head_lt
  tail_lt := Nat.mod_lt _ (Nat.lt_of_le_of_lt (Nat.zero_le _) q.tail_lt)

/-- The ring buffer with the read position one further. -/
def advance (q : Ring α) : Ring α where
  buffer := q.buffer
  head := (q.head + 1) % q.capacity
  tail := q.tail
  capacity := q.capacity
  head_lt := Nat.mod_lt _ (Nat.lt_of_le_of_lt (Nat.zero_le _) q.head_lt)
  tail_lt := q.tail_lt

/-- Reading the oldest item. -/
def pop (q : Ring α) : Option (α × Ring α) :=
  if q.head = q.tail then none else some (q.buffer q.head, q.advance)

/-- How many items there are. -/
def length (q : Ring α) : ℕ := (q.tail + q.capacity - q.head) % q.capacity

/-- The items, oldest first. -/
def contents (q : Ring α) : List α :=
  (List.range q.length).map fun i => q.buffer ((q.head + i) % q.capacity)

@[simp]
theorem length_contents (q : Ring α) : q.contents.length = q.length := by
  rw [contents, List.length_map, List.length_range]

theorem length_lt (q : Ring α) : q.length < q.capacity :=
  Nat.mod_lt _ (Nat.lt_of_le_of_lt (Nat.zero_le _) q.head_lt)

/-- How far a position is behind another is found again in the round they share. -/
theorem distance {h n c : ℕ} (hh : h < c) (hn : n < c) : ((h + n) % c + c - h) % c = n := by
  rcases Nat.lt_or_ge (h + n) c with hlt | hge
  · rw [Nat.mod_eq_of_lt hlt, show h + n + c - h = n + c by omega, Nat.add_mod_right,
      Nat.mod_eq_of_lt hn]
  · have hmod : (h + n) % c = h + n - c := by
      rw [Nat.mod_eq_sub_mod hge, Nat.mod_eq_of_lt (by omega)]
    rw [hmod, show h + n - c + c - h = n by omega, Nat.mod_eq_of_lt hn]

/-- The write position is behind the items. -/
theorem head_add_length (q : Ring α) : (q.head + q.length) % q.capacity = q.tail := by
  have hhead := q.head_lt
  have htail := q.tail_lt
  rw [length, Nat.add_mod_mod, show q.head + (q.tail + q.capacity - q.head) =
    q.tail + q.capacity by omega, Nat.add_mod_right, Nat.mod_eq_of_lt htail]

theorem length_eq_zero_iff {q : Ring α} : q.length = 0 ↔ q.head = q.tail := by
  constructor
  · intro h
    have := q.head_add_length
    rwa [h, Nat.add_zero, Nat.mod_eq_of_lt q.head_lt] at this
  · intro h
    rw [length, h, Nat.add_sub_cancel_left, Nat.mod_self]

@[simp]
theorem contents_init (buffer : ℕ → α) (capacity : ℕ) (h : 0 < capacity) :
    (init buffer capacity h).contents = [] :=
  List.eq_nil_of_length_eq_zero ((length_contents _).trans (length_eq_zero_iff.mpr rfl))

/-- Positions of the same round are different cells. -/
theorem add_mod_ne {h i j c : ℕ} (hij : i < j) (hj : j < c) : (h + i) % c ≠ (h + j) % c := by
  intro he
  have hdvd : c ∣ (h + j) - (h + i) :=
    Nat.dvd_of_mod_eq_zero (Nat.sub_mod_eq_zero_of_mod_eq he.symm)
  have := Nat.le_of_dvd (by omega) hdvd
  omega

@[simp]
theorem capacity_push (q : Ring α) (x : α) : (q.push x).capacity = q.capacity := rfl

/-- The write position meets the read position exactly if the last free cell was
filled. -/
theorem tail_succ_eq_head_iff (q : Ring α) :
    (q.tail + 1) % q.capacity = q.head ↔ q.length + 1 = q.capacity := by
  have hhead := q.head_lt
  have hlen := q.length_lt
  have htail : (q.tail + 1) % q.capacity = (q.head + (q.length + 1)) % q.capacity := by
    rw [← Nat.add_assoc, ← Nat.mod_add_mod (q.head + q.length), q.head_add_length]
  rw [htail]
  constructor
  · intro h
    by_contra hne
    have hlt : q.length + 1 < q.capacity := by omega
    refine add_mod_ne (h := q.head) (Nat.succ_pos q.length) hlt ?_
    rw [h, Nat.add_zero, Nat.mod_eq_of_lt hhead]
  · intro h
    rw [h, Nat.add_mod_right, Nat.mod_eq_of_lt hhead]

theorem length_push (q : Ring α) (x : α) :
    (q.push x).length = if q.length + 1 = q.capacity then q.length else q.length + 1 := by
  have hhead := q.head_lt
  have hlen := q.length_lt
  have hpos : 0 < q.capacity := by omega
  have htail : (q.head + (q.length + 1)) % q.capacity = (q.tail + 1) % q.capacity := by
    rw [← Nat.add_assoc, ← Nat.mod_add_mod (q.head + q.length), q.head_add_length]
  change ((q.tail + 1) % q.capacity + q.capacity -
    (if (q.tail + 1) % q.capacity = q.head then (q.head + 1) % q.capacity else q.head)) %
      q.capacity = _
  by_cases hfull : q.length + 1 = q.capacity
  · rw [if_pos (q.tail_succ_eq_head_iff.mpr hfull), if_pos hfull]
    have hback : ((q.head + 1) % q.capacity + q.length) % q.capacity =
        (q.tail + 1) % q.capacity := by
      rw [Nat.mod_add_mod, ← htail, Nat.add_right_comm, Nat.add_assoc]
    rw [← hback]
    exact distance (Nat.mod_lt _ hpos) hlen
  · rw [if_neg (fun h => hfull (q.tail_succ_eq_head_iff.mp h)), if_neg hfull]
    rw [← htail]
    exact distance hhead (by omega)

/-- **A push appends**, and drops the oldest item if there was no room. -/
theorem contents_push (q : Ring α) (x : α) :
    (q.push x).contents = (q.contents ++ [x]).rtake (q.capacity - 1) := by
  have hlen := q.length_lt
  have hcell : ∀ i, i ≤ q.length → Function.update q.buffer q.tail x ((q.head + i) % q.capacity) =
      if i < q.length then q.buffer ((q.head + i) % q.capacity) else x := by
    intro i hi
    rw [← q.head_add_length]
    split
    · rename_i hlt
      exact Function.update_of_ne (add_mod_ne hlt hlen) _ _
    · obtain rfl : i = q.length := by omega
      exact Function.update_self _ _ _
  have hall : (List.range (q.length + 1)).map
      (fun i => Function.update q.buffer q.tail x ((q.head + i) % q.capacity)) =
        q.contents ++ [x] := by
    rw [List.range_succ, List.map_append, contents]
    refine congrArg₂ _ (List.map_congr_left fun i hi => ?_) ?_
    · rw [hcell i (by have := List.mem_range.mp hi; omega), if_pos (List.mem_range.mp hi)]
    · rw [List.map_singleton, hcell _ (Nat.le_refl _), if_neg (by omega)]
  rw [contents, length_push, List.rtake, List.length_append, length_contents,
    List.length_singleton, ← hall]
  by_cases hfull : q.length + 1 = q.capacity
  · rw [if_pos hfull, show q.length + 1 - (q.capacity - 1) = 1 by omega, List.range_succ_eq_map,
      List.map_cons, List.drop_one, List.tail_cons, List.map_map]
    refine List.map_congr_left fun i _ => ?_
    have hhead : (q.push x).head = (q.head + 1) % q.capacity :=
      if_pos (q.tail_succ_eq_head_iff.mpr hfull)
    rw [hhead, capacity_push, Nat.mod_add_mod, Function.comp_apply, Nat.succ_eq_add_one,
      Nat.add_right_comm q.head 1 i]
    rfl
  · rw [if_neg hfull, show q.length + 1 - (q.capacity - 1) = 0 by omega, List.drop_zero]
    refine List.map_congr_left fun i _ => ?_
    have hhead : (q.push x).head = q.head :=
      if_neg fun h => hfull (q.tail_succ_eq_head_iff.mp h)
    rw [hhead]
    rfl

/-- What a push drops is in front of what it keeps: one item of a full ring buffer, and
otherwise none. -/
theorem dropped_push (q : Ring α) (x : α) :
    ∃ dropped, q.contents ++ [x] = dropped ++ (q.push x).contents ∧
      dropped.length = if q.length + 1 = q.capacity then 1 else 0 := by
  have hlen := q.length_lt
  refine ⟨(q.contents ++ [x]).take (q.length + 1 - (q.capacity - 1)), ?_, ?_⟩
  · rw [contents_push, List.rtake, List.length_append, length_contents, List.length_singleton,
      List.take_append_drop]
  · rw [List.length_take, List.length_append, length_contents, List.length_singleton]
    split <;> omega

/-- There is nothing to read in an empty ring buffer. -/
theorem pop_of_nil {q : Ring α} (h : q.contents = []) : q.pop = none := by
  have hlen := q.length_contents
  rw [h, List.length_nil] at hlen
  rw [pop, if_pos (length_eq_zero_iff.mp hlen.symm)]

/-- Moving the read position drops the first item. -/
theorem contents_advance {q : Ring α} {x : α} {xs : List α} (h : q.contents = x :: xs) :
    q.advance.contents = xs ∧ q.buffer q.head = x := by
  have hhead := q.head_lt
  have hlt := q.length_lt
  have hlen := q.length_contents
  rw [h, List.length_cons] at hlen
  have hcontents := h
  rw [contents, ← hlen, List.range_succ_eq_map, List.map_cons, List.map_map] at hcontents
  obtain ⟨hfirst, hrest⟩ := List.cons.inj hcontents
  have hlength : q.advance.length = xs.length := by
    have htail : ((q.head + 1) % q.capacity + xs.length) % q.capacity = q.tail := by
      rw [Nat.mod_add_mod, ← q.head_add_length, ← hlen, Nat.add_right_comm, Nat.add_assoc]
    change (q.tail + q.capacity - (q.head + 1) % q.capacity) % q.capacity = xs.length
    rw [← htail]
    exact distance (Nat.mod_lt _ (by omega)) (by omega)
  refine ⟨?_, ?_⟩
  · rw [contents, hlength, ← hrest]
    simp only [List.length_map, List.length_range]
    refine List.map_congr_left fun i _ => ?_
    change q.buffer (((q.head + 1) % q.capacity + i) % q.capacity) = _
    rw [Function.comp_apply, Nat.mod_add_mod, Nat.succ_eq_add_one, Nat.add_right_comm]
    rfl
  · rwa [Nat.add_zero, Nat.mod_eq_of_lt hhead] at hfirst

/-- **A pop takes the first item**, from the cell at the read position. -/
theorem pop_of_cons {q : Ring α} {x : α} {xs : List α} (h : q.contents = x :: xs) :
    q.pop = some (x, q.advance) := by
  have hlen := q.length_contents
  rw [h, List.length_cons] at hlen
  have hne : ¬ q.head = q.tail := fun he => by
    rw [length_eq_zero_iff.mpr he] at hlen
    cases hlen
  rw [pop, if_neg hne, (contents_advance h).2]

/-- The cell that was read is the one before the read position. -/
theorem head_of_advance (q : Ring α) :
    (q.advance.head + q.advance.capacity - 1) % q.advance.capacity = q.head := by
  have hhead := q.head_lt
  change ((q.head + 1) % q.capacity + q.capacity - 1) % q.capacity = q.head
  by_cases hwrap : q.head + 1 = q.capacity
  · rw [hwrap, Nat.mod_self, Nat.zero_add, ← hwrap, Nat.add_sub_cancel,
      Nat.mod_eq_of_lt (Nat.lt_succ_self _)]
  · rw [Nat.mod_eq_of_lt (show q.head + 1 < q.capacity by omega),
      show q.head + 1 + q.capacity - 1 = q.head + q.capacity by omega, Nat.add_mod_right,
      Nat.mod_eq_of_lt hhead]

/-! ### What the cells still hold -/

/-- The cells hold the items pushed last, the newest one just before the write position, and
`d` where nothing was pushed yet. -/
def Holds (q : Ring α) (d : α) (pushed : List α) : Prop :=
  ∀ k < q.capacity,
    q.buffer ((q.tail + (q.capacity - 1 - k)) % q.capacity) = pushed.reverse.getD k d

theorem holds_init (d : α) (capacity : ℕ) (h : 0 < capacity) :
    (init (fun _ => d) capacity h).Holds d [] :=
  fun _ _ => rfl

/-- A pop leaves the cells alone. -/
theorem Holds.advance {q : Ring α} {d : α} {pushed : List α} (h : q.Holds d pushed) :
    q.advance.Holds d pushed :=
  h

/-- **A push overwrites the oldest item that is still there.** -/
theorem Holds.push {q : Ring α} {d : α} {pushed : List α} (h : q.Holds d pushed) (x : α) :
    (q.push x).Holds d (pushed ++ [x]) := by
  intro k hk
  have hcap : k < q.capacity := hk
  have htail := q.tail_lt
  have hcell : ((q.tail + 1) % q.capacity + (q.capacity - 1 - k)) % q.capacity =
      (q.tail + (q.capacity - k)) % q.capacity := by
    rw [Nat.mod_add_mod, Nat.add_assoc, show 1 + (q.capacity - 1 - k) = q.capacity - k by omega]
  show Function.update q.buffer q.tail x
    (((q.tail + 1) % q.capacity + (q.capacity - 1 - k)) % q.capacity) = _
  rw [hcell, List.reverse_append, List.reverse_singleton, List.singleton_append]
  cases k with
  | zero =>
    rw [Nat.sub_zero, Nat.add_mod_right, Nat.mod_eq_of_lt htail, Function.update_self,
      List.getD_cons_zero]
  | succ k =>
    have hne : (q.tail + (q.capacity - (k + 1))) % q.capacity ≠ q.tail := by
      have := add_mod_ne (h := q.tail) (show 0 < q.capacity - (k + 1) by omega)
        (show q.capacity - (k + 1) < q.capacity by omega)
      rw [Nat.add_zero, Nat.mod_eq_of_lt htail] at this
      exact this.symm
    rw [Function.update_of_ne hne, List.getD_cons_succ, ← h k (by omega),
      show q.capacity - (k + 1) = q.capacity - 1 - k by omega]

/-- The cell at the write position holds the item that a push drops from the cells. -/
theorem Holds.tail {q : Ring α} {d : α} {pushed : List α} (h : q.Holds d pushed) :
    q.buffer q.tail = pushed.reverse.getD (q.capacity - 1) d := by
  have htail := q.tail_lt
  have := h (q.capacity - 1) (by omega)
  rwa [Nat.sub_self, Nat.add_zero, Nat.mod_eq_of_lt htail] at this

/-! ### Without what is beside the items -/

/-- The same ring buffer of the items' images. -/
def map (f : α → β) (q : Ring α) : Ring β where
  buffer := f ∘ q.buffer
  head := q.head
  tail := q.tail
  capacity := q.capacity
  head_lt := q.head_lt
  tail_lt := q.tail_lt

theorem contents_map (f : α → β) (q : Ring α) : (q.map f).contents = q.contents.map f := by
  rw [contents, contents, List.map_map]
  rfl

theorem map_push (f : α → β) (q : Ring α) (x : α) : (q.push x).map f = (q.map f).push (f x) := by
  have hbuffer : f ∘ Function.update q.buffer q.tail x =
      Function.update (f ∘ q.buffer) q.tail (f x) := Function.comp_update _ _ _ _
  simp only [map, push, hbuffer]
  trivial

end Ring

end VehicleStack
