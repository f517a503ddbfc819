import VehicleStack.Lib.Fifo
import VehicleStack.Ecu.ToF
import VehicleStack.Ecu.Ultrasonic

/-!
# The queues between the interrupts and the main loop

`byte_queue.c` and `eru_event_queue.c` are the same queue, once of bytes and once of
edges: an array of fixed size, of which the first `capacity` cells are used, and two
positions in it. The positions and the capacity are of type `int`, so nothing but the
code keeps an access inside the array; one that is outside has no result here.

After `Init` the record is a ring buffer with the same positions
(`VehicleStack.Ecu.ItemQueue.Shows`), which is what the models of the sensors use in its
place. The main result is `VehicleStack.Ecu.queues_keepNewest`: both queues keep the
newest `capacity - 1` items, and their positions stay below the capacity, whatever is
pushed and popped.
-/

namespace VehicleStack

namespace Ecu

/-- `ByteQueue` and `EruEventQueue`, of items of any type. -/
structure ItemQueue (α : Type) (maxBufSize : ℕ) where
  buffer : Fin maxBufSize → α
  head : ℤ
  tail : ℤ
  capacity : ℤ

namespace ItemQueue

variable {α : Type} {maxBufSize : ℕ}

/-- The cell at an index, if the array has one. -/
def cell? (maxBufSize : ℕ) (i : ℤ) : Option (Fin maxBufSize) :=
  if h : 0 ≤ i ∧ i < maxBufSize then some ⟨i.toNat, (Int.toNat_lt h.1).mpr h.2⟩ else none

/-- `ByteQueue_Init` and `EruEventQueue_Init`, with what they return. -/
def init (q : ItemQueue α maxBufSize) (capacity : ℤ) : ItemQueue α maxBufSize × Bool :=
  if capacity ≤ 0 ∨ maxBufSize < capacity then (q, false)
  else ({ q with head := 0, tail := 0, capacity := capacity }, true)

/-- `ByteQueue_Push` and `EruEventQueue_Push`, with what they return. -/
def push (q : ItemQueue α maxBufSize) (item : α) : Option (ItemQueue α maxBufSize × Bool) :=
  if q.capacity ≤ 0 then some (q, false)
  else (cell? maxBufSize q.tail).map fun i =>
    let tail := (q.tail + 1).tmod q.capacity
    ({ q with
        buffer := Function.update q.buffer i item
        tail := tail
        -- the queue was full, so the oldest item goes
        head := if tail = q.head then (q.head + 1).tmod q.capacity else q.head }, true)

/-- `ByteQueue_Pop` and `EruEventQueue_Pop`; no item where they return `false`. -/
def pop (q : ItemQueue α maxBufSize) : Option (ItemQueue α maxBufSize × Option α) :=
  if q.capacity ≤ 0 ∨ q.head = q.tail then some (q, none)
  else (cell? maxBufSize q.head).map fun i =>
    ({ q with head := (q.head + 1).tmod q.capacity }, some (q.buffer i))

/-- A call of a queue's `push` or `pop`. -/
def callBy (push : ItemQueue α maxBufSize → α → Option (ItemQueue α maxBufSize × Bool))
    (pop : ItemQueue α maxBufSize → Option (ItemQueue α maxBufSize × Option α))
    (q : ItemQueue α maxBufSize) :
    Fifo.Call α → Option (ItemQueue α maxBufSize × Fifo.Answer α)
  | .push item => (push q item).map fun r => (r.1, .pushed r.2)
  | .pop => (pop q).map fun r => (r.1, .popped r.2)

end ItemQueue

/-- `ByteQueue`. -/
abbrev ByteQueue := ItemQueue UInt8 byteQueueMaxBufSize

namespace ByteQueue

/-- `ByteQueue_Init`. -/
def init (q : ByteQueue) (capacity : ℤ) : ByteQueue × Bool := ItemQueue.init q capacity

/-- `ByteQueue_Push`. -/
def push (q : ByteQueue) (byte : UInt8) : Option (ByteQueue × Bool) := ItemQueue.push q byte

/-- `ByteQueue_Pop`. -/
def pop (q : ByteQueue) : Option (ByteQueue × Option UInt8) := ItemQueue.pop q

end ByteQueue

/-- `EruEventQueue`. -/
abbrev EruEventQueue := ItemQueue EruEvent eruEventQueueMaxBufSize

namespace EruEventQueue

/-- `EruEventQueue_Init`. -/
def init (q : EruEventQueue) (capacity : ℤ) : EruEventQueue × Bool := ItemQueue.init q capacity

/-- `EruEventQueue_Push`. -/
def push (q : EruEventQueue) (event : EruEvent) : Option (EruEventQueue × Bool) :=
  ItemQueue.push q event

/-- `EruEventQueue_Pop`. -/
def pop (q : EruEventQueue) : Option (EruEventQueue × Option EruEvent) := ItemQueue.pop q

end EruEventQueue

namespace ItemQueue

variable {α : Type} {maxBufSize : ℕ}

/-! ### The record is a ring buffer -/

/-- **The record shows a ring buffer**: its positions and its capacity are those of the ring
buffer, whose cells are in the array. -/
structure Shows (q : ItemQueue α maxBufSize) (r : Ring α) : Prop where
  head : q.head = r.head
  tail : q.tail = r.tail
  capacity : q.capacity = r.capacity
  fits : r.capacity ≤ maxBufSize
  cells : ∀ i : Fin maxBufSize, q.buffer i = r.buffer i

/-- A position below the capacity is a cell. -/
theorem cell?_of_lt {n : ℕ} (h : n < maxBufSize) : cell? maxBufSize n = some ⟨n, h⟩ :=
  dif_pos ⟨Int.natCast_nonneg n, Int.ofNat_lt.mpr h⟩

/-- The next position. -/
theorem tmod_succ (n c : ℕ) : ((n : ℤ) + 1).tmod c = ((n + 1) % c : ℕ) := rfl

/-- `Init` makes an empty ring buffer of what was there. -/
theorem shows_init (q : ItemQueue α maxBufSize) {capacity : ℕ} (hpos : 0 < capacity)
    (hfits : capacity ≤ maxBufSize) :
    ∃ r : Ring α, (q.init capacity).1.Shows r ∧ (q.init capacity).2 = true ∧
      r.capacity = capacity ∧ r.contents = [] := by
  have hne : 0 < maxBufSize := Nat.lt_of_lt_of_le hpos hfits
  obtain ⟨buffer, hbuffer⟩ : ∃ buffer : ℕ → α, ∀ i : Fin maxBufSize, q.buffer i = buffer i :=
    ⟨fun i => if h : i < maxBufSize then q.buffer ⟨i, h⟩ else q.buffer ⟨0, hne⟩,
      fun i => by
        show _ = if h : i.val < maxBufSize then q.buffer ⟨i, h⟩ else q.buffer ⟨0, hne⟩
        rw [dif_pos i.isLt]⟩
  have hinit : q.init capacity =
      ({ q with head := 0, tail := 0, capacity := (capacity : ℤ) }, true) := if_neg (by omega)
  rw [hinit]
  exact ⟨Ring.init buffer capacity hpos, ⟨rfl, rfl, rfl, hfits, hbuffer⟩, rfl, rfl,
    Ring.contents_init buffer capacity hpos⟩

/-- What `Push` does in the record of a ring buffer. -/
theorem Shows.push_eq {q : ItemQueue α maxBufSize} {r : Ring α} (h : q.Shows r) (item : α) :
    q.push item = some ({ q with
      buffer := Function.update q.buffer ⟨r.tail, Nat.lt_of_lt_of_le r.tail_lt h.fits⟩ item
      tail := (r.push item).tail
      head := (r.push item).head }, true) := by
  have htail := r.tail_lt
  have hpos : ¬ q.capacity ≤ 0 := by
    rw [h.capacity]
    omega
  have hhead : (if ((r.tail + 1) % r.capacity : ℕ) = (r.head : ℤ) then
      (((r.head + 1) % r.capacity : ℕ) : ℤ) else (r.head : ℤ)) = ((r.push item).head : ℕ) := by
    show _ = ((if (r.tail + 1) % r.capacity = r.head then (r.head + 1) % r.capacity
      else r.head : ℕ) : ℤ)
    simp only [Int.natCast_inj]
    exact (apply_ite Nat.cast ..).symm
  rw [push, if_neg hpos, h.tail, cell?_of_lt (Nat.lt_of_lt_of_le htail h.fits), Option.map_some]
  dsimp only
  rw [h.head, h.capacity, tmod_succ, tmod_succ, hhead]
  rfl

/-- **`Push` is the ring buffer's.** -/
theorem Shows.push {q : ItemQueue α maxBufSize} {r : Ring α} (h : q.Shows r) (item : α) :
    ∃ q', q.push item = some (q', true) ∧ q'.Shows (r.push item) := by
  refine ⟨_, h.push_eq item, rfl, rfl, h.capacity, h.fits, fun i => ?_⟩
  show Function.update q.buffer ⟨r.tail, _⟩ item i = Function.update r.buffer r.tail item i
  by_cases hi : (i : ℕ) = r.tail
  · obtain rfl : i = ⟨r.tail, Nat.lt_of_lt_of_le r.tail_lt h.fits⟩ := Fin.ext hi
    rw [Function.update_self, Function.update_self]
  · rw [Function.update_of_ne fun heq => hi (congrArg Fin.val heq), Function.update_of_ne hi,
      h.cells]

/-- **`Pop` is the ring buffer's.** -/
theorem Shows.pop {q : ItemQueue α maxBufSize} {r : Ring α} (h : q.Shows r) :
    (r.pop = none → q.pop = some (q, none)) ∧
      ∀ item r', r.pop = some (item, r') → ∃ q', q.pop = some (q', some item) ∧ q'.Shows r' := by
  have hhead := r.head_lt
  have hempty : q.head = q.tail ↔ r.head = r.tail := by
    rw [h.head, h.tail, Int.natCast_inj]
  constructor
  · intro hnone
    rw [Ring.pop] at hnone
    split at hnone
    · rename_i heq
      exact if_pos (Or.inr (hempty.mpr heq))
    · cases hnone
  · intro item r' hsome
    rw [Ring.pop] at hsome
    split at hsome
    · cases hsome
    · rename_i hne
      obtain ⟨rfl, rfl⟩ := Prod.mk.inj (Option.some.inj hsome)
      have hitems : ¬ (q.capacity ≤ 0 ∨ q.head = q.tail) := by
        rw [hempty, h.capacity]
        omega
      refine ⟨{ q with head := ((r.advance.head : ℕ) : ℤ) }, ?_, rfl, h.tail, h.capacity, h.fits,
        h.cells⟩
      rw [ItemQueue.pop, if_neg hitems, h.head, cell?_of_lt (Nat.lt_of_lt_of_le hhead h.fits),
        Option.map_some, h.capacity, tmod_succ, h.cells]
      rfl

/-! ### Every sequence of calls -/

/-- What the record has to do with a queue that is a list. -/
def Reflects (capacity : ℕ) (q : ItemQueue α maxBufSize) (items : List α) : Prop :=
  ∃ r : Ring α, q.Shows r ∧ r.capacity = capacity ∧ r.contents = items

/-- One call. -/
theorem Reflects.call {capacity : ℕ} {q : ItemQueue α maxBufSize} {items : List α}
    (h : Reflects capacity q items) (c : Fifo.Call α) :
    ∃ q', callBy ItemQueue.push ItemQueue.pop q c =
        some (q', (Fifo.step (capacity - 1) items c).2) ∧
      Reflects capacity q' (Fifo.step (capacity - 1) items c).1 := by
  obtain ⟨r, hshows, rfl, rfl⟩ := h
  obtain ⟨hcontents, hanswer⟩ := r.call_eq c
  rw [← hcontents, ← hanswer]
  rcases c with item | -
  · obtain ⟨q', hq', hshows'⟩ := hshows.push item
    exact ⟨q', by rw [callBy, hq']; rfl, r.push item, hshows', rfl, rfl⟩
  · obtain ⟨hnone, hsome⟩ := hshows.pop
    have hcapacity := r.capacity_call .pop
    rw [Ring.call] at hcapacity ⊢
    rcases hpop : r.pop with - | ⟨item, r'⟩
    · exact ⟨q, by rw [callBy, hnone hpop]; rfl, r, hshows, rfl, rfl⟩
    · obtain ⟨q', hq', hshows'⟩ := hsome item r' hpop
      rw [hpop] at hcapacity
      exact ⟨q', by rw [callBy, hq']; rfl, r', hshows', hcapacity, rfl⟩

/-- **A queue that keeps the newest items**: every sequence of calls returns, with what the list
of at most `capacity - 1` items returns, and leaves the positions below the capacity. -/
def KeepsNewest (call : ItemQueue α maxBufSize → Fifo.Call α →
    Option (ItemQueue α maxBufSize × Fifo.Answer α)) (capacity : ℤ)
    (q : ItemQueue α maxBufSize) : Prop :=
  ∀ calls, ∃ q', Mealy.calls call q calls =
      some (q', Mealy.outputs (Fifo.step (capacity.toNat - 1)) [] calls) ∧
    (0 ≤ q'.head ∧ q'.head < capacity) ∧ (0 ≤ q'.tail ∧ q'.tail < capacity)

theorem keepsNewest_init (q : ItemQueue α maxBufSize) {capacity : ℤ} (hlo : 1 ≤ capacity)
    (hhi : capacity ≤ maxBufSize) : (q.init capacity).2 = true ∧
      KeepsNewest (callBy ItemQueue.push ItemQueue.pop) capacity (q.init capacity).1 := by
  obtain ⟨n, rfl⟩ := Int.eq_ofNat_of_zero_le (by omega : 0 ≤ capacity)
  obtain ⟨r, hshows, hok, hcapacity, hcontents⟩ :=
    q.shows_init (by omega : 0 < n) (Int.ofNat_le.mp hhi)
  refine ⟨hok, fun calls => ?_⟩
  obtain ⟨q', hcalls, r', hshows', hcapacity', -⟩ := Mealy.calls_of_refines
    (R := Reflects n) (fun _ _ c h => h.call c) ⟨r, hshows, hcapacity, hcontents⟩ calls
  have hhead := r'.head_lt
  have htail := r'.tail_lt
  refine ⟨q', hcalls, ?_, ?_⟩
  · rw [hshows'.head]
    omega
  · rw [hshows'.tail]
    omega

end ItemQueue

/-- **Both queues keep the newest items.** For every capacity from 1 to 64 and whatever the
record held before, `Init` succeeds, and after it every sequence of pushes and pops returns what a
list of at most `capacity - 1` items returns, with both positions below the capacity. -/
theorem queues_keepNewest {capacity : ℤ} (hlo : 1 ≤ capacity) (hhi : capacity ≤ 64) :
    (∀ q : ByteQueue, (q.init capacity).2 = true ∧
      ItemQueue.KeepsNewest (ItemQueue.callBy ByteQueue.push ByteQueue.pop) capacity
        (q.init capacity).1) ∧
    ∀ q : EruEventQueue, (q.init capacity).2 = true ∧
      ItemQueue.KeepsNewest (ItemQueue.callBy EruEventQueue.push EruEventQueue.pop) capacity
        (q.init capacity).1 :=
  ⟨fun q => q.keepsNewest_init hlo hhi, fun q => q.keepsNewest_init hlo hhi⟩

/-- A queue of one cell keeps nothing. -/
theorem queues_keepNewest_one :
    ∃ q', Mealy.calls (ItemQueue.callBy ByteQueue.push ByteQueue.pop)
      (ByteQueue.init ⟨fun _ => 0, 0, 0, 0⟩ 1).1 [.push 5, .pop] =
        some (q', [.pushed true, .popped none]) := by
  obtain ⟨q', hq', -⟩ := ((@queues_keepNewest 1 (by decide) (by decide)).1
    ⟨fun _ => 0, 0, 0, 0⟩).2 [.push 5, .pop]
  exact ⟨q', hq'⟩

end Ecu

end VehicleStack
