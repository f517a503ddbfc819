import Mathlib.Data.List.Infix
import VehicleStack.Lib.Segments
import VehicleStack.Ecu.IsoTp

/-!
# Requests in several frames

A transfer, with the frames as they came over the bus: each with the number of bytes it really
has. A request is a first frame and the consecutive frames taken after it
(`VehicleStack.Ecu.Request`). It carries a string of bytes if every byte of the string came over
the bus, in the frame it belongs to (`VehicleStack.Ecu.Request.Carries`): the frames themselves may
be shorter than the eight bytes that `Can_TpRx` copies from, and what it copies behind their own
bytes is what is left over from other frames.

`VehicleStack.Ecu.matches_run` connects the request last begun to the transfer that the variables
of `can.c` stand for.
-/

namespace VehicleStack

namespace Ecu

open Subsequence

/-! ### Requests -/

/-- The bytes of a frame that came over the bus; behind them the handler's array holds what
is left over. -/
def Frame.own (f : Frame) : List UInt8 := f.data.cells.take f.len

/-- A first frame, and the consecutive frames after it that came with the numbers due. -/
structure Request where
  first : Frame
  consecutive : List Frame := []
  deriving DecidableEq

namespace Request

/-- One more frame. -/
def push (r : Request) (f : Frame) : Request := { r with consecutive := r.consecutive ++ [f] }

/-- The length the request announces. -/
def announced (r : Request) : ℕ := announcedLen r.first.data

/-- How many bytes have been copied for it. -/
def copied (r : Request) : ℕ := 6 + 7 * r.consecutive.length

/-- The frame is the one the request waits for. -/
def Due (r : Request) (f : Frame) : Prop :=
  f.IsConsecutive ∧ sn f.data = dueSn r.consecutive.length

instance (r : Request) (f : Frame) : Decidable (r.Due f) := inferInstanceAs (Decidable (_ ∧ _))

/-- With this frame the request has all it announced, and not before. -/
def Completed (r : Request) (f : Frame) : Prop :=
  r.Due f ∧ r.copied < r.announced ∧ r.announced ≤ (r.push f).copied

instance (r : Request) (f : Frame) : Decidable (r.Completed f) :=
  inferInstanceAs (Decidable (_ ∧ _))

/-- How a frame changes the request last begun. -/
def hear (last : Option Request) (f : Frame) : Option Request :=
  if f.IsFirst then some { first := f }
  else last.map fun r => if r.Due f then r.push f else r

/-- The bytes the frames hold, whatever their lengths. -/
def bytes (r : Request) : List UInt8 :=
  r.first.data.cells.drop 2 ++ r.consecutive.flatMap fun f => f.data.cells.drop 1

/-- **Every byte of `uds` was received** with the request, in the frame it belongs to. -/
structure Carries (r : Request) (uds : List UInt8) : Prop where
  announced : r.announced = uds.length
  copied : uds.length ≤ r.copied
  first : uds.take 6 <+: r.first.own.drop 2
  consecutive : ∀ k f, r.consecutive[k]? = some f →
    (uds.drop (6 + 7 * k)).take 7 <+: f.own.drop 1

/-- No frame is shorter than what it has to carry. -/
structure Full (r : Request) : Prop where
  first : min 6 r.announced ≤ r.first.len - 2
  consecutive : ∀ k f, r.consecutive[k]? = some f →
    min 7 (r.announced - (6 + 7 * k)) ≤ f.len - 1

end Request

/-- The request last begun among some frames, with what was taken for it. -/
def lastRequest (fs : List Frame) : Option Request := fs.foldl Request.hear none

theorem lastRequest_concat (fs : List Frame) (f : Frame) :
    lastRequest (fs ++ [f]) = Request.hear (lastRequest fs) f := by
  rw [lastRequest, List.foldl_append]
  rfl

/-! ### What a request carries -/

theorem length_payload (r : Request) :
    ∀ c ∈ r.consecutive.map fun f => f.data.cells.drop 1, c.length = 7 := by
  intro c hc
  obtain ⟨f, -, rfl⟩ := List.mem_map.mp hc
  rw [List.length_drop, Buffer.length_cells]

theorem length_first (r : Request) : (r.first.data.cells.drop 2).length = 6 := by
  rw [List.length_drop, Buffer.length_cells]

theorem Request.length_bytes (r : Request) : r.bytes.length = r.copied := by
  have hsum : (r.consecutive.map fun f => (f.data.cells.drop 1).length) =
      r.consecutive.map fun _ => 7 := by
    refine List.map_congr_left fun f _ => ?_
    rw [List.length_drop, Buffer.length_cells]
  rw [bytes, copied, List.length_append, length_first, List.length_flatMap, hsum,
    List.map_const', List.sum_replicate_nat, Nat.mul_comm]

theorem own_drop (f : Frame) (i : ℕ) : f.own.drop i = (f.data.cells.drop i).take (f.len - i) := by
  rw [Frame.own, List.drop_take]

/-- A segment of the bytes that were announced, as its frame holds it. -/
theorem Request.segment_bytes {r : Request} {k : ℕ} {f : Frame}
    (hf : r.consecutive[k]? = some f) (n : ℕ) :
    ((r.bytes.take n).drop (6 + 7 * k)).take 7 =
      (f.data.cells.drop 1).take (min 7 (n - (6 + 7 * k))) := by
  have hseg : (r.bytes.drop (6 + 7 * k)).take 7 = f.data.cells.drop 1 := by
    rw [← List.drop_drop, bytes, List.drop_left' (length_first r), List.flatMap_def]
    exact Segments.segment_flatten (length_payload r) (by rw [List.getElem?_map, hf]; rfl)
  rw [List.drop_take, List.take_take, ← hseg, List.take_take]
  congr 1
  omega

theorem Request.take_six_take (r : Request) (n : ℕ) :
    (r.bytes.take n).take 6 = (r.first.data.cells.drop 2).take (min 6 n) := by
  rw [List.take_take, bytes, List.take_append_of_le_length (by rw [length_first]; omega)]

/-- What a request carries begins what its frames hold, one after the other. -/
theorem Request.Carries.isPrefix {r : Request} {uds : List UInt8} (h : r.Carries uds) :
    uds <+: r.bytes := by
  rw [bytes, List.flatMap_def]
  refine Segments.prefix_append_of_take ?_ (Segments.prefix_flatten (length_payload r) ?_ ?_)
  · rw [length_first]
    refine h.first.trans ?_
    rw [own_drop]
    exact List.take_prefix _ _
  · have := h.copied
    rw [Request.copied] at this
    rw [length_first, List.length_drop, List.length_map]
    omega
  · intro k c hc
    rw [List.getElem?_map] at hc
    obtain ⟨f, hf, rfl⟩ := Option.map_eq_some_iff.mp hc
    rw [length_first, List.drop_drop]
    refine (h.consecutive k f hf).trans ?_
    rw [own_drop]
    exact List.take_prefix _ _

/-- **What a request carries** is what its frames hold, as far as they were announced, if all
of it is there and no frame is too short. -/
theorem Request.carries_iff {r : Request} {uds : List UInt8} : r.Carries uds ↔
    uds = r.bytes.take r.announced ∧ r.announced ≤ r.copied ∧ r.Full := by
  have hpayload : ∀ f : Frame, (f.data.cells.drop 1).length = 7 := fun f => by
    rw [List.length_drop, Buffer.length_cells]
  constructor
  · intro h
    have huds : uds = r.bytes.take r.announced := by
      rw [h.announced]
      exact List.prefix_iff_eq_take.mp h.isPrefix
    refine ⟨huds, h.announced ▸ h.copied, ?_, ?_⟩
    · have hfirst := h.first
      rw [huds, take_six_take, own_drop, List.take_isPrefix_take, length_first] at hfirst
      omega
    · intro k f hf
      have hseg := h.consecutive k f hf
      rw [huds, segment_bytes hf, own_drop, List.take_isPrefix_take, hpayload] at hseg
      omega
  · rintro ⟨rfl, hcopied, hfull⟩
    have hlen : (r.bytes.take r.announced).length = r.announced := by
      rw [List.length_take, length_bytes]
      omega
    refine ⟨hlen.symm, hlen.le.trans hcopied, ?_, ?_⟩
    · rw [take_six_take, own_drop, List.take_isPrefix_take]
      exact Or.inl hfull.first
    · intro k f hf
      rw [segment_bytes hf, own_drop, List.take_isPrefix_take]
      exact Or.inl (hfull.consecutive k f hf)

/-! ### The request and the transfer -/

/-- The request has the frames that were taken for the transfer. -/
structure Matches (r : Request) (t : Transfer) : Prop where
  first : t.first = r.first.data
  inOrder : t.inOrder = r.consecutive.map Frame.data

namespace Matches

variable {r : Request} {t : Transfer}

theorem announced (h : Matches r t) : t.announced = r.announced := by
  rw [Transfer.announced, h.first, Request.announced]

theorem copied (h : Matches r t) : t.copied = r.bytes := by
  rw [Transfer.copied, h.first, h.inOrder, List.flatMap_map, Request.bytes]

theorem length_copied (h : Matches r t) : t.copied.length = r.copied := by
  rw [h.copied, r.length_bytes]

theorem length_inOrder (h : Matches r t) : t.inOrder.length = r.consecutive.length := by
  rw [h.inOrder, List.length_map]

/-- The frame that is due. -/
theorem push_due (h : Matches r t) {f : Frame} (hdue : r.Due f) :
    Matches (r.push f) (t.push f.data) where
  first := h.first
  inOrder := by
    rw [Transfer.inOrder_push_due (h.length_inOrder ▸ hdue.2), h.inOrder, Request.push,
      List.map_append]
    rfl

/-- Another consecutive frame. -/
theorem push_ignored (h : Matches r t) {f : Frame} (hf : f.IsConsecutive) (hdue : ¬ r.Due f) :
    Matches r (t.push f.data) where
  first := h.first
  inOrder := by
    rw [Transfer.inOrder_push_ignored, h.inOrder]
    rw [h.length_inOrder]
    exact fun hsn => hdue ⟨hf, hsn⟩

/-- A request that is over with a frame, although that did not complete it, has at most the six
bytes of a first frame. -/
theorem announced_le_of_not_completed (h : Matches r t) {f : Frame} (hf : f.IsConsecutive)
    (hpending : t.Pending) (hover : ¬ (t.push f.data).Pending) (hdone : ¬ r.Completed f) :
    r.announced ≤ 6 := by
  rw [Transfer.pending_push_iff, h.announced, not_lt] at hover
  have hfirst : t.consecutive = [] → r.copied = 6 := by
    intro hnil
    have hzero := h.length_inOrder
    rw [Transfer.inOrder, hnil, taken_nil, List.length_nil] at hzero
    rw [Request.copied, ← hzero]
  by_cases hdue : r.Due f
  · rw [(h.push_due hdue).length_copied] at hover
    rcases hpending with hnil | hlt
    · by_contra hlong
      exact hdone ⟨hdue, by rw [hfirst hnil]; omega, hover⟩
    · rw [h.length_copied, h.announced] at hlt
      exact absurd ⟨hdue, hlt, hover⟩ hdone
  · rw [(h.push_ignored hf hdue).length_copied] at hover
    rcases hpending with hnil | hlt
    · exact hfirst hnil ▸ hover
    · rw [h.length_copied, h.announced] at hlt
      omega

end Matches

/-- **The request last begun** and the transfer last begun. -/
theorem matches_run (fs : List Frame) :
    (lastRequest fs = none ∧ lastTransfer fs = none) ∨
      ∃ r t, lastRequest fs = some r ∧ lastTransfer fs = some t ∧ Matches r t := by
  induction fs using List.reverseRecOn with
  | nil => exact Or.inl ⟨rfl, rfl⟩
  | append_singleton fs f ih =>
    rw [lastRequest_concat, lastTransfer_concat, Request.hear, hear]
    by_cases hff : f.IsFirst
    · rw [if_pos hff, if_pos hff]
      exact Or.inr ⟨_, _, rfl, rfl, rfl, rfl⟩
    rw [if_neg hff, if_neg hff]
    rcases ih with ⟨hr, ht⟩ | ⟨r, t, hr, ht, hmatch⟩
    · rw [hr, ht]
      exact Or.inl ⟨rfl, by split <;> rfl⟩
    · rw [hr, ht, Option.map_some]
      by_cases hcf : f.IsConsecutive
      · rw [if_pos hcf, Option.map_some]
        by_cases hdue : r.Due f
        · rw [if_pos hdue]
          exact Or.inr ⟨_, _, rfl, rfl, hmatch.push_due hdue⟩
        · rw [if_neg hdue]
          exact Or.inr ⟨_, _, rfl, rfl, hmatch.push_ignored hcf hdue⟩
      · rw [if_neg hcf, if_neg fun hdue => hcf hdue.1]
        exact Or.inr ⟨_, _, rfl, rfl, hmatch⟩

end Ecu

end VehicleStack
