import Mathlib.Algebra.GroupWithZero.Nat
import VehicleStack.Lib.Buffer

/-!
# ISO-TP reception on the ECU

`Can_TpRx` of `can.c` and the head of `Can_RxIsrHandler`, which decides for a
frame that came from the bus whether it is dropped, belongs to a transfer of
several frames or is a request in itself.

`memcpy` into `tpBuf` does not look at the size of `tpBuf`. In the model it is
`VehicleStack.Buffer.write`, so a frame that makes `Can_TpRx` write past the end
has no outcome at all: the program would go on, over the variables that lie
behind the buffer. The interrupt handler's own array holds eight bytes whatever
the length of the frame, and `Can_TpRx` does not use the length it is given.
-/

namespace VehicleStack

namespace Ecu

/-- A frame as `Can_RecvMsg` reads it and `Can_SendMsg` writes it. -/
structure Frame where
  id : ℕ
  data : Buffer UInt8 8
  len : ℕ
  deriving DecidableEq

/-- The bytes of a frame are numbered. -/
instance neZero_frameBytes : NeZero 8 := ⟨by decide⟩

/-- The transport variables of `can.c`. -/
structure Tp where
  tpBuf : Buffer UInt8 256 := Buffer.fill 256 0
  tpLen : ℕ := 0
  tpExpected : ℕ := 0
  tpActive : Bool := false
  tpNextSn : UInt8 := 1
  deriving DecidableEq

/-- What `Can_TpRx` does besides updating its variables: the frames it sends, and
the buffer and length it hands to `UDS_Dispatch_CompletedPdu`. -/
structure TpOutput where
  sent : List Frame := []
  completed : Option (Buffer UInt8 256 × ℕ) := none
  deriving DecidableEq

/-- `Tp_SendFlowControl`. -/
def flowControl : Frame where
  id := 0x7E8
  data := Buffer.ofList 8 0 [0x30, 0x00, 0x00, 0, 0, 0, 0, 0]
  len := 8

/-- The frame type, in the upper half of the first byte. -/
def pci (data : Buffer UInt8 8) : UInt8 := data.get 0 >>> 4

/-- The number of a consecutive frame, in the lower half of its first byte. -/
def sn (data : Buffer UInt8 8) : UInt8 := data.get 0 &&& 0x0F

/-- The length a first frame announces. -/
def announcedLen (data : Buffer UInt8 8) : ℕ :=
  ((data.get 0).toNat &&& 0x0F) <<< 8 ||| (data.get 1).toNat

/-- Storing the payload of a consecutive frame that has the number due. -/
def Tp.store (s : Tp) (data : Buffer UInt8 8) : Option Tp :=
  if sn data = s.tpNextSn then
    (s.tpBuf.write s.tpLen (data.cells.drop 1)).map fun buf =>
      { s with
        tpBuf := buf
        tpLen := s.tpLen + 7
        tpNextSn := (s.tpNextSn + 1) &&& 0x0F }
  else some s

/-- Ending the transfer once enough bytes are there. -/
def Tp.finish (s : Tp) : Tp × TpOutput :=
  if s.tpExpected ≤ s.tpLen then
    ({ s with tpActive := false }, { completed := some (s.tpBuf, s.tpExpected) })
  else (s, {})

/-- `Can_TpRx`. -/
def canTpRx (s : Tp) (data : Buffer UInt8 8) : Option (Tp × TpOutput) :=
  if pci data = 0x1 then
    (s.tpBuf.write 0 (data.cells.drop 2)).map fun buf =>
      ({ tpBuf := buf
         tpLen := 6
         tpExpected := announcedLen data
         tpActive := true
         tpNextSn := 1 }, { sent := [flowControl] })
  else if pci data = 0x2 ∧ s.tpActive = true then
    (s.store data).map Tp.finish
  else some (s, {})

/-- Where `Can_RxIsrHandler` sends a frame. -/
inductive RxOutcome where
  /-- Its identifier is too low to be looked at. -/
  | discarded
  /-- It belongs to a transfer of several frames. -/
  | transport (out : TpOutput)
  /-- It is a request in itself. -/
  | singleFrame (data : Buffer UInt8 8) (len : ℕ)
  deriving DecidableEq

/-- `Can_RxIsrHandler`, up to where single-frame requests are taken apart. -/
def canRxDemux (s : Tp) (f : Frame) : Option (Tp × RxOutcome) :=
  if f.id < 0x700 then some (s, .discarded)
  else if 1 ≤ pci f.data ∧ pci f.data ≤ 2 then
    (canTpRx s f.data).map fun r => (r.1, .transport r.2)
  else some (s, .singleFrame f.data f.len)

/-- One frame received. -/
def rxStep (s : Tp) (f : Frame) : Option Tp := (canRxDemux s f).map Prod.fst

/-- The frames sent in answer to a frame received, as far as the transport sends
them. -/
def rxSent (s : Tp) (f : Frame) : List Frame :=
  match canRxDemux s f with
  | some (_, .transport out) => out.sent
  | _ => []

/-- The requests a frame received hands to `UDS_Dispatch_CompletedPdu`: the bytes
and the length, at most one of them. -/
def rxPdus (s : Tp) (f : Frame) : List (List UInt8 × ℕ) :=
  match canRxDemux s f with
  | some (_, .transport out) => out.completed.toList.map fun c => (c.1.cells.take c.2, c.2)
  | _ => []

/-! ### What a frame does -/

/-- A first frame the interrupt handler looks at. -/
def Frame.IsFirst (f : Frame) : Prop := 0x700 ≤ f.id ∧ pci f.data = 0x1

/-- A consecutive frame the interrupt handler looks at. -/
def Frame.IsConsecutive (f : Frame) : Prop := 0x700 ≤ f.id ∧ pci f.data = 0x2

instance : DecidablePred Frame.IsFirst := fun f =>
  inferInstanceAs (Decidable (0x700 ≤ f.id ∧ pci f.data = 0x1))

instance : DecidablePred Frame.IsConsecutive := fun f =>
  inferInstanceAs (Decidable (0x700 ≤ f.id ∧ pci f.data = 0x2))

theorem Frame.IsConsecutive.not_isFirst {f : Frame} (h : f.IsConsecutive) : ¬ f.IsFirst :=
  fun h' => absurd (h'.2.symm.trans h.2) (by decide)

/-- A first frame starts a transfer over, whatever was going on. -/
theorem rx_first {f : Frame} (h : f.IsFirst) (s : Tp) :
    ∃ s', rxStep s f = some s' ∧ rxPdus s f = [] ∧ rxSent s f = [flowControl] ∧
      s'.tpActive = true ∧ s'.tpExpected = announcedLen f.data ∧ s'.tpLen = 6 ∧
      s'.tpNextSn = 1 ∧ s'.tpBuf.cells.take 6 = f.data.cells.drop 2 := by
  have hlen : (f.data.cells.drop 2).length = 6 := by
    rw [List.length_drop, Buffer.length_cells]
  have hroom : (s.tpBuf.write 0 (f.data.cells.drop 2)).isSome :=
    Buffer.write_isSome_iff.mpr (by omega)
  obtain ⟨buf, hbuf⟩ := Option.isSome_iff_exists.mp hroom
  have hdemux : canRxDemux s f = some (⟨buf, 6, announcedLen f.data, true, 1⟩,
      .transport { sent := [flowControl] }) := by
    have hpci : 1 ≤ pci f.data ∧ pci f.data ≤ 2 := by rw [h.2]; decide
    rw [canRxDemux, if_neg (by have := h.1; omega), if_pos hpci, canTpRx, if_pos h.2, hbuf]
    rfl
  refine ⟨_, by rw [rxStep, hdemux]; rfl, by rw [rxPdus, hdemux]; rfl,
    by rw [rxSent, hdemux], rfl, rfl, rfl, rfl, ?_⟩
  have htake := Buffer.take_write hbuf
  rw [hlen] at htake
  simpa using htake

/-- A consecutive frame without a transfer in progress does nothing. -/
theorem rx_consecutive_idle {f : Frame} (h : f.IsConsecutive) {s : Tp}
    (hidle : s.tpActive = false) : rxStep s f = some s ∧ rxPdus s f = [] := by
  have hdemux : canRxDemux s f = some (s, .transport {}) := by
    have hpci : 1 ≤ pci f.data ∧ pci f.data ≤ 2 := by rw [h.2]; decide
    rw [canRxDemux, if_neg (by have := h.1; omega), if_pos hpci, canTpRx,
      if_neg (by rw [h.2]; decide), if_neg (by simp [hidle])]
    rfl
  exact ⟨by rw [rxStep, hdemux]; rfl, by rw [rxPdus, hdemux]; rfl⟩

/-- A consecutive frame during a transfer is stored if it has the number due, and
either way the length is compared afterwards. -/
theorem rx_consecutive_active {f : Frame} (h : f.IsConsecutive) {s : Tp}
    (hactive : s.tpActive = true) :
    rxStep s f = (s.store f.data).map (fun t => t.finish.1) ∧
      ∀ t, s.store f.data = some t → rxPdus s f =
        if t.tpExpected ≤ t.tpLen then [(t.tpBuf.cells.take t.tpExpected, t.tpExpected)]
        else [] := by
  have hdemux : canRxDemux s f =
      (s.store f.data).map fun t => (t.finish.1, .transport t.finish.2) := by
    have hpci : 1 ≤ pci f.data ∧ pci f.data ≤ 2 := by rw [h.2]; decide
    rw [canRxDemux, if_neg (by have := h.1; omega), if_pos hpci, canTpRx,
      if_neg (by rw [h.2]; decide), if_pos ⟨h.2, hactive⟩, Option.map_map]
    rfl
  refine ⟨by rw [rxStep, hdemux, Option.map_map]; rfl, fun t ht => ?_⟩
  rw [rxPdus, hdemux, ht]
  by_cases hdone : t.tpExpected ≤ t.tpLen <;> simp [Tp.finish, hdone]

/-- A frame that is neither leaves the transport alone. -/
theorem rx_other {f : Frame} (hff : ¬ f.IsFirst) (hcf : ¬ f.IsConsecutive) (s : Tp) :
    rxStep s f = some s ∧ rxPdus s f = [] := by
  by_cases hid : f.id < 0x700
  · simp [rxStep, rxPdus, canRxDemux, hid]
  · have hff' : pci f.data ≠ 1 := fun h => hff ⟨by omega, h⟩
    have hcf' : pci f.data ≠ 2 := fun h => hcf ⟨by omega, h⟩
    have hpci : ¬ (1 ≤ pci f.data ∧ pci f.data ≤ 2) := by
      rintro ⟨hlo, hhi⟩
      rw [UInt8.le_iff_toNat_le] at hlo hhi
      have h1 : (pci f.data).toNat ≠ 1 := fun h => hff' (UInt8.toNat_inj.mp h)
      have h2 : (pci f.data).toNat ≠ 2 := fun h => hcf' (UInt8.toNat_inj.mp h)
      simp at hlo hhi
      omega
    simp [rxStep, rxPdus, canRxDemux, hid, hpci]

end Ecu

end VehicleStack
