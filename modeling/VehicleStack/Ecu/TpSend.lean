import VehicleStack.Ecu.IsoTp

/-!
# ISO-TP transmission by the ECU

`Can_TpSend` of `can.c`: up to seven bytes go into a single frame, more of them
into a first frame and consecutive frames. Every frame is an array of eight bytes
that starts out as zeros, so the last one carries zeros behind the data. Nothing
is waited for between the frames.
-/

namespace VehicleStack

namespace Ecu

/-- The frame `Can_SendMsg` sends of an array of eight bytes, of which the first
are given and the rest are zero. -/
def sendMsg (id : ℕ) (bytes : List UInt8) : Frame where
  id := id
  data := Buffer.ofList 8 0 bytes
  len := 8

/-- What `sn++` and the test behind it make of the number of a consecutive frame. -/
def nextSn (sn : UInt8) : UInt8 := if 15 < sn + 1 then 0 else sn + 1

/-- The loop of `Can_TpSend` that sends the consecutive frames, `rest` being what is
left of the data. -/
def consecutiveFrames (id : ℕ) (rest : List UInt8) (sn : UInt8) : List Frame :=
  if hrest : rest = [] then []
  else
    sendMsg id ((0x20 ||| (sn &&& 0x0F)) :: rest.take 7) ::
      consecutiveFrames id (rest.drop 7) (nextSn sn)
termination_by rest.length
decreasing_by
  have := List.length_pos_of_ne_nil hrest
  rw [List.length_drop]
  omega

/-- `Can_TpSend`: the frames sent. -/
def canTpSend (id : ℕ) (data : List UInt8) : List Frame :=
  if data.length ≤ 7 then [sendMsg id (UInt8.ofNat data.length :: data)]
  else
    sendMsg id ([UInt8.ofNat (0x10 ||| ((data.length >>> 8) &&& 0x0F)),
        UInt8.ofNat (data.length &&& 0xFF)] ++ data.take 6) ::
      consecutiveFrames id (data.drop 6) 1

@[simp]
theorem sendMsg_len (id : ℕ) (bytes : List UInt8) : (sendMsg id bytes).len = 8 := rfl

/-- The bytes of a frame sent. -/
theorem sendMsg_cells {id : ℕ} {bytes : List UInt8} (h : bytes.length ≤ 8) :
    (sendMsg id bytes).data.cells = bytes ++ List.replicate (8 - bytes.length) 0 :=
  Buffer.ofList_cells_of_le h

/-- The numbers sent are the numbers due. -/
theorem nextSn_dueSn (k : ℕ) : nextSn (dueSn k) = dueSn (k + 1) := by
  have hround : ∀ r : Fin 16, nextSn (UInt8.ofNat r.val) = UInt8.ofNat ((r.val + 1) % 16) := by
    decide
  have h := hround ⟨(k + 1) % 16, Nat.mod_lt _ (by decide)⟩
  rw [dueSn, dueSn, h, Nat.mod_add_mod]

/-- Every frame carries the identifier it was sent under, and eight bytes. -/
theorem id_len_of_mem_consecutiveFrames {id : ℕ} {rest : List UInt8} {sn : UInt8} {f : Frame}
    (hf : f ∈ consecutiveFrames id rest sn) : f.id = id ∧ f.len = 8 := by
  induction rest, sn using consecutiveFrames.induct with
  | case1 =>
    rw [consecutiveFrames, dif_pos rfl] at hf
    cases hf
  | case2 rest sn hrest ih =>
    rw [consecutiveFrames, dif_neg hrest] at hf
    rcases List.mem_cons.mp hf with rfl | hf
    · exact ⟨rfl, rfl⟩
    · exact ih hf

end Ecu

end VehicleStack
