import VehicleStack.Ecu.Requests
import VehicleStack.Ecu.Uds

/-!
# Whole records of ECU information

`g_ecuInfo` has two writers: `UDS_Handle_2E_0005`, for a request that came in several
frames, and the interrupt handler, for one that is said to have come in a single frame.
The record has 98 bytes. Is it ever anything but the initial record or one that was sent
as a whole?

The main result is `VehicleStack.Ecu.writtenWhole_iff`: the record is written as a whole in
exactly the runs in which no frame is a write by itself, no request that is longer than the
buffer is heard to its end, and no write that is completed has a frame that is too short
for it. A write in a single frame puts four bytes over the beginning of the record
(`VehicleStack.Ecu.singleWrite_not_atomic`).
-/

namespace VehicleStack

namespace Ecu

open Subsequence

/-! ### Writes -/

/-- The record that a request for DID 0x0005 writes, if it is long enough. -/
def writtenRecord (uds : List UInt8) : Option EcuInfo :=
  if uds.take 3 = [0x2E, 0x00, 0x05] ∧ 3 + sizeofInfo ≤ uds.length then
    some (Buffer.ofList _ 0 (uds.drop 3))
  else none

/-- The record that a frame completes, whatever the lengths of the frames. -/
def completedRecord (pre : List Frame) (f : Frame) : Option EcuInfo :=
  (lastRequest pre).bind fun r =>
    if r.Completed f then writtenRecord ((r.push f).bytes.take r.announced) else none

/-- A frame that is a write of the ECU information by itself. -/
def Frame.IsWrite (f : Frame) : Prop :=
  f.IsSingle ∧ f.data.get 1 = 0x2E ∧ f.data.get 2 = 0x00 ∧ f.data.get 3 = 0x05

instance : DecidablePred Frame.IsWrite := fun f =>
  inferInstanceAs (Decidable (f.IsSingle ∧ _))

/-- The frame leaves room in the buffer: if it is due, then the request announces at most 251
bytes, or it is not the thirty-sixth. -/
def Room (pre : List Frame) (f : Frame) : Prop :=
  ∀ r, lastRequest pre = some r → r.Due f → 251 < r.announced → r.consecutive.length < 35

theorem room_of_not_isConsecutive (pre : List Frame) {f : Frame} (h : ¬ f.IsConsecutive) :
    Room pre f := fun _ _ hdue => absurd hdue.1 h

theorem completedRecord_of_not_isConsecutive (pre : List Frame) {f : Frame}
    (h : ¬ f.IsConsecutive) : completedRecord pre f = none := by
  rw [completedRecord, Option.bind_eq_none_iff]
  exact fun r _ => if_neg fun hdone => h hdone.1.1

theorem writtenRecord_of_short {uds : List UInt8} (h : uds.length < 3 + sizeofInfo) :
    writtenRecord uds = none := by
  rw [writtenRecord, if_neg]
  exact fun hlong => absurd hlong.2 (Nat.not_le.mpr h)

section Transport

variable {pre : List Frame} {tp : Tp} {f : Frame}

/-- **The transport takes a frame** exactly if there is room for it. -/
theorem isSome_rxStep_iff (hsound : Sound (lastTransfer pre) tp) :
    (rxStep tp f).isSome ↔ Room pre f := by
  constructor
  · intro hsome r hr hdue hlong
    obtain ⟨t, ht, hmatch⟩ : ∃ t, lastTransfer pre = some t ∧ Matches r t := by
      rcases matches_run pre with ⟨hnone, -⟩ | ⟨r', t, hr', ht, hmatch⟩
      · rw [hnone] at hr
        cases hr
      · obtain rfl := Option.some.inj (hr'.symm.trans hr)
        exact ⟨t, ht, hmatch⟩
    have hpending := hsound.long t ht (hmatch.announced ▸ hlong)
    rcases hsound.tracks t ht with ⟨hactive, -, hreflects⟩ | ⟨-, hover⟩
    · by_contra hmany
      have hnone : tp.store f.data = none := by
        rw [hreflects.store_eq_none_iff, hreflects.tpNextSn, hmatch.length_inOrder,
          hmatch.length_copied, Request.copied]
        exact ⟨hdue.2, by omega⟩
      rw [(rx_consecutive_active hdue.1 hactive).1, hnone] at hsome
      cases hsome
    · exact absurd hpending hover
  · intro hroom
    refine hsound.isSome_rxStep ?_
    rintro ⟨hcf, hactive, hsn⟩
    rcases matches_run pre with ⟨-, hnone⟩ | ⟨r, t, hr, ht, hmatch⟩
    · rw [hsound.idle hnone] at hactive
      cases hactive
    · rcases hsound.tracks t ht with ⟨-, hpending, hreflects⟩ | ⟨hidle, -⟩
      · rw [hreflects.tpNextSn, hmatch.length_inOrder] at hsn
        have hfew := hroom r hr ⟨hcf, hsn⟩
        rw [hreflects.tpLen, hmatch.length_copied, Request.copied]
        rcases hpending with hnil | hlt
        · have hzero := hmatch.length_inOrder
          rw [Transfer.inOrder, hnil, taken_nil, List.length_nil] at hzero
          omega
        · rw [hmatch.length_copied, hmatch.announced, Request.copied] at hlt
          omega
      · rw [hidle] at hactive
        cases hactive

/-- **The request that a frame hands on**, as far as it is a write. -/
theorem rxPdus_cases (hsound : Sound (lastTransfer pre) tp) (hroom : Room pre f) :
    (rxPdus tp f = [] ∧ completedRecord pre f = none) ∨
      ∃ p, rxPdus tp f = [p] ∧ writtenRecord p.1 = completedRecord pre f := by
  by_cases hcf : f.IsConsecutive
  · rcases matches_run pre with ⟨hr, ht⟩ | ⟨r, t, hr, ht, hmatch⟩
    · refine Or.inl ⟨(rx_consecutive_idle hcf (hsound.idle ht)).2, ?_⟩
      rw [completedRecord, hr, Option.bind_none]
    rcases tracks_consecutive hcf (hsound.tracks t ht) with ⟨hnone, -⟩ | ⟨-, -, -, hpdus, -⟩
    · have hsome := (isSome_rxStep_iff hsound).mpr hroom
      rw [hnone] at hsome
      cases hsome
    rw [completedRecord, hr, Option.bind_some]
    by_cases hpending : t.Pending
    · rw [Transfer.pdus, if_pos hpending, List.nil_append] at hpdus
      rw [hpdus, Transfer.pdus]
      by_cases hstill : (t.push f.data).Pending
      · refine Or.inl ⟨if_pos hstill, if_neg ?_⟩
        rintro ⟨hdue, -, hcomplete⟩
        rw [Transfer.pending_push_iff, (hmatch.push_due hdue).length_copied,
          hmatch.announced] at hstill
        omega
      · rw [if_neg hstill]
        refine Or.inr ⟨_, rfl, ?_⟩
        dsimp only
        rw [Transfer.announced_push, hmatch.announced]
        by_cases hdone : r.Completed f
        · rw [if_pos hdone, (hmatch.push_due hdone.1).copied]
        · -- only a request of at most six bytes is over otherwise, with whatever comes
          rw [if_neg hdone, writtenRecord_of_short]
          have hsmall := hmatch.announced_le_of_not_completed hcf hpending hstill hdone
          rw [List.length_take, sizeofInfo]
          omega
    · obtain ⟨-, hsame⟩ := Transfer.pdus_push_of_not_pending hpending f.data
      rw [hsame] at hpdus
      refine Or.inl ⟨List.append_right_eq_self.mp hpdus, if_neg ?_⟩
      rintro ⟨-, hincomplete, -⟩
      refine hpending (Or.inr ?_)
      rwa [hmatch.length_copied, hmatch.announced]
  · refine Or.inl ⟨?_, completedRecord_of_not_isConsecutive pre hcf⟩
    by_cases hff : f.IsFirst
    · obtain ⟨-, -, hpdus, -⟩ := rx_first hff tp
      exact hpdus
    · exact (rx_other hff hcf tp).2

end Transport

/-! ### The services -/

/-- **A request that came in several frames** writes the record if it is one for it. -/
theorem ecuInfo_udsDispatchCompletedPdu (d : Diagnostics) (uds : List UInt8) :
    (d.udsDispatchCompletedPdu uds).1.ecuInfo = (writtenRecord uds).getD d.ecuInfo := by
  cases uds with
  | nil => rfl
  | cons sid rest =>
    rw [Diagnostics.udsDispatchCompletedPdu]
    by_cases hwrite : sid = 0x2E ∧ rest.take 2 = [0x00, 0x05]
    · obtain ⟨rfl, hdid⟩ := hwrite
      have htake : (0x2E :: rest : List UInt8).take 3 = [0x2E, 0x00, 0x05] := by
        rw [List.take_succ_cons, hdid]
      rw [if_neg (by decide), if_neg (by decide), if_pos rfl, if_pos hdid,
        Diagnostics.udsHandle2E0005, writtenRecord]
      by_cases hshort : (0x2E :: rest : List UInt8).length < 3 + sizeofInfo
      · rw [if_pos hshort, if_neg fun h => absurd h.2 (Nat.not_le.mpr hshort)]
        rfl
      · rw [if_neg hshort, if_pos ⟨htake, Nat.not_lt.mp hshort⟩]
        rfl
    · have hnone : writtenRecord (sid :: rest) = none := by
        rw [writtenRecord, if_neg]
        rintro ⟨htake, -⟩
        rw [List.take_succ_cons] at htake
        obtain ⟨hsid, hrest⟩ := List.cons.inj htake
        exact hwrite ⟨hsid, hrest⟩
      rw [hnone, Option.getD_none]
      split_ifs with hclear hread hsid hdid hthreshold
      · rfl
      · rw [Diagnostics.udsHandle19]
        split_ifs <;> rfl
      · exact absurd ⟨hsid, hdid⟩ hwrite
      · rw [Diagnostics.udsHandle2E0006]
        split_ifs <;> rfl
      · rfl
      · rfl

theorem ecuInfo_sensorResponse (d : Diagnostics) (didH didL : UInt8) (senVal : Option ℕ)
    (min max : UInt16) (timeout outOfRange : ℕ) :
    (d.sensorResponse didH didL senVal min max timeout outOfRange).1.ecuInfo = d.ecuInfo := by
  cases senVal <;> rfl

namespace EcuState

/-- A frame that makes the transport leave the buffer. -/
theorem step_of_transport_none {s : EcuState} {f : Frame}
    (hnone : rxStep s.tp f = none) : s.step f = none := by
  have hdemux : canRxDemux s.tp f = none := Option.map_eq_none_iff.mp hnone
  rw [step, canRxIsrHandler, hdemux]
  rfl

/-- A read changes neither the transport nor the record. -/
theorem readDataByIdentifier_keeps (s : EcuState) (didH didL : UInt8) :
    (s.readDataByIdentifier didH didL).1.tp = s.tp ∧
      (s.readDataByIdentifier didH didL).1.diag.ecuInfo = s.diag.ecuInfo := by
  rw [readDataByIdentifier]
  split_ifs
  · exact ⟨rfl, ecuInfo_sensorResponse _ _ _ _ _ _ _ _⟩
  · exact ⟨rfl, ecuInfo_sensorResponse _ _ _ _ _ _ _ _⟩
  · exact ⟨rfl, ecuInfo_sensorResponse _ _ _ _ _ _ _ _⟩
  · exact ⟨rfl, ecuInfo_sensorResponse _ _ _ _ _ _ _ _⟩
  · exact ⟨rfl, rfl⟩
  · exact ⟨rfl, rfl⟩

/-- A write by itself: of eight bytes it puts four over the record, and a longer one does not
happen. -/
theorem step_single_write {s : EcuState} {f : Frame} (h : f.IsWrite) :
    (8 < f.len ∧ s.step f = none) ∨
      (f.len ≤ 8 ∧ ∃ s', s.step f = some s' ∧ s'.tp = s.tp ∧
        s'.diag.ecuInfo.cells = if f.len = 8 then
          f.data.cells.drop 4 ++ s.diag.ecuInfo.cells.drop 4 else s.diag.ecuInfo.cells) := by
  obtain ⟨hsingle, hsid, hdidH, hdidL⟩ := h
  rw [step, canRxIsrHandler_of_isSingle s hsingle, singleFrame_write s f.len hsid,
    Diagnostics.writeSingleFrame, if_pos ⟨hdidH, hdidL⟩]
  by_cases hshort : f.len < 8
  · rw [if_pos hshort, if_neg hshort.ne]
    exact Or.inr ⟨hshort.le, _, rfl, rfl, rfl⟩
  rw [if_neg hshort]
  by_cases hlong : 8 < f.len
  · -- more than four bytes would be copied out of a frame that has four
    have hmore : ¬ min (f.len - 4) sizeofInfo ≤ 4 := by
      rw [sizeofInfo]
      omega
    refine Or.inl ⟨hlong, ?_⟩
    rw [if_neg hmore]
    rfl
  · have hlen : f.len = 8 := by omega
    refine Or.inr ⟨hlen.le, ?_⟩
    have hfour : min (f.len - 4) sizeofInfo = 4 := by
      rw [hlen]
      rfl
    have hall : (f.data.cells.drop 4).take 4 = f.data.cells.drop 4 :=
      List.take_of_length_le (by rw [List.length_drop, Buffer.length_cells])
    have hfits : 0 + (f.data.cells.drop 4).length ≤ sizeofInfo := by
      rw [List.length_drop, Buffer.length_cells, sizeofInfo]
      omega
    dsimp only
    rw [hfour, if_pos (Nat.le_refl 4), hall, Buffer.write, dif_pos hfits, Option.map_some,
      Option.map_some, Option.map_some, if_pos hlen]
    refine ⟨_, rfl, rfl, ?_⟩
    dsimp only
    rw [List.take_zero, List.nil_append, List.length_drop, Buffer.length_cells]

/-- Any other request in a single frame leaves the record alone. -/
theorem step_single_other {s : EcuState} {f : Frame} (h : f.IsSingle) (hwrite : ¬ f.IsWrite) :
    ∃ s', s.step f = some s' ∧ s'.tp = s.tp ∧ s'.diag.ecuInfo.cells = s.diag.ecuInfo.cells := by
  rw [step, canRxIsrHandler_of_isSingle s h, singleFrame]
  dsimp only
  split_ifs with hsid hread hdtc hsub hclear
  · have hdid : ¬ (f.data.get 2 = 0x00 ∧ f.data.get 3 = 0x05) :=
      fun hdid => hwrite ⟨h, hsid, hdid.1, hdid.2⟩
    rw [Diagnostics.writeSingleFrame, if_neg hdid]
    exact ⟨_, rfl, rfl, rfl⟩
  · obtain ⟨htp, hecu⟩ := readDataByIdentifier_keeps s (f.data.get 2) (f.data.get 3)
    exact ⟨_, rfl, htp, congrArg Buffer.cells hecu⟩
  · exact ⟨_, rfl, rfl, rfl⟩
  · exact ⟨_, rfl, rfl, rfl⟩
  · exact ⟨_, rfl, rfl, rfl⟩
  · exact ⟨_, rfl, rfl, rfl⟩

/-- **A frame that is a request by itself** leaves the transport alone, and the record unless it
is a full frame that writes it: then it puts four bytes over its beginning. -/
theorem step_single {s : EcuState} {f : Frame} (h : f.IsSingle) :
    (f.IsWrite ∧ 8 < f.len ∧ s.step f = none) ∨
      ((f.IsWrite → f.len ≤ 8) ∧ ∃ s', s.step f = some s' ∧ s'.tp = s.tp ∧
        s'.diag.ecuInfo.cells = if f.IsWrite ∧ f.len = 8 then
          f.data.cells.drop 4 ++ s.diag.ecuInfo.cells.drop 4 else s.diag.ecuInfo.cells) := by
  by_cases hwrite : f.IsWrite
  · simp only [hwrite, true_and, true_imp_iff]
    exact step_single_write hwrite
  · simp only [hwrite, false_and, false_imp_iff, false_or, true_and, if_false]
    exact step_single_other h hwrite

end EcuState

theorem eq_one_or_eq_two {b : UInt8} (hlo : 1 ≤ b) (hhi : b ≤ 2) : b = 1 ∨ b = 2 := by
  rw [UInt8.le_iff_toNat_le] at hlo hhi
  have h : b.toNat = 1 ∨ b.toNat = 2 := by
    rw [show (1 : UInt8).toNat = 1 from rfl] at hlo
    rw [show (2 : UInt8).toNat = 2 from rfl] at hhi
    omega
  exact h.imp (fun h => UInt8.toNat_inj.mp h) (fun h => UInt8.toNat_inj.mp h)

/-- What becomes of the record with a frame. -/
def recordAfter (pre : List Frame) (f : Frame) (record : EcuInfo) : List UInt8 :=
  if f.IsWrite ∧ f.len = 8 then f.data.cells.drop 4 ++ record.cells.drop 4
  else ((completedRecord pre f).getD record).cells

/-- **One frame**: the buffer is left, or the transport takes the frame, and the record is
overwritten at its beginning, or replaced by the one that the frame completes. -/
theorem EcuState.step_spec {pre : List Frame} {s : EcuState}
    (hsound : Sound (lastTransfer pre) s.tp) (f : Frame) :
    (s.step f = none ∧ ¬ ((f.IsWrite → f.len ≤ 8) ∧ Room pre f)) ∨
      (((f.IsWrite → f.len ≤ 8) ∧ Room pre f) ∧ ∃ s', s.step f = some s' ∧
        rxStep s.tp f = some s'.tp ∧
        s'.diag.ecuInfo.cells = recordAfter pre f s.diag.ecuInfo) := by
  by_cases hsingle : f.IsSingle
  · have hcf : ¬ f.IsConsecutive := fun hcf => hsingle.2 (by rw [hcf.2]; decide)
    have hff : ¬ f.IsFirst := fun hff => hsingle.2 (by rw [hff.2]; decide)
    rcases step_single (s := s) hsingle with ⟨hwrite, hlong, hnone⟩ | ⟨hlen, s', hs', htp, hecu⟩
    · exact Or.inl ⟨hnone, fun h => absurd (h.1 hwrite) (Nat.not_le.mpr hlong)⟩
    · refine Or.inr ⟨⟨hlen, room_of_not_isConsecutive pre hcf⟩, s', hs', ?_, ?_⟩
      · rw [htp]
        exact (rx_other hff hcf s.tp).1
      · rw [hecu, recordAfter, completedRecord_of_not_isConsecutive pre hcf, Option.getD_none]
  -- any other frame goes to the transport, or to none
  have hwrite : ¬ f.IsWrite := fun hw => hsingle hw.1
  by_cases htransport : f.IsFirst ∨ f.IsConsecutive
  · by_cases hroom : Room pre f
    · obtain ⟨tp, htp⟩ := Option.isSome_iff_exists.mp ((isSome_rxStep_iff hsound).mpr hroom)
      refine Or.inr ⟨⟨fun hw => absurd hw hwrite, hroom⟩, _, step_of_transport htransport htp, htp,
        ?_⟩
      rw [recordAfter, if_neg fun hw => hwrite hw.1]
      rcases rxPdus_cases hsound hroom with ⟨hpdus, hnone⟩ | ⟨p, hpdus, hp⟩
      · rw [hpdus, hnone]
        rfl
      · rw [hpdus, ← hp, ← ecuInfo_udsDispatchCompletedPdu]
        rfl
    · refine Or.inl ⟨?_, fun h => hroom h.2⟩
      rw [← isSome_rxStep_iff hsound, Option.not_isSome_iff_eq_none] at hroom
      exact step_of_transport_none hroom
  · obtain ⟨hff, hcf⟩ := not_or.mp htransport
    have hid : f.id < 0x700 := by
      by_contra hid
      refine hsingle ⟨Nat.not_lt.mp hid, fun hpci => ?_⟩
      rcases eq_one_or_eq_two hpci.1 hpci.2 with hone | htwo
      · exact hff ⟨Nat.not_lt.mp hid, hone⟩
      · exact hcf ⟨Nat.not_lt.mp hid, htwo⟩
    refine Or.inr ⟨⟨fun hw => absurd hw hwrite, room_of_not_isConsecutive pre hcf⟩, s, ?_,
      (rx_other hff hcf s.tp).1, ?_⟩
    · rw [step, canRxIsrHandler, canRxDemux, if_pos hid]
      rfl
    · rw [recordAfter, if_neg fun hw => hwrite hw.1,
        completedRecord_of_not_isConsecutive pre hcf, Option.getD_none]

/-! ### Runs -/

/-- The frame completes a request, all of whose bytes were received, that carries the record. -/
def Completes (pre : List Frame) (f : Frame) (record : EcuInfo) : Prop :=
  ∃ r uds, lastRequest pre = some r ∧ r.Completed f ∧ (r.push f).Carries uds ∧
    writtenRecord uds = some record

/-- **The record is written atomically** while the frames come: the program goes on after each of
them, the record is always the initial one or the one of a request that was received, and it
changes only with the frame that completes such a request. -/
structure Atomic (s₀ : EcuState) (frames : List Frame) : Prop where
  runs : ∀ pre, pre <+: frames → (Run.run EcuState.step s₀ pre).isSome
  whole : ∀ pre s, pre <+: frames → Run.run EcuState.step s₀ pre = some s →
    s.diag.ecuInfo = initialEcuInfo ∨
      ∃ earlier f, earlier ++ [f] <+: pre ∧ Completes earlier f s.diag.ecuInfo
  change : ∀ pre f s s', pre ++ [f] <+: frames → Run.run EcuState.step s₀ pre = some s →
    s.step f = some s' → s'.diag.ecuInfo ≠ s.diag.ecuInfo → Completes pre f s'.diag.ecuInfo

/-- A frame that does the record no harm, after some others and with the record as it is. -/
structure Harmless (pre : List Frame) (record : EcuInfo) (f : Frame) : Prop where
  /-- It is no write by itself, or not of full length, or it writes what is there. -/
  single : f.IsWrite → f.len < 8 ∨ f.len = 8 ∧ f.data.cells.drop 4 = record.cells.take 4
  /-- It stays in the buffer. -/
  room : Room pre f
  /-- No frame of a write that it completes is too short, or the record written is there. -/
  full : ∀ r written, lastRequest pre = some r → r.Completed f →
    writtenRecord ((r.push f).bytes.take r.announced) = some written →
      (r.push f).Full ∨ written = record

section Run

variable {s₀ : EcuState} {pre : List Frame} {s : EcuState}

/-- The transport along a run. -/
theorem sound_ecuRun (htp : s₀.tp = {}) (hrun : Run.run EcuState.step s₀ pre = some s) :
    Sound (lastTransfer pre) s.tp := by
  refine Run.run_induct (P := fun pre s => Sound (lastTransfer pre) s.tp) ?_ ?_ hrun
  · rw [htp]
    exact ⟨fun _ => rfl, nofun, nofun⟩
  · intro pre s f s' _ hsound hstep
    rcases EcuState.step_spec hsound f with ⟨hnone, -⟩ | ⟨-, u, hu, htransport, -⟩
    · rw [hnone] at hstep
      cases hstep
    · obtain rfl := Option.some.inj (hu.symm.trans hstep)
      rw [lastTransfer_concat]
      exact hsound.step htransport

/-- **A harmless frame** leaves the record as it is, or completes a request that carries what is
written. -/
theorem Harmless.recordAfter {f : Frame} {record : EcuInfo} (h : Harmless pre record f) :
    recordAfter pre f record = record.cells ∨
      ∃ written, recordAfter pre f record = written.cells ∧ Completes pre f written := by
  rw [Ecu.recordAfter]
  by_cases hwrite : f.IsWrite ∧ f.len = 8
  · rw [if_pos hwrite]
    rcases h.single hwrite.1 with hshort | ⟨-, hsame⟩
    · omega
    · rw [hsame, List.take_append_drop]
      exact Or.inl rfl
  rw [if_neg hwrite]
  cases hdone : completedRecord pre f with
  | none => exact Or.inl rfl
  | some written =>
    obtain ⟨r, hr, hite⟩ := Option.bind_eq_some_iff.mp hdone
    split_ifs at hite with hcompleted
    rcases h.full r written hr hcompleted hite with hfull | rfl
    · exact Or.inr ⟨written, rfl, r, _, hr, hcompleted,
        Request.carries_iff.mpr ⟨rfl, hcompleted.2.2, hfull⟩, hite⟩
    · exact Or.inl rfl

/-- A step with a harmless frame. -/
theorem Harmless.step {f : Frame} (hsound : Sound (lastTransfer pre) s.tp)
    (h : Harmless pre s.diag.ecuInfo f) : ∃ s', s.step f = some s' ∧
      (s'.diag.ecuInfo = s.diag.ecuInfo ∨ Completes pre f s'.diag.ecuInfo) := by
  have hlen : f.IsWrite → f.len ≤ 8 := fun hw => by
    rcases h.single hw with hshort | hfull
    · exact hshort.le
    · exact hfull.1.le
  rcases EcuState.step_spec hsound f with ⟨-, hbad⟩ | ⟨-, s', hs', -, hrecord⟩
  · exact absurd ⟨hlen, h.room⟩ hbad
  · refine ⟨s', hs', ?_⟩
    rcases h.recordAfter with hsame | ⟨written, hwritten, hcompletes⟩
    · exact Or.inl (Buffer.ext (hrecord.trans hsame))
    · have hrec : s'.diag.ecuInfo = written := Buffer.ext (hrecord.trans hwritten)
      exact Or.inr (hrec ▸ hcompletes)

/-- A frame that leaves the record alone, or completes a request that carries what is written, is
harmless. -/
theorem harmless_of_change {f : Frame} {s' : EcuState} (hsound : Sound (lastTransfer pre) s.tp)
    (hstep : s.step f = some s')
    (hchange : s'.diag.ecuInfo ≠ s.diag.ecuInfo → Completes pre f s'.diag.ecuInfo) :
    Harmless pre s.diag.ecuInfo f := by
  rcases EcuState.step_spec hsound f with ⟨hnone, -⟩ | ⟨⟨hlen, hroom⟩, u, hu, -, hrecord⟩
  · rw [hnone] at hstep
    cases hstep
  obtain rfl := Option.some.inj (hu.symm.trans hstep)
  refine ⟨fun hwrite => ?_, hroom, fun r written hr hcompleted hwritten => ?_⟩
  · rcases (hlen hwrite).lt_or_eq with hshort | hfull
    · exact Or.inl hshort
    · rw [recordAfter, if_pos ⟨hwrite, hfull⟩] at hrecord
      have hsame : u.diag.ecuInfo = s.diag.ecuInfo := by
        by_contra hne
        -- a frame that is a write by itself completes no request
        obtain ⟨r, -, -, hcompleted, -⟩ := hchange hne
        exact hwrite.1.2 (by rw [hcompleted.1.1.2]; decide)
      have htake := congrArg (List.take 4) hrecord
      rw [hsame, List.take_left' (by rw [List.length_drop, Buffer.length_cells])] at htake
      exact Or.inr ⟨hfull, htake.symm⟩
  · have hdone : completedRecord pre f = some written := by
      rw [completedRecord, hr, Option.bind_some, if_pos hcompleted, hwritten]
    have hnot : ¬ f.IsWrite := fun hw => hw.1.2 (by rw [hcompleted.1.1.2]; decide)
    rw [recordAfter, if_neg fun hw => hnot hw.1, hdone, Option.getD_some] at hrecord
    have hrec : u.diag.ecuInfo = written := Buffer.ext hrecord
    by_cases hsame : u.diag.ecuInfo = s.diag.ecuInfo
    · exact Or.inr (hrec.symm.trans hsame)
    · obtain ⟨r', uds, hr', -, hcarries, -⟩ := hchange hsame
      obtain rfl := Option.some.inj (hr'.symm.trans hr)
      exact Or.inl (Request.carries_iff.mp hcarries).2.2

end Run

/-- **Whole records of ECU information.** Whatever the sensors say, for every sequence of frames
the record is written atomically if and only if every frame is harmless after those before it:
it is no full frame that is a write by itself, unless the four bytes it puts over the record are
there; it leaves the buffer alone; and if it completes a write, then no frame of that is shorter
than what it has to carry, unless the record is the one that is there. -/
theorem writtenWhole_iff (tof : ToF) (ultrasonic : Ultrasonic) (frames : List Frame) :
    Atomic { tof := tof, ultrasonic := ultrasonic } frames ↔
      ∀ pre f s, pre ++ [f] <+: frames →
        Run.run EcuState.step { tof := tof, ultrasonic := ultrasonic } pre = some s →
          Harmless pre s.diag.ecuInfo f := by
  constructor
  · intro h pre f s hpre hrun
    obtain ⟨s', hrun'⟩ := Option.isSome_iff_exists.mp (h.runs _ hpre)
    obtain ⟨t, hrun₁, hstep⟩ := Run.run_append_eq_some.mp hrun'
    obtain rfl := Option.some.inj (hrun₁.symm.trans hrun)
    obtain ⟨u, hu, -⟩ := Run.run_cons_eq_some.mp hstep
    exact harmless_of_change (sound_ecuRun rfl hrun) hu (h.change pre f t u hpre hrun hu)
  · intro h
    have hall : ∀ pre, pre <+: frames →
        ∃ s, Run.run EcuState.step { tof := tof, ultrasonic := ultrasonic } pre = some s ∧
          (s.diag.ecuInfo = initialEcuInfo ∨
            ∃ earlier f, earlier ++ [f] <+: pre ∧ Completes earlier f s.diag.ecuInfo) := by
      intro pre hpre
      induction pre using List.reverseRecOn with
      | nil => exact ⟨_, rfl, Or.inl rfl⟩
      | append_singleton pre f ih =>
        obtain ⟨s, hrun, hwhole⟩ := ih ((List.prefix_append pre [f]).trans hpre)
        obtain ⟨s', hs', hrecord⟩ := (h pre f s hpre hrun).step (sound_ecuRun rfl hrun)
        refine ⟨s', Run.run_append_eq_some.mpr ⟨s, hrun, Run.run_cons_eq_some.mpr
          ⟨s', hs', rfl⟩⟩, ?_⟩
        rcases hrecord with hsame | hcompletes
        · rw [hsame]
          refine hwhole.imp_right ?_
          rintro ⟨earlier, g, hearlier, hcompletes⟩
          exact ⟨earlier, g, hearlier.trans (List.prefix_append pre [f]), hcompletes⟩
        · exact Or.inr ⟨pre, f, List.prefix_rfl, hcompletes⟩
    refine ⟨fun pre hpre => ?_, fun pre s hpre hrun => ?_, fun pre f s s' hpre hrun hstep hne => ?_⟩
    · obtain ⟨s, hrun, -⟩ := hall pre hpre
      rw [hrun]
      rfl
    · obtain ⟨t, hrun', hwhole⟩ := hall pre hpre
      obtain rfl := Option.some.inj (hrun'.symm.trans hrun)
      exact hwhole
    · obtain ⟨u, hu, hrecord⟩ := (h pre f s hpre hrun).step (sound_ecuRun rfl hrun)
      obtain rfl := Option.some.inj (hu.symm.trans hstep)
      exact hrecord.resolve_left hne

/-- A frame that is a write by itself, with four letters X. -/
def singleWrite : Frame :=
  ⟨0x7E0, Buffer.ofList 8 0 [0x07, 0x2E, 0x00, 0x05, 0x58, 0x58, 0x58, 0x58], 8⟩

/-- **A write in a single frame is answered, and leaves a record that nobody sent**: four letters
over the beginning of the initial one. -/
theorem singleWrite_not_atomic :
    (∃ s, Run.run EcuState.step EcuState.powerOn [singleWrite] = some s ∧
      s.diag.ecuInfo.cells = [0x58, 0x58, 0x58, 0x58] ++ initialEcuInfo.cells.drop 4) ∧
    ¬ Atomic EcuState.powerOn [singleWrite] := by
  have hsingle : singleWrite.IsSingle := by decide
  have hwrite : singleWrite.IsWrite ∧ singleWrite.len = 8 := by decide
  obtain ⟨s, hstep, hrecord⟩ : ∃ s, EcuState.powerOn.step singleWrite = some s ∧
      s.diag.ecuInfo.cells = [0x58, 0x58, 0x58, 0x58] ++ initialEcuInfo.cells.drop 4 := by
    rcases EcuState.step_single (s := EcuState.powerOn) hsingle with
      ⟨-, hlong, -⟩ | ⟨-, s, hstep, -, hrecord⟩
    · exact absurd hlong (by decide)
    · rw [if_pos hwrite] at hrecord
      exact ⟨s, hstep, hrecord⟩
  have hrun : Run.run EcuState.step EcuState.powerOn [singleWrite] = some s :=
    Run.run_cons_eq_some.mpr ⟨s, hstep, rfl⟩
  refine ⟨⟨s, hrun, hrecord⟩, fun hatomic => ?_⟩
  rcases hatomic.whole _ s List.prefix_rfl hrun with hinitial | ⟨earlier, f, hearlier, r, -, hr, -⟩
  · rw [hinitial] at hrecord
    revert hrecord
    decide
  · -- nothing comes before the only frame
    have hlen := hearlier.length_le
    rw [List.length_append, List.length_singleton, List.length_singleton] at hlen
    obtain rfl : earlier = [] := List.length_eq_zero_iff.mp (by omega)
    cases hr

end Ecu

end VehicleStack
