import VehicleStack.Ecu.Uds
import VehicleStack.Tester.Parse

/-!
# Short requests on the two paths of the ECU

A request of at most seven bytes can reach the services of `can.c` in one frame or,
if its sender splits it all the same, through `UDS_Dispatch_CompletedPdu`. The two
implement reading and clearing of trouble codes and writing by identifier twice.
`VehicleStack.Tester.pathsAgree_iff` says for which requests, states and frames they
leave the same behind and send what the tester puts together to the same response.

They do not where a response goes out without a length in front of it, which is what
`UDS_Handle_19` does for no trouble codes or one, and where a single frame carries a
write of the ECU information: the interrupt handler copies four bytes and
acknowledges, whereas the other path finds the request too short and stays silent.
-/

namespace VehicleStack

namespace Tester

open Ecu

/-- A single frame that carries a request, whatever follows it in the frame. -/
structure Carries (f : Frame) (pdu : List UInt8) : Prop where
  id : 0x700 ≤ f.id
  length : f.data.get 0 = UInt8.ofNat pdu.length
  bytes : pdu <+: f.data.cells.drop 1
  length_lt : pdu.length < f.len
  len_le : f.len ≤ 8

/-- A request to clear or read the trouble codes or to write by identifier. -/
def IsShared (pdu : List UInt8) : Prop :=
  pdu.head? = some 0x14 ∨ pdu.take 2 = [0x19, 0x02] ∨ pdu.head? = some 0x2E

/-- The response the tester puts together from the frames the ECU sent. -/
def reconstructed (pdu : List UInt8) (frames : List Frame) : Option (List UInt8) :=
  (reassemble (pdu.headD 0).toNat (frames.map Message.ofFrame)).map Reassembly.payload

/-- The frame and the request in it have the same effect on the trouble codes, the
ECU information and the thresholds, and the same response. -/
def PathsAgree (s : EcuState) (f : Frame) (pdu : List UInt8) : Prop :=
  ∃ s' frames, s.canRxIsrHandler f = some (s', frames) ∧
    s'.diag.dtcs = (s.diag.udsDispatchCompletedPdu pdu).1.dtcs ∧
    s'.diag.ecuInfo = (s.diag.udsDispatchCompletedPdu pdu).1.ecuInfo ∧
    s'.diag.sensorThresholds = (s.diag.udsDispatchCompletedPdu pdu).1.sensorThresholds ∧
    reconstructed pdu frames = reconstructed pdu (s.diag.udsDispatchCompletedPdu pdu).2

/-! ### What the frame says -/

section Carries

variable {f : Frame} {pdu : List UInt8}

theorem Carries.length_le (h : Carries f pdu) : pdu.length ≤ 7 := by
  have hlt := h.length_lt
  have hle := h.len_le
  omega

theorem Carries.isSingle (h : Carries f pdu) : f.IsSingle := by
  have hsmall : ∀ n : Fin 8, ¬ ((1 : UInt8) ≤ UInt8.ofNat n.val >>> 4 ∧
      UInt8.ofNat n.val >>> 4 ≤ (2 : UInt8)) := by decide
  refine ⟨h.id, ?_⟩
  rw [pci, h.length]
  exact hsmall ⟨pdu.length, Nat.lt_succ_of_le h.length_le⟩

/-- The bytes of the request are those behind the length. -/
theorem Carries.get (h : Carries f pdu) {i : ℕ} {b : UInt8} (hb : pdu[i]? = some b) (hi : i < 7) :
    f.data.get ⟨i + 1, by omega⟩ = b := by
  obtain ⟨more, hmore⟩ := h.bytes
  have hcell : f.data.cells[i + 1]? = some b := by
    have := congrArg (fun l => l[i]?) hmore
    simp only [List.getElem?_drop] at this
    rw [Nat.add_comm, ← this]
    exact List.getElem?_append_left (List.getElem?_eq_some_iff.mp hb).1 |>.trans hb
  have hlt : i + 1 < f.data.cells.length := by
    rw [Buffer.length_cells]
    omega
  rw [List.getElem?_eq_getElem hlt, Option.some_inj] at hcell
  exact hcell

end Carries

/-! ### What the tester makes of the responses -/

/-- A frame that does not begin like any the tester knows is passed over. -/
theorem step_unknown {m : Message} {d0 : UInt8} {data : List UInt8} (h : m.data = d0 :: data)
    (hpci : (3 : UInt8) < d0 >>> 4) (sid : UInt8) (r : Reassembly) : r.step sid m = some r := by
  have hne : ∀ p : UInt8, p ≤ 3 → d0 >>> 4 ≠ p := by
    rintro p hp rfl
    exact absurd (UInt8.lt_of_lt_of_le hpci hp) (UInt8.lt_irrefl _)
  rw [Reassembly.step, h]
  change (if d0 >>> 4 = 3 then _ else _) = _
  rw [if_neg (hne 3 (by decide)), if_neg (hne 0 (by decide)), if_neg (hne 1 (by decide)),
    if_neg fun hcf => hne 2 (by decide) hcf.1]

/-- A response that goes out as it is, without a length, is lost. -/
theorem reconstructed_raw (pdu : List UInt8) {bytes : List UInt8} (h : bytes.length ≤ 7) :
    reconstructed pdu [sendMsg responseId (0x59 :: bytes)] = some [] := by
  have hstep := step_unknown (data_ofFrame_sendMsg h) (by decide)
    (posSid (pdu.headD 0).toNat) (m := Message.ofFrame (sendMsg responseId (0x59 :: bytes))) {}
  rw [reconstructed, reassemble, List.map_singleton, Run.run_cons, hstep]
  rfl

theorem reconstructed_canTpSend {pdu response : List UInt8} (hhi : response.length ≤ 4095)
    (hsid : response.head? = some (posSid (pdu.headD 0).toNat)) :
    reconstructed pdu (canTpSend responseId response) = some response := by
  obtain ⟨r, hrun, hpayload, -⟩ := run_canTpSend responseId hhi hsid
  rw [reconstructed, reassemble, hrun, Option.map_some, hpayload]

/-- Negative responses leave no payload: they do not begin as the response would. -/
theorem reconstructed_negativeResponse (pdu : List UInt8)
    (h : posSid (pdu.headD 0).toNat ≠ 0x7F) (sid code : UInt8) :
    reconstructed pdu [negativeResponse sid code] = some [] := by
  have hdata : (Message.ofFrame (sendMsg responseId [0x03, 0x7F, sid, code])).data = _ :=
    data_ofFrame_sendMsg (show 3 ≤ 7 by decide)
  have hstep : Reassembly.step (posSid (pdu.headD 0).toNat) {}
      (Message.ofFrame (negativeResponse sid code)) = some {} :=
    (step_singleFrame hdata (by decide) _ _).trans (if_neg h.symm)
  rw [reconstructed, reassemble, List.map_singleton, Run.run_cons, hstep]
  rfl

/-! ### One service after the other -/

section Services

variable {s : EcuState} {f : Frame} {rest : List UInt8}

/-- The handler has one outcome, so that is the one compared. -/
theorem pathsAgree_iff_of_run {pdu : List UInt8} {s' : EcuState} {frames : List Frame}
    (hrun : s.canRxIsrHandler f = some (s', frames)) : PathsAgree s f pdu ↔
      s'.diag.dtcs = (s.diag.udsDispatchCompletedPdu pdu).1.dtcs ∧
      s'.diag.ecuInfo = (s.diag.udsDispatchCompletedPdu pdu).1.ecuInfo ∧
      s'.diag.sensorThresholds = (s.diag.udsDispatchCompletedPdu pdu).1.sensorThresholds ∧
      reconstructed pdu frames = reconstructed pdu (s.diag.udsDispatchCompletedPdu pdu).2 := by
  constructor
  · rintro ⟨s'', frames', hrun', hagree⟩
    obtain ⟨rfl, rfl⟩ := Prod.mk.inj (Option.some.inj (hrun.symm.trans hrun'))
    exact hagree
  · intro hagree
    exact ⟨s', frames, hrun, hagree⟩

/-- Clearing the trouble codes is the same on both paths. -/
theorem pathsAgree_clear (h : Carries f (0x14 :: rest)) : PathsAgree s f (0x14 :: rest) := by
  have hsid : f.data.get 1 = 0x14 := h.get (i := 0) rfl (by decide)
  have hrun := EcuState.canRxIsrHandler_of_isSingle s h.isSingle
  rw [EcuState.singleFrame_clear s f.len hsid] at hrun
  exact (pathsAgree_iff_of_run hrun).mpr ⟨rfl, rfl, rfl, rfl⟩

/-- Reading the trouble codes changes nothing. -/
theorem udsHandle19_fst (d : Diagnostics) : d.udsHandle19.1 = d := by
  rw [Diagnostics.udsHandle19]
  split
  · rfl
  · split <;> rfl

/-- **Reading the trouble codes** is the same on both paths from two codes on. -/
theorem pathsAgree_readDtc_iff (h : Carries f (0x19 :: 0x02 :: rest)) :
    PathsAgree s f (0x19 :: 0x02 :: rest) ↔ 2 ≤ s.diag.dtcs.entries.length := by
  have hsid : f.data.get 1 = 0x19 := h.get (i := 0) rfl (by decide)
  have hsub : f.data.get 2 = 0x02 := h.get (i := 1) rfl (by decide)
  have hrun := EcuState.canRxIsrHandler_of_isSingle s h.isSingle
  rw [EcuState.singleFrame_readDtc s f.len hsid hsub] at hrun
  have hlen := s.diag.dtcs.length_response
  have hsingle : reconstructed (0x19 :: 0x02 :: rest)
      (canTpSend responseId s.diag.dtcs.response) = some s.diag.dtcs.response :=
    reconstructed_canTpSend (DtcStore.length_response_le _)
      (congrArg some (show (0x59 : UInt8) = posSid 0x19 by decide))
  have hdispatch : s.diag.udsDispatchCompletedPdu (0x19 :: 0x02 :: rest) = s.diag.udsHandle19 := rfl
  have hlost : reconstructed (0x19 :: 0x02 :: rest)
      (canTpSend responseId s.diag.dtcs.response) ≠ some [] := by
    rw [hsingle]
    rintro hnil
    rw [Option.some.inj hnil] at hlen
    exact absurd hlen (by rw [List.length_nil]; omega)
  rw [pathsAgree_iff_of_run hrun, hdispatch, udsHandle19_fst, Diagnostics.udsHandle19]
  simp only [true_and]
  by_cases hempty : s.diag.dtcs.entries.length = 0
  · rw [if_pos hempty, reconstructed_raw _ (by decide)]
    exact iff_of_false hlost (by omega)
  · rw [if_neg hempty]
    by_cases hone : s.diag.dtcs.entries.length = 1
    · rw [if_neg (by omega), DtcStore.response, List.cons_append, reconstructed_raw]
      · exact iff_of_false hlost (by omega)
      · rw [DtcStore.response, List.cons_append, List.length_cons] at hlen
        omega
    · rw [if_pos (by omega)]
      exact iff_of_true rfl (by omega)

/-- A request to write of at most seven bytes is too short for either identifier when it
came in several frames. -/
theorem udsDispatchCompletedPdu_write_short (d : Diagnostics) (h : rest.length ≤ 6) :
    (d.udsDispatchCompletedPdu (0x2E :: rest)).1 = d ∧
      reconstructed (0x2E :: rest) (d.udsDispatchCompletedPdu (0x2E :: rest)).2 = some [] := by
  have hneg := reconstructed_negativeResponse (0x2E :: rest)
    (show posSid 0x2E ≠ 0x7F by decide) 0x2E
  have hdispatch : d.udsDispatchCompletedPdu (0x2E :: rest) =
      if rest.take 2 = [0x00, 0x05] then d.udsHandle2E0005 (0x2E :: rest)
      else if rest.take 2 = [0x00, 0x06] then d.udsHandle2E0006 (0x2E :: rest)
      else (d, [negativeResponse 0x2E 0x31]) := rfl
  rw [hdispatch]
  split
  · rw [Diagnostics.udsHandle2E0005, if_pos (by rw [List.length_cons, sizeofInfo]; omega)]
    exact ⟨rfl, rfl⟩
  · split
    · rw [Diagnostics.udsHandle2E0006,
        if_pos (by rw [List.length_cons, sizeofSensorThresholds]; omega)]
      exact ⟨rfl, hneg 0x13⟩
    · exact ⟨rfl, hneg 0x31⟩

/-- A full frame with the identifier of the ECU information overwrites its beginning. -/
theorem writeSingleFrame_full (d : Diagnostics) {rxData : Buffer UInt8 8}
    (hdid : rxData.get 2 = 0x00 ∧ rxData.get 3 = 0x05) : ∃ ecuInfo,
      d.writeSingleFrame rxData 8 =
        some ({ d with ecuInfo := ecuInfo }, [sendMsg responseId [0x04, 0x6E, 0x00, 0x05]]) := by
  have hfits : 0 + ((rxData.cells.drop 4).take 4).length ≤ sizeofInfo := by
    rw [List.length_take, sizeofInfo]
    omega
  obtain ⟨ecuInfo, hwrite⟩ := Option.isSome_iff_exists.mp
    ((Buffer.write_isSome_iff (b := d.ecuInfo)).mpr hfits)
  refine ⟨ecuInfo, ?_⟩
  rw [Diagnostics.writeSingleFrame, if_pos hdid, if_neg (by decide)]
  change (d.ecuInfo.write 0 ((rxData.cells.drop 4).take 4)).map _ = _
  rw [hwrite, Option.map_some]

/-- Every other frame with a request to write is turned down. -/
theorem writeSingleFrame_turnedDown (d : Diagnostics) (rxData : Buffer UInt8 8) (rxLen : ℕ)
    (h : ¬ (rxData.get 2 = 0x00 ∧ rxData.get 3 = 0x05 ∧ 8 ≤ rxLen)) : ∃ code,
      d.writeSingleFrame rxData rxLen = some (d, [negativeResponse 0x2E code]) := by
  rw [Diagnostics.writeSingleFrame]
  by_cases hdid : rxData.get 2 = 0x00 ∧ rxData.get 3 = 0x05
  · have hlen : rxLen < 8 := Nat.lt_of_not_le fun hlen => h ⟨hdid.1, hdid.2, hlen⟩
    rw [if_pos hdid, if_pos hlen]
    exact ⟨0x13, rfl⟩
  · rw [if_neg hdid]
    exact ⟨0x31, rfl⟩

/-- **Writing by identifier** is the same on both paths but for a full frame with the
identifier of the ECU information. -/
theorem pathsAgree_write_iff (h : Carries f (0x2E :: rest)) :
    PathsAgree s f (0x2E :: rest) ↔
      ¬ (f.data.get 2 = 0x00 ∧ f.data.get 3 = 0x05 ∧ f.len = 8) := by
  have hsid : f.data.get 1 = 0x2E := h.get (i := 0) rfl (by decide)
  have hshort : rest.length ≤ 6 := Nat.le_of_succ_le_succ h.length_le
  obtain ⟨hdiag, hsilent⟩ := udsDispatchCompletedPdu_write_short s.diag hshort
  have hrun := EcuState.canRxIsrHandler_of_isSingle s h.isSingle
  rw [EcuState.singleFrame_write s f.len hsid] at hrun
  by_cases hfull : f.data.get 2 = 0x00 ∧ f.data.get 3 = 0x05 ∧ f.len = 8
  · obtain ⟨ecuInfo, hwrite⟩ := writeSingleFrame_full s.diag ⟨hfull.1, hfull.2.1⟩
    rw [hfull.2.2, hwrite, Option.map_some] at hrun
    refine iff_of_false (fun hagree => ?_) (not_not.mpr hfull)
    -- the interrupt handler acknowledges the four bytes it copied
    have hframes := ((pathsAgree_iff_of_run hrun).mp hagree).2.2.2
    have hacknowledged : reconstructed (0x2E :: rest)
        [sendMsg responseId [0x04, 0x6E, 0x00, 0x05]] = some [0x6E, 0x00, 0x05, 0x00] := by
      change (reassemble 0x2E _).map Reassembly.payload = _
      decide
    rw [hsilent, hacknowledged] at hframes
    exact absurd hframes (by decide)
  · obtain ⟨code, hwrite⟩ := writeSingleFrame_turnedDown s.diag f.data f.len
      fun hlen => hfull ⟨hlen.1, hlen.2.1, Nat.le_antisymm h.len_le hlen.2.2⟩
    rw [hwrite, Option.map_some] at hrun
    refine iff_of_true ((pathsAgree_iff_of_run hrun).mpr ?_) hfull
    rw [hdiag, hsilent]
    exact ⟨rfl, rfl, rfl,
      reconstructed_negativeResponse (0x2E :: rest)
        (show posSid 0x2E ≠ 0x7F by decide) _ _⟩

end Services

/-- **When the two paths agree.** Clearing always; reading the trouble codes when at least
two are stored; writing unless the frame is full and has the identifier of the ECU
information behind the service. -/
theorem pathsAgree_iff {s : EcuState} {f : Frame} {pdu : List UInt8} (h : Carries f pdu)
    (hservice : IsShared pdu) : PathsAgree s f pdu ↔
      pdu.head? = some 0x14 ∨
      (pdu.head? = some 0x19 ∧ 2 ≤ s.diag.dtcs.entries.length) ∨
      (pdu.head? = some 0x2E ∧ ¬ (f.data.get 2 = 0x00 ∧ f.data.get 3 = 0x05 ∧ f.len = 8)) := by
  rcases hservice with hclear | hread | hwrite
  · obtain ⟨rest, rfl⟩ := List.head?_eq_some_iff.mp hclear
    exact iff_of_true (pathsAgree_clear h) (.inl rfl)
  · obtain ⟨rest, rfl⟩ : ∃ rest, pdu = 0x19 :: 0x02 :: rest :=
      ⟨pdu.drop 2, (List.take_append_drop 2 pdu).symm.trans (by rw [hread]; rfl)⟩
    rw [pathsAgree_readDtc_iff h]
    simp
  · obtain ⟨rest, rfl⟩ := List.head?_eq_some_iff.mp hwrite
    rw [pathsAgree_write_iff h]
    simp

/-- The ECU with two trouble codes stored. -/
def twoCodes : EcuState :=
  { EcuState.powerOn with
    diag := { dtcs := (({} : DtcStore).dtcReport 0x123456).dtcReport 0xABCDEF } }

/-- Both paths answer a read of two trouble codes alike. -/
theorem pathsAgree_readFrame : PathsAgree twoCodes
    (sendMsg 0x7E0 [0x03, 0x19, 0x02, 0xFF]) [0x19, 0x02, 0xFF] := by
  have hcarries : Carries (sendMsg 0x7E0 [0x03, 0x19, 0x02, 0xFF]) [0x19, 0x02, 0xFF] :=
    ⟨by decide, by decide, by decide, by decide, by decide⟩
  have hstored : 2 ≤ twoCodes.diag.dtcs.entries.length := by decide
  exact (pathsAgree_iff hcarries (.inr (.inl rfl))).mpr (.inr (.inl ⟨rfl, hstored⟩))

/-- With no trouble codes stored, the two paths answer a read differently: the tester
gets the response only from the interrupt handler. -/
theorem not_pathsAgree_powerOn : Carries (sendMsg 0x7E0 [0x03, 0x19, 0x02, 0xFF])
      [0x19, 0x02, 0xFF] ∧
    IsShared [0x19, 0x02, 0xFF] ∧
    ¬ PathsAgree EcuState.powerOn (sendMsg 0x7E0 [0x03, 0x19, 0x02, 0xFF]) [0x19, 0x02, 0xFF] := by
  have hcarries : Carries (sendMsg 0x7E0 [0x03, 0x19, 0x02, 0xFF]) [0x19, 0x02, 0xFF] :=
    ⟨by decide, by decide, by decide, by decide, by decide⟩
  refine ⟨hcarries, .inr (.inl rfl), fun hagree => ?_⟩
  exact absurd ((pathsAgree_readDtc_iff hcarries).mp hagree) (by decide)

end Tester

end VehicleStack
