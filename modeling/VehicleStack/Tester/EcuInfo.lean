import VehicleStack.Tester.Read

/-!
# Writing the ECU information and reading it back

`get_info_bytes` of the tester fills five fields up to a hundred bytes: eighteen for
the VIN, two of padding, and twenty for each of the others. The structure `info` of
the ECU has the same five arrays without the padding, so it takes the first
ninety-eight of the bytes, and that many are in the response to a read. The tester
expects a hundred and shows nothing of a shorter response
(`VehicleStack.Tester.readByDid_ecuInfo`), whatever the fields are
(`VehicleStack.Tester.not_readsBack`).
-/

namespace VehicleStack

namespace Tester

open Ecu

/-- `to_fixed_bytes`: what is ASCII of a string, cut or filled up to a length. -/
def toFixedBytes (s : String) (length : ℕ) : List UInt8 :=
  let b := ((s.toList.filter fun c => c.toNat < 128).map fun c => UInt8.ofNat c.toNat).take length
  b ++ List.replicate (length - b.length) 0

/-- The fields of `ECUInfoDialog`. -/
structure InfoFields where
  vin : String
  hw : String
  sw : String
  sn : String
  supplier : String
  deriving DecidableEq

namespace InfoFields

/-- `get_info_bytes`. -/
def getInfoBytes (i : InfoFields) : List UInt8 :=
  toFixedBytes i.vin 18 ++ [0, 0] ++ toFixedBytes i.hw 20 ++ toFixedBytes i.sw 20 ++
    toFixedBytes i.sn 20 ++ toFixedBytes i.supplier 20

/-- Fields of ASCII characters other than zero, none of them too long. -/
def Valid (i : InfoFields) : Prop :=
  (∀ s ∈ [i.vin, i.hw, i.sw, i.sn, i.supplier], ∀ c ∈ s.toList, 0 < c.toNat ∧ c.toNat < 128) ∧
    i.vin.length ≤ 18 ∧ i.hw.length ≤ 20 ∧ i.sw.length ≤ 20 ∧ i.sn.length ≤ 20 ∧
    i.supplier.length ≤ 20

/-- The fields on the dashboard. -/
def display (i : InfoFields) : Display := .ecuInfo i.vin i.hw i.sw i.sn i.supplier

end InfoFields

/-- The exchange is a write of the fields, and none of its frames is lost. -/
structure Exchange.WritesInfo (x : Exchange) (fields : InfoFields) : Prop where
  did : x.did = 0x0005
  data : x.data = fields.getInfoBytes
  complete : x.Complete

/-- After the ECU has heard the exchange, `read_by_did` shows the fields. -/
def ReadsBack (s : EcuState) (x : Exchange) (fields : InfoFields) : Prop :=
  ∃ s', Run.run EcuState.step s x.arrivals = some s' ∧
    readByDid s' 0x0005 = some fields.display

@[simp]
theorem length_toFixedBytes (s : String) (n : ℕ) : (toFixedBytes s n).length = n := by
  rw [toFixedBytes, List.length_append, List.length_replicate, List.length_take]
  omega

theorem length_getInfoBytes (i : InfoFields) : i.getInfoBytes.length = 100 := by
  simp [InfoFields.getInfoBytes]

/-- The dashboard wants a hundred bytes. -/
theorem displayRead_short {data : List UInt8} (h : data.length < 100) :
    displayRead 0x0005 data = .nothing :=
  (if_pos rfl).trans (if_pos h)

/-- **What `read_by_did` shows of the ECU information**: nothing, in any state. -/
theorem readByDid_ecuInfo (s : EcuState) : readByDid s 0x0005 = some .nothing := by
  have hsingle : (readByDidRequest 0x0005).frame.IsSingle := by decide
  have hsent : s.canRxIsrHandler (readByDidRequest 0x0005).frame =
      some (s, canTpSend responseId ([0x62, 0x00, 0x05] ++ s.diag.ecuInfo.cells)) := by
    rw [EcuState.canRxIsrHandler_of_isSingle s hsingle, EcuState.singleFrame_read s _ (by decide)]
    rfl
  have hlen : ([0x62, 0x00, 0x05] ++ s.diag.ecuInfo.cells).length ≤ 4095 := by
    rw [List.length_append, Buffer.length_cells]
    decide
  have hshort : s.diag.ecuInfo.cells.length < 100 := by
    rw [Buffer.length_cells]
    decide
  have hdisplay : display 0x22 0x0005 ([0x62, 0x00, 0x05] ++ s.diag.ecuInfo.cells) =
      displayRead 0x0005 s.diag.ecuInfo.cells := rfl
  rw [readByDid, hsent, Option.bind_some, parseUdsResponse_canTpSend 0x22 0x0005 hlen (by rfl),
    hdisplay, displayRead_short hshort]

/-- **The write** is taken up, as far as the ECU has room for it. -/
theorem run_writesInfo (s : EcuState) {x : Exchange} {fields : InfoFields}
    (hx : x.WritesInfo fields) : ∃ s', Run.run EcuState.step s x.arrivals = some s' ∧
      s'.diag.ecuInfo.cells = fields.getInfoBytes.take sizeofInfo := by
  have hlen : sizeofInfo ≤ fields.getInfoBytes.length := by
    rw [length_getInfoBytes]
    decide
  have huds : x.uds = 0x2E :: 0x00 :: 0x05 :: fields.getInfoBytes := by
    rw [Exchange.uds, hx.did, hx.data]
    rfl
  obtain ⟨tp, hrun, hobserve⟩ := x.observe_arrivals s.tp
  refine ⟨_, EcuState.run_of_transport (fun f => x.transport_arrivals) hrun, ?_⟩
  rw [hobserve, if_pos hx.complete, EcuState.serve, List.foldl_cons, List.foldl_nil, huds,
    s.diag.udsDispatchCompletedPdu_ecuInfo hlen]
  exact Buffer.ofList_cells_of_ge hlen

/-- **The ECU information never reads back.** Every write is taken up, short of its last
two bytes, and what the tester then reads is too short for it to show. -/
theorem not_readsBack (s : EcuState) {x : Exchange} {fields : InfoFields}
    (hx : x.WritesInfo fields) :
    (∃ s', Run.run EcuState.step s x.arrivals = some s' ∧
      s'.diag.ecuInfo.cells = fields.getInfoBytes.take sizeofInfo ∧
      readByDid s' 0x0005 = some .nothing) ∧ ¬ ReadsBack s x fields := by
  obtain ⟨s', hrun, hstored⟩ := run_writesInfo s hx
  refine ⟨⟨s', hrun, hstored, readByDid_ecuInfo s'⟩, ?_⟩
  rintro ⟨s'', -, hshown⟩
  rw [readByDid_ecuInfo] at hshown
  exact absurd hshown nofun

/-- The information the ECU has at first, as the tester would write it. -/
def initialFields : InfoFields where
  vin := "MY_TC375_VIN_001"
  hw := "TC375_HW_V1.0.0"
  sw := "MY_APP_SW_V1.2.3"
  sn := "SN_ECU_1234567890"
  supplier := "MyProjectSupplier"

/-- A write of these fields in which every frame arrives once. -/
def initialWrite : Exchange :=
  Exchange.undisturbed 0x0005 initialFields.getInfoBytes (by decide) (by decide)

theorem initialWrite_writesInfo : initialWrite.WritesInfo initialFields :=
  ⟨rfl, rfl, Exchange.complete_undisturbed _ _⟩

theorem not_readsBack_initialWrite :
    (∃ s', Run.run EcuState.step EcuState.powerOn initialWrite.arrivals = some s' ∧
      s'.diag.ecuInfo.cells = initialFields.getInfoBytes.take sizeofInfo ∧
      readByDid s' 0x0005 = some .nothing) ∧
    ¬ ReadsBack EcuState.powerOn initialWrite initialFields :=
  not_readsBack EcuState.powerOn initialWrite_writesInfo

/-- Valid fields, written without any loss, that do not read back. -/
theorem initialFields_lost : initialFields.Valid ∧ initialWrite.WritesInfo initialFields ∧
    ¬ ReadsBack EcuState.powerOn initialWrite initialFields := by
  have hvalid : initialFields.Valid := by
    refine ⟨?_, by decide, by decide, by decide, by decide, by decide⟩
    simp [initialFields]
  refine ⟨hvalid, initialWrite_writesInfo, ?_⟩
  rintro ⟨s', -, hshown⟩
  rw [readByDid_ecuInfo] at hshown
  exact absurd hshown nofun

end Tester

end VehicleStack
