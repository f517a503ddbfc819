import VehicleStack.Ecu.Dtc
import VehicleStack.Ecu.ToF
import VehicleStack.Ecu.TpSend
import VehicleStack.Ecu.Ultrasonic

/-!
# The diagnostic services of the ECU

What `can.c` does with a UDS request. A request that fits one frame is taken apart by
`Can_RxIsrHandler` itself (`VehicleStack.Ecu.EcuState.singleFrame`); one that came in
several frames goes to `UDS_Dispatch_CompletedPdu`
(`VehicleStack.Ecu.Diagnostics.udsDispatchCompletedPdu`). The two know different
services and answer the ones they share each in their own way.

The interrupt handler's array has eight bytes. The single-frame write of the ECU
information copies as many bytes out of it as the frame's length code says, so a
length code above eight reads past the array; the model has no outcome then.
-/

namespace VehicleStack

namespace Ecu

/-! ### What the services work on -/

/-- `sizeof(info)`: five arrays of characters. -/
def sizeofInfo : ℕ := 18 + 20 + 20 + 20 + 20

/-- `info`. -/
abbrev EcuInfo : Type := Buffer UInt8 sizeofInfo

/-- The characters of a string, filled up with zeros. -/
def chars (n : ℕ) (s : String) : List UInt8 :=
  (Buffer.ofList n 0 (s.toList.map fun c => UInt8.ofNat c.toNat)).cells

/-- The initial `g_ecuInfo`. -/
def initialEcuInfo : EcuInfo :=
  Buffer.ofList _ 0 (chars 18 "MY_TC375_VIN_001" ++ chars 20 "TC375_HW_V1.0.0" ++
    chars 20 "MY_APP_SW_V1.2.3" ++ chars 20 "SN_ECU_1234567890" ++ chars 20 "MyProjectSupplier")

/-- `SensorThresholds_t`, with the initial `g_sensorThresholds`. -/
structure SensorThresholds where
  ultraMinMm : UInt16 := 0
  ultraMaxMm : UInt16 := 400
  tofMinMm : UInt16 := 0
  tofMaxMm : UInt16 := 5000
  deriving DecidableEq

/-- A sixteen-bit number in the memory of the ECU. -/
def shortAt (bytes : List UInt8) (i : ℕ) : UInt16 :=
  (bytes.getD i 0).toUInt16 ||| ((bytes.getD (i + 1) 0).toUInt16 <<< 8)

/-- Eight bytes copied over `g_sensorThresholds`. -/
def SensorThresholds.ofBytes (bytes : List UInt8) : SensorThresholds where
  ultraMinMm := shortAt bytes 0
  ultraMaxMm := shortAt bytes 2
  tofMinMm := shortAt bytes 4
  tofMaxMm := shortAt bytes 6

/-- `sizeof(SensorThresholds_t)`. -/
def sizeofSensorThresholds : ℕ := 8

/-- The variables of `can.c` that the services work on. -/
structure Diagnostics where
  dtcs : DtcStore := {}
  ecuInfo : EcuInfo := initialEcuInfo
  sensorThresholds : SensorThresholds := {}
  resultChar : Char := 'F'
  deriving DecidableEq

/-- The identifier responses are sent under. -/
def responseId : ℕ := 0x7E8

/-- A negative response. -/
def negativeResponse (sid code : UInt8) : Frame := sendMsg responseId [0x03, 0x7F, sid, code]

/-- An entry in a trouble code response. -/
def DtcEntry.bytes (e : DtcEntry) : List UInt8 :=
  [UInt8.ofNat ((e.dtcCode >>> 16) &&& 0xFF), UInt8.ofNat ((e.dtcCode >>> 8) &&& 0xFF),
    UInt8.ofNat (e.dtcCode &&& 0xFF), e.status]

/-- The response with all trouble codes. -/
def DtcStore.response (s : DtcStore) : List UInt8 :=
  [0x59, 0x02, 0xFF] ++ s.entries.flatMap DtcEntry.bytes

namespace Diagnostics

/-! ### Requests that came in several frames -/

/-- `UDS_Handle_14`. -/
def udsHandle14 (d : Diagnostics) : Diagnostics × List Frame :=
  ({ d with dtcs := {} }, [sendMsg responseId [0x02, 0x54, 0xFF]])

/-- `UDS_Handle_19`. -/
def udsHandle19 (d : Diagnostics) : Diagnostics × List Frame :=
  if d.dtcs.entries.length = 0 then (d, [sendMsg responseId [0x59, 0x02, 0x00]])
  else if 8 < d.dtcs.response.length then (d, canTpSend responseId d.dtcs.response)
  -- eight bytes go out as they are, without a length in front
  else (d, [sendMsg responseId d.dtcs.response])

/-- `UDS_Handle_2E_0005`. -/
def udsHandle2E0005 (d : Diagnostics) (uds : List UInt8) : Diagnostics × List Frame :=
  if uds.length < 3 + sizeofInfo then (d, [])
  else ({ d with ecuInfo := Buffer.ofList _ 0 (uds.drop 3) },
    [sendMsg responseId [0x03, 0x6E, 0x00, 0x05]])

/-- `UDS_Handle_2E_0006`. -/
def udsHandle2E0006 (d : Diagnostics) (uds : List UInt8) : Diagnostics × List Frame :=
  if uds.length < 3 + sizeofSensorThresholds then (d, [negativeResponse 0x2E 0x13])
  else ({ d with sensorThresholds := SensorThresholds.ofBytes (uds.drop 3) },
    [sendMsg responseId [0x03, 0x6E, 0x00, 0x06]])

/-- `UDS_Dispatch_CompletedPdu`, of the bytes of a request. -/
def udsDispatchCompletedPdu (d : Diagnostics) (uds : List UInt8) : Diagnostics × List Frame :=
  match uds with
  | [] => (d, [])
  | sid :: rest =>
    if sid = 0x14 then d.udsHandle14
    else if sid = 0x19 then d.udsHandle19
    else if sid = 0x2E then
      if rest.take 2 = [0x00, 0x05] then d.udsHandle2E0005 uds
      else if rest.take 2 = [0x00, 0x06] then d.udsHandle2E0006 uds
      else (d, [negativeResponse 0x2E 0x31])
    else (d, [negativeResponse sid 0x11])

/-! ### Requests in one frame -/

/-- The answer to a read of a sensor: `senVal` is its value, if there was a new one. -/
def sensorResponse (d : Diagnostics) (didH didL : UInt8) (senVal : Option ℕ)
    (min max : UInt16) (timeout outOfRange : ℕ) : Diagnostics × List Frame :=
  match senVal with
  | none =>
    ({ d with dtcs := d.dtcs.dtcReport timeout, resultChar := 'F' },
      [negativeResponse 0x22 0x11])
  | some senVal =>
    let fails := senVal < min.toNat ∨ max.toNat < senVal
    let resultChar := if fails then 'F' else 'P'
    ({ d with
        dtcs := if fails then d.dtcs.dtcReport outOfRange else d.dtcs
        resultChar := resultChar },
      [sendMsg responseId [0x06, 0x62, didH, didL, UInt8.ofNat ((senVal >>> 8) &&& 0xFF),
        UInt8.ofNat (senVal &&& 0xFF), UInt8.ofNat resultChar.toNat, 0]])

/-- The single-frame `WriteDataByIdentifier` of `Can_RxIsrHandler`. -/
def writeSingleFrame (d : Diagnostics) (rxData : Buffer UInt8 8) (rxLen : ℕ) :
    Option (Diagnostics × List Frame) :=
  if rxData.get 2 = 0x00 ∧ rxData.get 3 = 0x05 then
    if rxLen < 8 then some (d, [negativeResponse 0x2E 0x13])
    else
      let dataLen := min (rxLen - 4) sizeofInfo
      if dataLen ≤ 4 then
        (d.ecuInfo.write 0 ((rxData.cells.drop 4).take dataLen)).map fun ecuInfo =>
          ({ d with ecuInfo := ecuInfo }, [sendMsg responseId [0x04, 0x6E, 0x00, 0x05]])
      else none
  else some (d, [negativeResponse 0x2E 0x31])

end Diagnostics

/-! ### The interrupt handler -/

/-- The ECU as the CAN bus sees it: the transport, the services, and the sensors they
read. -/
structure EcuState where
  tp : Tp := {}
  diag : Diagnostics := {}
  tof : ToF
  ultrasonic : Ultrasonic

/-- The ECU after `core0_init`. -/
def EcuState.powerOn : EcuState where
  tof := ToF.start 64 16 byteQueueMaxBufSize_pos
  ultrasonic := Ultrasonic.start 64 32 eruEventQueueMaxBufSize_pos

/-- `senVal` of an ultrasonic sensor. -/
def UltrasonicData.senVal (d : UltrasonicData) : ℕ := d.distRawMm.toUInt32.toNat

/-- `senVal` of the time-of-flight sensor: `(unsigned int)(tof.distance_m * 1000.0f)`. -/
def ToFData.senVal (d : ToFData) : ℕ := (Float32.ofBits d.distanceM * 1000).toUInt32.toNat

namespace EcuState

/-- A read of an ultrasonic sensor; `sideIndex` is its number. -/
def readUltrasonic (s : EcuState) (didH didL : UInt8) (side : UltrasonicSide) (sideIndex : ℕ) :
    EcuState × List Frame :=
  let latest := s.ultrasonic.getLatestData side
  let response := s.diag.sensorResponse didH didL (latest.2.map UltrasonicData.senVal)
    s.diag.sensorThresholds.ultraMinMm s.diag.sensorThresholds.ultraMaxMm
    (0x010100 + sideIndex * 0x10) (0x010100 + sideIndex * 0x10 + 1)
  ({ s with ultrasonic := latest.1, diag := response.1 }, response.2)

/-- A read of the time-of-flight sensor. -/
def readToF (s : EcuState) (didH didL : UInt8) : EcuState × List Frame :=
  let latest := s.tof.getLatestData
  let response := s.diag.sensorResponse didH didL (latest.2.map ToFData.senVal)
    s.diag.sensorThresholds.tofMinMm s.diag.sensorThresholds.tofMaxMm 0x010200 0x010201
  ({ s with tof := latest.1, diag := response.1 }, response.2)

/-- `ReadDataByIdentifier` of `Can_RxIsrHandler`. -/
def readDataByIdentifier (s : EcuState) (didH didL : UInt8) : EcuState × List Frame :=
  if didH = 0x00 ∧ didL = 0x01 then s.readUltrasonic didH didL .left 0
  else if didH = 0x00 ∧ didL = 0x02 then s.readUltrasonic didH didL .right 1
  else if didH = 0x00 ∧ didL = 0x03 then s.readUltrasonic didH didL .rear 2
  else if didH = 0x00 ∧ didL = 0x04 then s.readToF didH didL
  else if didH = 0x00 ∧ didL = 0x05 then
    (s, canTpSend responseId ([0x62, didH, didL] ++ s.diag.ecuInfo.cells))
  else (s, [negativeResponse 0x22 0x11])

/-- `Can_RxIsrHandler`, from where single-frame requests are taken apart. -/
def singleFrame (s : EcuState) (rxData : Buffer UInt8 8) (rxLen : ℕ) :
    Option (EcuState × List Frame) :=
  let sid := rxData.get 1
  if sid = 0x2E then
    (s.diag.writeSingleFrame rxData rxLen).map fun r => ({ s with diag := r.1 }, r.2)
  else if sid = 0x22 then some (s.readDataByIdentifier (rxData.get 2) (rxData.get 3))
  else if sid = 0x19 then
    if rxData.get 2 = 0x02 then some (s, canTpSend responseId s.diag.dtcs.response)
    else some (s, [])
  else if sid = 0x14 then
    some ({ s with diag := { s.diag with dtcs := s.diag.dtcs.dtcClear } },
      [sendMsg responseId [0x02, 0x54, 0xFF]])
  else some (s, [negativeResponse sid 0x11])

/-- The request a transfer completed, if it did. -/
def dispatch (s : EcuState) (out : TpOutput) : EcuState × List Frame :=
  match out.completed with
  | none => (s, out.sent)
  | some (uds, len) =>
    let r := s.diag.udsDispatchCompletedPdu (uds.cells.take len)
    ({ s with diag := r.1 }, out.sent ++ r.2)

/-- `Can_RxIsrHandler`: the new state and the frames sent. -/
def canRxIsrHandler (s : EcuState) (f : Frame) : Option (EcuState × List Frame) :=
  (canRxDemux s.tp f).bind fun r =>
    match r.2 with
    | .discarded => some (s, [])
    | .transport out => some (dispatch { s with tp := r.1 } out)
    | .singleFrame rxData rxLen => singleFrame { s with tp := r.1 } rxData rxLen

/-- The state after a frame. -/
def step (s : EcuState) (f : Frame) : Option EcuState := (s.canRxIsrHandler f).map Prod.fst

end EcuState

/-! ### The length of a trouble code response -/

namespace DtcStore

theorem length_response (s : DtcStore) : s.response.length = 3 + s.entries.length * 4 := by
  have hentries : (s.entries.flatMap DtcEntry.bytes).length = s.entries.length * 4 := by
    rw [List.length_flatMap]
    change (s.entries.map fun _ => 4).sum = _
    rw [List.map_const', List.sum_replicate_nat]
  rw [response, List.length_append, hentries]
  rfl

/-- All trouble codes fit one transfer. -/
theorem length_response_le (s : DtcStore) : s.response.length ≤ 4095 := by
  have hle := s.length_le
  rw [length_response]
  simp only [maxDtcCount] at hle
  omega

end DtcStore

/-- A write of the ECU information that came in several frames. -/
theorem Diagnostics.udsDispatchCompletedPdu_ecuInfo (d : Diagnostics) {data : List UInt8}
    (h : sizeofInfo ≤ data.length) :
    d.udsDispatchCompletedPdu (0x2E :: 0x00 :: 0x05 :: data) =
      ({ d with ecuInfo := Buffer.ofList _ 0 data },
        [sendMsg responseId [0x03, 0x6E, 0x00, 0x05]]) := by
  change d.udsHandle2E0005 (0x2E :: 0x00 :: 0x05 :: data) = _
  rw [udsHandle2E0005, if_neg (by simp only [List.length_cons]; omega)]
  rfl

/-! ### Which frames go where -/

/-- A frame that is a request in itself for the interrupt handler. -/
def Frame.IsSingle (f : Frame) : Prop := 0x700 ≤ f.id ∧ ¬ (1 ≤ pci f.data ∧ pci f.data ≤ 2)

instance : DecidablePred Frame.IsSingle := fun f =>
  inferInstanceAs (Decidable (0x700 ≤ f.id ∧ ¬ (1 ≤ pci f.data ∧ pci f.data ≤ 2)))

namespace EcuState

/-- A request in one frame is taken apart at once. -/
theorem canRxIsrHandler_of_isSingle (s : EcuState) {f : Frame} (h : f.IsSingle) :
    s.canRxIsrHandler f = s.singleFrame f.data f.len := by
  have hid : ¬ f.id < 0x700 := Nat.not_lt.mpr h.1
  rw [canRxIsrHandler, canRxDemux, if_neg hid, if_neg h.2]
  rfl

/-! ### Requests that come in several frames -/

/-- The services after the requests the transport handed on, which come with their
lengths. -/
def serve (d : Diagnostics) (pdus : List (List UInt8 × ℕ)) : Diagnostics :=
  pdus.foldl (fun d pdu => (d.udsDispatchCompletedPdu pdu.1).1) d

theorem serve_append (d : Diagnostics) (pdus pdus' : List (List UInt8 × ℕ)) :
    serve d (pdus ++ pdus') = serve (serve d pdus) pdus' := List.foldl_append

/-- **A frame of a transfer** changes the transport, and the services by the request
that it completes. -/
theorem step_of_transport {s : EcuState} {f : Frame} (h : f.IsFirst ∨ f.IsConsecutive) {tp : Tp}
    (htp : rxStep s.tp f = some tp) :
    s.step f = some { s with tp := tp, diag := serve s.diag (rxPdus s.tp f) } := by
  have hid : ¬ f.id < 0x700 := by
    rcases h with hfirst | hconsecutive
    · exact Nat.not_lt.mpr hfirst.1
    · exact Nat.not_lt.mpr hconsecutive.1
  have hpci : 1 ≤ pci f.data ∧ pci f.data ≤ 2 := by
    rcases h with hfirst | hconsecutive
    · rw [hfirst.2]
      decide
    · rw [hconsecutive.2]
      decide
  rw [rxStep, canRxDemux, if_neg hid, if_pos hpci, Option.map_map] at htp
  obtain ⟨r, hr, rfl⟩ := Option.map_eq_some_iff.mp htp
  rw [step, canRxIsrHandler, rxPdus, canRxDemux, if_neg hid, if_pos hpci, hr]
  obtain ⟨tp, sent, completed⟩ := r
  cases completed <;> rfl

/-- **The frames of transfers**, one after the other. -/
theorem run_of_transport {frames : List Frame} (h : ∀ f ∈ frames, f.IsFirst ∨ f.IsConsecutive)
    {s : EcuState} {tp : Tp} (hrun : Run.run rxStep s.tp frames = some tp) :
    Run.run step s frames =
      some { s with tp := tp, diag := serve s.diag (Run.observe rxStep rxPdus s.tp frames) } := by
  induction frames generalizing s with
  | nil =>
    obtain rfl := Option.some.inj hrun
    rfl
  | cons f frames ih =>
    obtain ⟨t, hf, hrest⟩ := Run.run_cons_eq_some.mp hrun
    refine Run.run_cons_eq_some.mpr ⟨_, step_of_transport (h f List.mem_cons_self) hf, ?_⟩
    rw [Run.observe_cons _ _ hf, serve_append]
    exact ih (fun f hf => h f (List.mem_cons_of_mem _ hf)) hrest

/-! ### Single-frame requests by service -/

theorem singleFrame_write (s : EcuState) {rxData : Buffer UInt8 8} (rxLen : ℕ)
    (h : rxData.get 1 = 0x2E) : s.singleFrame rxData rxLen =
      (s.diag.writeSingleFrame rxData rxLen).map fun r => ({ s with diag := r.1 }, r.2) := by
  rw [singleFrame, h]
  rfl

theorem singleFrame_read (s : EcuState) {rxData : Buffer UInt8 8} (rxLen : ℕ)
    (h : rxData.get 1 = 0x22) : s.singleFrame rxData rxLen =
      some (s.readDataByIdentifier (rxData.get 2) (rxData.get 3)) := by
  rw [singleFrame, h]
  rfl

theorem singleFrame_readDtc (s : EcuState) {rxData : Buffer UInt8 8} (rxLen : ℕ)
    (h : rxData.get 1 = 0x19) (hsub : rxData.get 2 = 0x02) : s.singleFrame rxData rxLen =
      some (s, canTpSend responseId s.diag.dtcs.response) := by
  rw [singleFrame, h, hsub]
  rfl

theorem singleFrame_clear (s : EcuState) {rxData : Buffer UInt8 8} (rxLen : ℕ)
    (h : rxData.get 1 = 0x14) : s.singleFrame rxData rxLen =
      some ({ s with diag := { s.diag with dtcs := {} } },
        [sendMsg responseId [0x02, 0x54, 0xFF]]) := by
  rw [singleFrame, h]
  rfl

end EcuState

end Ecu

end VehicleStack
