import VehicleStack.Ecu.Uds
import VehicleStack.Tester.Parse

/-!
# Reads from the diagnostic tester

`read_by_did` and `read_dtc` of `can_dash.py`: a request in one frame, and then
`recv_all`, which keeps what arrives under the ECU's identifier. The ECU answers at
once and no frame of its answer is lost, so what the dashboard shows is a function of
the state the ECU is in when it hears the request.

A response that goes out with `Can_TpSend` is shown as it was sent
(`VehicleStack.Tester.parseUdsResponse_canTpSend`).
-/

namespace VehicleStack

namespace Tester

open Ecu

/-- `recv_all`, of the frames on the bus. -/
def recvAll (frames : List Frame) : List Message :=
  (frames.map Message.ofFrame).filter fun m => m.arbitrationId = resId

/-- The request of `read_by_did`. -/
def readByDidRequest (did : ℕ) : Message where
  arbitrationId := reqId
  data :=
    [0x03, 0x22, UInt8.ofNat ((did >>> 8) &&& 0xFF), UInt8.ofNat (did &&& 0xFF), 0, 0, 0, 0]

/-- The request of `read_dtc`. -/
def readDtcRequest : Message where
  arbitrationId := reqId
  data := [0x03, 0x19, 0x02, 0xFF, 0, 0, 0, 0]

/-- `read_by_did`: what the dashboard shows. -/
def readByDid (s : EcuState) (did : ℕ) : Option Display :=
  (s.canRxIsrHandler (readByDidRequest did).frame).bind fun r =>
    parseUdsResponse 0x22 did (recvAll r.2)

/-- `read_dtc`: what the dashboard shows. -/
def readDtc (s : EcuState) : Option Display :=
  (s.canRxIsrHandler readDtcRequest.frame).bind fun r => parseUdsResponse 0x19 0 (recvAll r.2)

/-- Nothing the ECU sends as a response is passed over. -/
theorem recvAll_canTpSend (pdu : List UInt8) :
    recvAll (canTpSend responseId pdu) = (canTpSend responseId pdu).map Message.ofFrame := by
  refine List.filter_eq_self.mpr fun m hm => ?_
  obtain ⟨f, hf, rfl⟩ := List.mem_map.mp hm
  have hid : f.id = responseId := by
    rw [canTpSend] at hf
    split at hf
    · rw [List.mem_singleton.mp hf]
      rfl
    · rcases List.mem_cons.mp hf with rfl | hcf
      · rfl
      · exact (id_len_of_mem_consecutiveFrames hcf).1
  exact decide_eq_true hid

/-- **A response sent with `Can_TpSend`** is what the dashboard takes apart. -/
theorem parseUdsResponse_canTpSend (reqSid did : ℕ) {pdu : List UInt8}
    (hhi : pdu.length ≤ 4095) (hsid : pdu.head? = some (posSid reqSid)) :
    parseUdsResponse reqSid did (recvAll (canTpSend responseId pdu)) =
      some (display reqSid did pdu) := by
  obtain ⟨r, hrun, hpayload, -⟩ := run_canTpSend responseId hhi hsid
  rw [recvAll_canTpSend, parseUdsResponse, reassemble, hrun, Option.map_some, hpayload]

end Tester

end VehicleStack
