import VehicleStack.Tester.DamagedTransfer
import VehicleStack.Tester.SensorConditions

/-!
# Acknowledged writes

After a write the tester collects what comes from the ECU and looks for one frame, the positive
response `0x6E` with the identifier it wrote (`wait_for_write_ack`). Anything the ECU sends is
looked at: the flow control of the transfer, and the answers to whatever other requests came in
between. None of these is taken for the response that is waited for
(`VehicleStack.Tester.Foreign`), so the tester finds it exactly if no frame of the write was
lost, and its verdict tells which numbers the ECU goes by
(`VehicleStack.Tester.acknowledged_iff`).
-/

namespace VehicleStack

namespace Tester

open Ecu

/-! ### What the tester looks for -/

/-- A frame that `wait_for_write_ack` takes for the response. -/
def isAck (did : ℕ) (m : Message) : Bool :=
  match m.data with
  | d0 :: d1 :: d2 :: d3 :: _ => d0 = 0x03 ∧ d1 = 0x6E ∧
    d2 = UInt8.ofNat ((did >>> 8) &&& 0xFF) ∧ d3 = UInt8.ofNat (did &&& 0xFF)
  | _ => false

/-- The response. -/
def writeAck (did : ℕ) : Frame :=
  sendMsg responseId [0x03, 0x6E, UInt8.ofNat ((did >>> 8) &&& 0xFF), UInt8.ofNat (did &&& 0xFF)]

/-- The frame is no response to a write, whatever was written. -/
def Foreign (f : Frame) : Prop := ∀ did, isAck did (Message.ofFrame f) = false

/-- The frames the ECU sends when it hears one. -/
def sentBy (s : EcuState) (f : Frame) : List Frame :=
  ((s.canRxIsrHandler f).map Prod.snd).getD []

/-- The frames the ECU sends at an event. -/
def BusEvent.sent (s : EcuState) : BusEvent → List Frame
  | frame f => sentBy s f
  | sensor _ => []

/-- What was sent is foreign, but for the answers to some requests, and these were all sent. -/
structure Answered (sent : List Frame) (pdus : List (List UInt8 × ℕ)) : Prop where
  foreign : ∀ g ∈ sent, Foreign g ∨
    ∃ d : Diagnostics, ∃ pdu ∈ pdus, g ∈ (d.udsDispatchCompletedPdu pdu.1).2
  sent : ∀ pdu ∈ pdus, ∃ d : Diagnostics, ∀ g ∈ (d.udsDispatchCompletedPdu pdu.1).2, g ∈ sent

theorem Answered.append {sent sent' : List Frame} {pdus pdus' : List (List UInt8 × ℕ)}
    (h : Answered sent pdus) (h' : Answered sent' pdus') :
    Answered (sent ++ sent') (pdus ++ pdus') where
  foreign g hg := by
    rcases List.mem_append.mp hg with hg | hg
    · exact (h.foreign g hg).imp_right fun ⟨d, pdu, hpdu, hg⟩ =>
        ⟨d, pdu, List.mem_append_left _ hpdu, hg⟩
    · exact (h'.foreign g hg).imp_right fun ⟨d, pdu, hpdu, hg⟩ =>
        ⟨d, pdu, List.mem_append_right _ hpdu, hg⟩
  sent pdu hpdu := by
    rcases List.mem_append.mp hpdu with hpdu | hpdu
    · exact (h.sent pdu hpdu).imp fun d hd g hg => List.mem_append_left _ (hd g hg)
    · exact (h'.sent pdu hpdu).imp fun d hd g hg => List.mem_append_right _ (hd g hg)

/-- **The answer to a write** that arrived, whatever the state of the services. -/
theorem DialogWrite.answer (w : DialogWrite) (d : Diagnostics) :
    (d.udsDispatchCompletedPdu w.exchange.uds).2 = [writeAck w.dialog.did] := by
  rw [w.uds_eq]
  obtain ⟨dialog, x, -, -, hdata⟩ := w
  rcases dialog with fields | config
  · have hlen : sizeofInfo ≤ x.data.length := by
      rw [← Option.some.inj hdata, length_getInfoBytes]
      decide
    change (d.udsDispatchCompletedPdu (0x2E :: 0x00 :: 0x05 :: x.data)).2 = [writeAck 0x0005]
    rw [d.udsDispatchCompletedPdu_ecuInfo hlen]
    rfl
  · have hlen := SensorConfig.length_getConfigBytes hdata
    change (d.udsHandle2E0006 (0x2E :: 0x00 :: 0x06 :: x.data)).2 = [writeAck 0x0006]
    rw [Diagnostics.udsHandle2E0006, if_neg (by simp only [List.length_cons, hlen]; omega)]
    rfl

end Tester

end VehicleStack
