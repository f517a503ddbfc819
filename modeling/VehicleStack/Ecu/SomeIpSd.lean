import VehicleStack.Lib.Buffer
import VehicleStack.Ecu.SomeIp

/-!
# The ECU's service discovery

`someipsd.c`: the offer of the three services, the acknowledgement of a subscription,
and `SOMEIPSD_Recv_Callback`, which sends one of them when it is asked. The callback
reads the datagram where it lies and does not look at its length.
-/

namespace VehicleStack

namespace Ecu

open BigEndian

/-- An option of the offer: address, protocol (UDP) and port. -/
def offerOption (ip : Buffer UInt8 4) (port : ℕ) : List UInt8 :=
  [0x00, 0x09, 0x04, 0x80] ++ ip.cells ++ [0x00, 0x11] ++ toBytes 2 port

/-- `PN_SERVICE_1`. -/
def pnService1 : ℕ := 30511

/-- `PN_SERVICE_2`. -/
def pnService2 : ℕ := 30512

/-- `PN_SERVICE_3`. -/
def pnService3 : ℕ := 30513

/-- `MSG_OfferService`, of an ECU with a given address. -/
def msgOfferService (ip : Buffer UInt8 4) : List UInt8 :=
  -- header, flags and the length of the entries
  [0xFF, 0xFF, 0x81, 0x00, 0x00, 0x00, 0x00, 0x68, 0x00, 0x00, 0x00, 0x00, 0x01, 0x01, 0x02, 0x00,
    0x00, 0x00, 0x00, 0x00, 0x00, 0x00, 0x00, 0x30] ++
  [0x01, 0x00, 0x00, 0x10, 0x01, 0x00, 0x00, 0x01, 0x01, 0x00, 0x00, 0x0A, 0x00, 0x00, 0x00,
    0x01] ++
  [0x01, 0x01, 0x00, 0x10, 0x02, 0x00, 0x00, 0x01, 0x01, 0x00, 0x00, 0x0A, 0x00, 0x00, 0x00,
    0x01] ++
  [0x01, 0x02, 0x00, 0x10, 0x03, 0x00, 0x00, 0x01, 0x01, 0x00, 0x00, 0x0A, 0x00, 0x00, 0x00,
    0x01] ++
  [0x00, 0x00, 0x00, 0x24] ++
  offerOption ip pnService1 ++ offerOption ip pnService2 ++ offerOption ip pnService3

/-- `MSG_SubEvtGrpAck`. -/
def msgSubEvtGrpAck : List UInt8 :=
  [0xFF, 0xFF, 0x81, 0x00, 0x00, 0x00, 0x00, 0x28, 0x00, 0x00, 0x00, 0x01, 0x01, 0x01, 0x02, 0x00,
    0xC0, 0x00, 0x00, 0x00, 0x00, 0x00, 0x00, 0x10, 0x07, 0x00, 0x00, 0x00, 0x01, 0x00, 0x00, 0x01,
    0x00, 0x00, 0x00, 0x0A, 0x00, 0x00, 0x00, 0x01]

/-- `SOMEIPSD_Recv_Callback`: the message sent to where the datagram came from. -/
def someIpSdRecvCallback (ip : Buffer UInt8 4) (beyond : ℕ → UInt8) (payload : List UInt8) :
    Option (List UInt8) :=
  let rx := rxBuf beyond payload
  -- the two bytes are read in the order of the processor, which does not matter here
  let serviceId := (rx 0).toNat + (rx 1).toNat * 256
  let methodId := (rx 2).toNat * 256 + (rx 3).toNat
  let sdType := rx 24
  if serviceId = 0xFFFF ∧ methodId = 0x8100 then
    if sdType = 0x00 then some (msgOfferService ip)
    else if sdType = 0x06 then some msgSubEvtGrpAck
    else none
  else none

/-- The callback answers messages that begin with the identifier of the service
discovery. -/
theorem someIpSdRecvCallback_eq (ip : Buffer UInt8 4) (beyond : ℕ → UInt8)
    (payload : List UInt8) : someIpSdRecvCallback ip beyond payload =
      if rxBuf beyond payload 0 = 0xFF ∧ rxBuf beyond payload 1 = 0xFF ∧
          rxBuf beyond payload 2 = 0x81 ∧ rxBuf beyond payload 3 = 0x00 then
        if rxBuf beyond payload 24 = 0x00 then some (msgOfferService ip)
        else if rxBuf beyond payload 24 = 0x06 then some msgSubEvtGrpAck
        else none
      else none := by
  have hbytes : ∀ a b : UInt8, ∀ m n : ℕ, m < 256 → n < 256 →
      (a.toNat * 256 + b.toNat = m * 256 + n ↔ a = UInt8.ofNat m ∧ b = UInt8.ofNat n) := by
    intro a b m n hm hn
    have ha := a.toNat_lt
    have hb := b.toNat_lt
    rw [← UInt8.toNat_inj, ← UInt8.toNat_inj, UInt8.toNat_ofNat_of_lt' hm,
      UInt8.toNat_ofNat_of_lt' hn]
    constructor
    · intro h
      omega
    · rintro ⟨h₁, h₂⟩
      omega
  have hservice := hbytes (rxBuf beyond payload 1) (rxBuf beyond payload 0) 0xFF 0xFF
    (by decide) (by decide)
  have hmethod := hbytes (rxBuf beyond payload 2) (rxBuf beyond payload 3) 0x81 0x00
    (by decide) (by decide)
  have hiff : ((rxBuf beyond payload 0).toNat + (rxBuf beyond payload 1).toNat * 256 = 0xFFFF ∧
      (rxBuf beyond payload 2).toNat * 256 + (rxBuf beyond payload 3).toNat = 0x8100) ↔
      (rxBuf beyond payload 0 = 0xFF ∧ rxBuf beyond payload 1 = 0xFF ∧
        rxBuf beyond payload 2 = 0x81 ∧ rxBuf beyond payload 3 = 0x00) := by
    rw [Nat.add_comm]
    constructor
    · rintro ⟨hs, hm⟩
      exact ⟨(hservice.mp hs).2, (hservice.mp hs).1, hmethod.mp hm⟩
    · rintro ⟨h₀, h₁, h₂⟩
      exact ⟨hservice.mpr ⟨h₁, h₀⟩, hmethod.mpr h₂⟩
  exact if_congr hiff rfl rfl

end Ecu

end VehicleStack
