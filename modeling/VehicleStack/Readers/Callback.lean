import VehicleStack.Client.Wire
import VehicleStack.Readers.Measurement

/-!
# Requests to Service 1 for the sensors

The callback of Service 1 keeps a copy of the last measurement it got of a sensor and sends
that, whether it is new or not. All it does for a datagram is
`VehicleStack.Ecu.Service1.callback_eq`.
-/

namespace VehicleStack

namespace Ecu

open Client

/-! ### The callback of Service 1 -/

instance (service method : ℕ) (payload : List UInt8) :
    Decidable (IsRequest service method payload) :=
  decidable_of_iff (16 ≤ payload.length ∧ payload.length ≤ 512 ∧
      serviceId (ownBytes payload) = service ∧ methodId (ownBytes payload) = method ∧
      ownBytes payload 14 = 0x00)
    ⟨fun ⟨hlo, hhi, hservice, hmethod, htype⟩ => ⟨hlo, hhi, hservice, hmethod, htype⟩,
      fun ⟨hlo, hhi, hservice, hmethod, htype⟩ => ⟨hlo, hhi, hservice, hmethod, htype⟩⟩

/-- The sensors a datagram asks for. -/
def asks (payload : List UInt8) : SensorId → Bool
  | .tof => decide (IsRequest 0x0100 0x0102 payload)
  | .ultrasonic _ => decide (IsRequest 0x0100 0x0103 payload)

theorem UltrasonicSide.mem_all (side : UltrasonicSide) : side ∈ UltrasonicSide.all := by
  cases side <;> decide

theorem asks_of_not {payload : List UInt8} (htof : ¬ IsRequest 0x0100 0x0102 payload)
    (hultrasonic : ¬ IsRequest 0x0100 0x0103 payload) : asks payload = fun _ => false := by
  funext k
  cases k with
  | ultrasonic side => exact decide_eq_false hultrasonic
  | tof => exact decide_eq_false htof

namespace Service1

/-- The copy of a sensor's last measurement. -/
def copy (s : Service1) : SensorId → Reading
  | .ultrasonic side => .ultrasonic (s.ultLatestData side)
  | .tof => .tof s.tofLatestData

/-- The copies after some of the sensors were asked. -/
def absorb (asks : SensorId → Bool) (x : Sensors) (s : Service1) : Service1 :=
  { s with
    tofLatestData := if asks .tof && x.ready .tof then x.tof.latestData else s.tofLatestData
    ultLatestData := fun side =>
      if asks (.ultrasonic side) && x.ready (.ultrasonic side) then
        (x.ultrasonic.sensor side).latestData
      else s.ultLatestData side }

/-- The reply to a datagram, by the copies that are left. -/
def replyTo (beyond : ℕ → UInt8) (payload : List UInt8) (s : Service1) : Option (List UInt8) :=
  if IsRequest 0x0100 0x0101 payload then
    some (reply (rxBuf beyond payload) (serializePRData s.prLatestData))
  else if IsRequest 0x0100 0x0102 payload then
    some (reply (rxBuf beyond payload) (serializeToFData s.tofLatestData))
  else if IsRequest 0x0100 0x0103 payload then
    some (reply (rxBuf beyond payload) (UInt8.ofNat UltrasonicSide.all.length ::
      UltrasonicSide.all.flatMap fun side => serializeUltrasonicData (s.ultLatestData side)))
  else none

/-- The copies after the photoresistor was asked, if it was. -/
def photo (payload : List UInt8) (pr : PRData) (s : Service1) : Service1 :=
  if IsRequest 0x0100 0x0101 payload then { s with prLatestData := pr } else s

/-- What was taken first is not taken again. -/
theorem ite_ite_taken {α : Type} (first second ready : Bool) (latest kept : α) :
    (if second && (ready && !first) then latest else if first && ready then latest else kept) =
      if (first || second) && ready then latest else kept := by
  cases first <;> cases second <;> cases ready <;> rfl

theorem absorb_absorb (asks asks' : SensorId → Bool) (x : Sensors) (s : Service1) :
    (s.absorb asks x).absorb asks' (x.asked asks) = s.absorb (fun k => asks k || asks' k) x := by
  have hready : ∀ k, (x.asked asks).ready k = (x.ready k && !asks k) := fun k =>
    congrFun (Sensors.ready_withReady _ _) k
  simp only [absorb, hready]
  congr 1
  · exact ite_ite_taken _ _ _ _ _
  · exact funext fun side => ite_ite_taken _ _ _ _ _

/-- One round of the loop over the sensors. -/
theorem absorb_ultrasonic (side : UltrasonicSide) (x : Sensors) (s : Service1) :
    s.absorb (fun k => k = .ultrasonic side) x =
      { s with
        ultLatestData := Function.update s.ultLatestData side
          ((x.ultrasonic.getLatestData side).2.getD (s.ultLatestData side)) } := by
  rw [Sensors.getLatestData_ultrasonic, absorb]
  congr 1
  funext other
  rw [Function.update_apply]
  by_cases hother : other = side
  · subst hother
    rw [if_pos rfl, decide_eq_true rfl, Bool.true_and]
    split <;> rfl
  · have hne : ¬ SensorId.ultrasonic other = .ultrasonic side := fun h =>
      hother (SensorId.ultrasonic.inj h)
    rw [if_neg hother, decide_eq_false hne, Bool.false_and, if_neg Bool.false_ne_true]

/-- The loop over the sensors asks them and keeps what it gets. -/
theorem readUltrasonics_fst (sides : List UltrasonicSide) (s : Service1) (x : Sensors) :
    (readUltrasonics sides s x).1 =
      (s.absorb (fun k => decide (k ∈ sides.map SensorId.ultrasonic)) x,
        x.asked fun k => decide (k ∈ sides.map SensorId.ultrasonic)) := by
  induction sides generalizing s x with
  | nil =>
    refine Prod.ext ?_ ?_
    · rfl
    · exact x.asked_none.symm
  | cons side sides ih =>
    have hsensors : Sensors.mk x.tof (x.ultrasonic.getLatestData side).1 =
        x.asked fun k => k = .ultrasonic side := by
      rw [Sensors.getLatestData_ultrasonic,
        ← x.tof_asked_ultrasonic (fun k => k = .ultrasonic side) rfl]
    have hmem : (fun k => decide (k ∈ (side :: sides).map SensorId.ultrasonic)) =
        fun k => decide (k = .ultrasonic side) || decide (k ∈ sides.map SensorId.ultrasonic) := by
      funext k
      rw [List.map_cons, ← Bool.decide_or]
      exact decide_eq_decide.mpr List.mem_cons
    rw [hmem, ← absorb_absorb, ← Sensors.asked_asked, absorb_ultrasonic, ← hsensors]
    exact ih _ _

theorem absorb_tof (x : Sensors) (s : Service1) :
    s.absorb (fun k => k = .tof) x =
      { s with tofLatestData := x.tof.getLatestData.2.getD s.tofLatestData } := by
  have hasks : decide (SensorId.tof = .tof) = true := rfl
  rw [Sensors.getLatestData_tof, absorb, hasks, Bool.true_and]
  congr 1
  split <;> rfl

section Callback

variable {payload : List UInt8}

/-- A datagram asks for one method at most. -/
theorem not_isRequest {service method method' : ℕ} (h : IsRequest service method payload)
    (hne : method' ≠ method) : ¬ IsRequest service method' payload := fun h' =>
  hne (h'.method.symm.trans h.method)

theorem replyTo_tof (h : IsRequest 0x0100 0x0102 payload) (beyond : ℕ → UInt8) (s : Service1) :
    s.replyTo beyond payload =
      some (reply (rxBuf beyond payload) (serializeToFData s.tofLatestData)) := by
  rw [replyTo, if_neg (not_isRequest h (by decide)), if_pos h]

theorem replyTo_ultrasonic (h : IsRequest 0x0100 0x0103 payload) (beyond : ℕ → UInt8)
    (s : Service1) : s.replyTo beyond payload =
      some (reply (rxBuf beyond payload) (UInt8.ofNat UltrasonicSide.all.length ::
        UltrasonicSide.all.flatMap fun side =>
          serializeUltrasonicData (s.ultLatestData side))) := by
  rw [replyTo, if_neg (not_isRequest h (by decide)), if_neg (not_isRequest h (by decide)),
    if_pos h]

theorem callback_pr (h : IsRequest 0x0100 0x0101 payload) (beyond : ℕ → UInt8) (pr : PRData)
    (s : Service1) (x : Sensors) : s.callback beyond pr x payload =
      ((({ s with prLatestData := pr } : Service1), x),
        some (reply (rxBuf beyond payload) (serializePRData pr))) := by
  rw [service1Callback_of_isRequest h]
  rfl

theorem asks_tof (h : IsRequest 0x0100 0x0102 payload) :
    asks payload = fun k => decide (k = .tof) := by
  funext k
  cases k with
  | ultrasonic side => exact decide_eq_false (not_isRequest h (by decide))
  | tof => exact decide_eq_true h

theorem asks_ultrasonic (h : IsRequest 0x0100 0x0103 payload) :
    asks payload = fun k => decide (k ∈ UltrasonicSide.all.map SensorId.ultrasonic) := by
  funext k
  cases k with
  | ultrasonic side =>
    refine (decide_eq_true h).trans (decide_eq_true ?_).symm
    exact List.mem_map.mpr ⟨side, UltrasonicSide.mem_all side, rfl⟩
  | tof => exact decide_eq_false (not_isRequest h (by decide))

theorem callback_tof (h : IsRequest 0x0100 0x0102 payload) (beyond : ℕ → UInt8) (pr : PRData)
    (s : Service1) (x : Sensors) : s.callback beyond pr x payload =
      ((s.absorb (fun k => k = .tof) x, x.asked fun k => k = .tof),
        some (reply (rxBuf beyond payload)
          (serializeToFData (s.absorb (fun k => k = .tof) x).tofLatestData))) := by
  have hsensors : Sensors.mk x.tof.getLatestData.1 x.ultrasonic = x.asked fun k => k = .tof := by
    rw [Sensors.getLatestData_tof,
      ← x.ultrasonic_asked_tof (fun k => k = .tof) fun _ => rfl]
  rw [service1Callback_tof h, absorb_tof, ← hsensors]
  rfl

theorem callback_ultrasonic (h : IsRequest 0x0100 0x0103 payload) (beyond : ℕ → UInt8)
    (pr : PRData) (s : Service1) (x : Sensors) : s.callback beyond pr x payload =
      ((s.absorb (fun k => decide (k ∈ UltrasonicSide.all.map SensorId.ultrasonic)) x,
          x.asked fun k => decide (k ∈ UltrasonicSide.all.map SensorId.ultrasonic)),
        some (reply (rxBuf beyond payload) (UInt8.ofNat UltrasonicSide.all.length ::
          UltrasonicSide.all.flatMap fun side => serializeUltrasonicData ((s.absorb
            (fun k => decide (k ∈ UltrasonicSide.all.map SensorId.ultrasonic)) x).ultLatestData
              side)))) := by
  have hnodup : UltrasonicSide.all.Nodup := by decide
  rw [service1Callback_ult h, ultrasonicMethod, readUltrasonics_eq hnodup, readUltrasonics_fst]

theorem callback_other (hpr : ¬ IsRequest 0x0100 0x0101 payload)
    (htof : ¬ IsRequest 0x0100 0x0102 payload) (hultrasonic : ¬ IsRequest 0x0100 0x0103 payload)
    (beyond : ℕ → UInt8) (pr : PRData) (s : Service1) (x : Sensors) :
    s.callback beyond pr x payload = ((s, x), none) := by
  by_cases hrequest : ∃ method, IsRequest 0x0100 method payload
  · obtain ⟨method, hmethod⟩ := hrequest
    have hne : ∀ method', ¬ IsRequest 0x0100 method' payload → ¬ method = method' := by
      rintro method' hnot rfl
      exact hnot hmethod
    rw [service1Callback_of_isRequest hmethod, if_neg (hne _ hpr), if_neg (hne _ htof),
      if_neg (hne _ hultrasonic)]
  · rw [callback]
    by_cases hlen : payload.length < 16 ∨ 512 < payload.length
    · rw [if_pos hlen]
    · have hlo : 16 ≤ payload.length := by omega
      obtain ⟨hserviceId, -, hmessageType⟩ := header_rxBuf beyond hlo
      rw [if_neg hlen]
      refine if_neg ?_
      rintro ⟨hservice, htype⟩
      rw [hserviceId] at hservice
      rw [hmessageType] at htype
      exact hrequest ⟨_, hlo, by omega, hservice, rfl, htype⟩

/-- **What the callback does**: it asks the sensors it is asked for, keeps what it gets, and
replies with what it keeps. -/
theorem callback_eq (beyond : ℕ → UInt8) (pr : PRData) (s : Service1) (x : Sensors)
    (payload : List UInt8) : s.callback beyond pr x payload =
      (((s.photo payload pr).absorb (asks payload) x, x.asked (asks payload)),
        ((s.photo payload pr).absorb (asks payload) x).replyTo beyond payload) := by
  by_cases hpr : IsRequest 0x0100 0x0101 payload
  · rw [callback_pr hpr, asks_of_not (not_isRequest hpr (by decide))
      (not_isRequest hpr (by decide)), photo, if_pos hpr, replyTo, if_pos hpr, Sensors.asked_none]
    rfl
  · rw [photo, if_neg hpr]
    by_cases htof : IsRequest 0x0100 0x0102 payload
    · rw [callback_tof htof, asks_tof htof, replyTo_tof htof]
    · by_cases hultrasonic : IsRequest 0x0100 0x0103 payload
      · rw [callback_ultrasonic hultrasonic, asks_ultrasonic hultrasonic,
          replyTo_ultrasonic hultrasonic]
      · rw [callback_other hpr htof hultrasonic, asks_of_not htof hultrasonic, replyTo,
          if_neg hpr, if_neg htof, if_neg hultrasonic, Sensors.asked_none]
        rfl

end Callback

end Service1

end Ecu

end VehicleStack
