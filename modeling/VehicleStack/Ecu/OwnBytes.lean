import VehicleStack.Ecu.Actuators
import VehicleStack.Ecu.SomeIpSd

/-!
# Which datagrams are handled from their own bytes

The callbacks of Service 2, Service 3 and the service discovery read fixed positions,
whatever the length of the datagram. What then lies at these positions is chance, and
so may be what the actuators do.

Two executions over one state and one datagram differ in what lies behind the datagram
and behind the table of the lamps (`VehicleStack.Ecu.Beyond`). The main result is
`VehicleStack.Ecu.independent_iff`, which says for which states and datagrams no such
two executions do different things. The conditions read the datagram with zeros behind
it (`VehicleStack.Ecu.ownBytes`): a number whose last byte is missing and that is out
of range with zeros for what is missing is out of range anyhow.
-/

namespace VehicleStack

namespace Ecu

open BigEndian

/-! ### Two executions -/

/-- A callback that looks at a datagram. -/
inductive Callback where
  | service2
  | service3
  | sd
  deriving DecidableEq

/-- The actuators after a callback, and what it sends. -/
def Callback.run (ip : Buffer UInt8 4) (beyond : Beyond) (s : Actuators) (payload : List UInt8) :
    Callback → Actuators × Option (List UInt8)
  | service2 => s.service2Callback beyond payload
  | service3 => s.service3Callback beyond payload
  | sd => (s, someIpSdRecvCallback ip beyond.rxBuf payload)

/-- What can be seen of two executions from outside is the same. -/
structure SameOutcome (r r' : Actuators × Option (List UInt8)) : Prop where
  buzzer : r.1.buzzer = r'.1.buzzer
  led : r.1.led = r'.1.led
  interval : r.1.interval = r'.1.interval
  chA : r.1.service3.motor.chA = r'.1.service3.motor.chA
  chB : r.1.service3.motor.chB = r'.1.service3.motor.chB
  reply : r.2 = r'.2

theorem SameOutcome.of_eq {r r' : Actuators × Option (List UInt8)} (h : r = r') :
    SameOutcome r r' := by
  subst h
  exact ⟨rfl, rfl, rfl, rfl, rfl, rfl⟩

/-- The datagram is handled from its own bytes only. -/
def Independent (ip : Buffer UInt8 4) (c : Callback) (s : Actuators) (payload : List UInt8) :
    Prop :=
  ∀ beyond beyond', SameOutcome (c.run ip beyond s payload) (c.run ip beyond' s payload)

/-! ### The bytes of a datagram -/

/-- The bytes of a datagram, and zeros behind it. -/
def ownBytes (payload : List UInt8) : ℕ → UInt8 := rxBuf (fun _ => 0) payload

section Bytes

variable {beyond beyond' : ℕ → UInt8} {payload : List UInt8}

theorem rxBuf_of_lt {i : ℕ} (h : i < payload.length) :
    rxBuf beyond payload i = ownBytes payload i := by
  rw [ownBytes, rxBuf, rxBuf, List.getElem?_eq_getElem h, Option.getD_some, Option.getD_some]

/-- Bytes that are all there are the datagram's. -/
theorem map_rxBuf_of_lt {positions : List ℕ} {last : ℕ} (hlast : last < payload.length)
    (h : ∀ i ∈ positions, i ≤ last) :
    positions.map (rxBuf beyond payload) = positions.map (ownBytes payload) :=
  List.map_congr_left fun i hi => rxBuf_of_lt (Nat.lt_of_le_of_lt (h i hi) hlast)

theorem rxBuf_of_le {i : ℕ} (h : payload.length ≤ i) : rxBuf beyond payload i = beyond i := by
  rw [rxBuf, List.getElem?_eq_none h, Option.getD_none]

theorem ownBytes_of_le {i : ℕ} (h : payload.length ≤ i) : ownBytes payload i = 0 :=
  rxBuf_of_le h

/-- Zeros are the least that can lie behind the datagram. -/
theorem ownBytes_le (i : ℕ) :
    (ownBytes payload i).toNat ≤ (rxBuf beyond payload i).toNat := by
  by_cases h : i < payload.length
  · rw [rxBuf_of_lt h]
  · rw [ownBytes_of_le (Nat.le_of_not_lt h)]
    exact Nat.zero_le _

/-- The header of a reply is the datagram's. -/
theorem reply_rxBuf (h : 16 ≤ payload.length) (data : List UInt8) :
    reply (rxBuf beyond payload) data = reply (ownBytes payload) data := by
  have hheader : (List.range 16).map (rxBuf beyond payload) =
      (List.range 16).map (ownBytes payload) := by
    refine map_rxBuf_of_lt (show 15 < payload.length from h) fun i hi => ?_
    rw [List.mem_range] at hi
    omega
  rw [reply, reply, hheader]

/-- Replies with the same header differ in their data only. -/
theorem data_eq_of_reply_eq {rx : ℕ → UInt8} {data data' : List UInt8}
    (h : reply rx data = reply rx data') : data = data' := by
  have hdrop := congrArg (List.drop 16) h
  rw [reply_eq, reply_eq] at hdrop
  exact hdrop

/-- The bytes behind the datagram are all zero but one. -/
def oneByte (i : ℕ) (b : UInt8) : Beyond where
  rxBuf := fun j => if j = i then b else 0
  ledTable := fun _ => false

/-- Where no other byte is set, the buffer holds what the datagram has. -/
theorem rxBuf_oneByte_of_ne {i j : ℕ} (h : j ≠ i) (b : UInt8) :
    rxBuf (oneByte i b).rxBuf payload j = ownBytes payload j := by
  by_cases hj : j < payload.length
  · exact rxBuf_of_lt hj
  · rw [rxBuf_of_le (Nat.le_of_not_lt hj), ownBytes_of_le (Nat.le_of_not_lt hj)]
    exact if_neg h

theorem rxBuf_oneByte_self {i : ℕ} (h : payload.length ≤ i) (b : UInt8) :
    rxBuf (oneByte i b).rxBuf payload i = b := by
  rw [rxBuf_of_le h]
  exact if_pos rfl

/-- The bytes of a number whose last byte is missing. -/
theorem map_rxBuf_oneByte {positions : List ℕ} {last : ℕ} (hmem : last ∉ positions)
    (hlast : payload.length ≤ last) (b : UInt8) :
    (positions ++ [last]).map (rxBuf (oneByte last b).rxBuf payload) =
      positions.map (ownBytes payload) ++ [b] := by
  have hothers : ∀ i ∈ positions, rxBuf (oneByte last b).rxBuf payload i = ownBytes payload i := by
    intro i hi
    refine rxBuf_oneByte_of_ne ?_ b
    rintro rfl
    exact hmem hi
  rw [List.map_append, List.map_congr_left hothers, List.map_singleton, rxBuf_oneByte_self hlast]

/-- **A number that is out of range with zeros for the missing bytes** is out of range
with any other bytes. -/
theorem not_mem_of_ownBytes {positions : List ℕ} {n : ℕ} (hn : 2 * n < 256 ^ positions.length)
    (h : ¬ (0 ≤ ofIntBytes (positions.map (ownBytes payload)) ∧
      ofIntBytes (positions.map (ownBytes payload)) ≤ n)) (beyond : ℕ → UInt8) :
    ¬ (0 ≤ ofIntBytes (positions.map (rxBuf beyond payload)) ∧
      ofIntBytes (positions.map (rxBuf beyond payload)) ≤ n) := by
  have hle : ofBytes (positions.map (ownBytes payload)) ≤
      ofBytes (positions.map (rxBuf beyond payload)) := ofBytes_map_le ownBytes_le positions
  rw [ofIntBytes_mem_iff (by rwa [List.length_map])] at h ⊢
  exact fun hmem => h (Nat.le_trans hle hmem)

end Bytes

/-! ### Requests -/

/-- A datagram that is not discarded and asks for a method of a service. -/
structure IsRequest (service method : ℕ) (payload : List UInt8) : Prop where
  le_length : 16 ≤ payload.length
  length_le : payload.length ≤ 512
  service : serviceId (ownBytes payload) = service
  method : methodId (ownBytes payload) = method
  messageType : ownBytes payload 14 = 0x00

/-- The header of a datagram that is not discarded is its own. -/
theorem header_rxBuf (beyond : ℕ → UInt8) {payload : List UInt8} (h : 16 ≤ payload.length) :
    serviceId (rxBuf beyond payload) = serviceId (ownBytes payload) ∧
      methodId (rxBuf beyond payload) = methodId (ownBytes payload) ∧
      rxBuf beyond payload 14 = ownBytes payload 14 := by
  have hbyte : ∀ i, i < 16 → rxBuf beyond payload i = ownBytes payload i := fun i hi =>
    rxBuf_of_lt (by omega)
  rw [serviceId, methodId, hbyte 0 (by omega), hbyte 1 (by omega), hbyte 2 (by omega),
    hbyte 3 (by omega), hbyte 14 (by omega)]
  exact ⟨rfl, rfl, rfl⟩

section Requests

variable {s : Actuators} {payload : List UInt8} {service method : ℕ}

theorem service2Callback_of_isRequest (h : IsRequest 0x0200 method payload) (beyond : Beyond) :
    s.service2Callback beyond payload =
      if method = 0x0201 then s.buzzerMethod (rxBuf beyond.rxBuf payload)
      else if method = 0x0202 then s.ledMethod beyond (rxBuf beyond.rxBuf payload)
      else (s, none) := by
  obtain ⟨hlo, hhi, hservice, rfl, htype⟩ := h
  obtain ⟨hserviceId, hmethodId, hmessageType⟩ := header_rxBuf beyond.rxBuf hlo
  rw [Actuators.service2Callback, if_neg (by omega)]
  simp only [hserviceId, hmethodId, hmessageType, hservice, htype, and_self, if_true]

theorem service3Callback_of_isRequest (h : IsRequest 0x0300 method payload) (beyond : Beyond) :
    Service3.callback beyond.rxBuf s.service3 payload =
      if method = 0x0301 then s.service3.alertMethod (rxBuf beyond.rxBuf payload)
      else if method = 0x0302 then s.service3.motorMethod (rxBuf beyond.rxBuf payload)
      else (s.service3, none) := by
  obtain ⟨hlo, hhi, hservice, rfl, htype⟩ := h
  obtain ⟨hserviceId, hmethodId, hmessageType⟩ := header_rxBuf beyond.rxBuf hlo
  simp only [serviceId, methodId] at hserviceId hmethodId hservice
  rw [Service3.callback, if_neg (by omega)]
  simp only [hserviceId, hmethodId, hmessageType, hservice, htype, and_self, if_true]
  rfl

theorem service2Callback_buzzer (h : IsRequest 0x0200 0x0201 payload) (beyond : Beyond) :
    s.service2Callback beyond payload = s.buzzerMethod (rxBuf beyond.rxBuf payload) := by
  rw [service2Callback_of_isRequest h]
  exact if_pos rfl

theorem service2Callback_led (h : IsRequest 0x0200 0x0202 payload) (beyond : Beyond) :
    s.service2Callback beyond payload = s.ledMethod beyond (rxBuf beyond.rxBuf payload) := by
  rw [service2Callback_of_isRequest h]
  exact (if_neg (by decide)).trans (if_pos rfl)

theorem service3Callback_alert (h : IsRequest 0x0300 0x0301 payload) (beyond : Beyond) :
    Service3.callback beyond.rxBuf s.service3 payload =
      s.service3.alertMethod (rxBuf beyond.rxBuf payload) := by
  rw [service3Callback_of_isRequest h]
  exact if_pos rfl

theorem service3Callback_motor (h : IsRequest 0x0300 0x0302 payload) (beyond : Beyond) :
    Service3.callback beyond.rxBuf s.service3 payload =
      s.service3.motorMethod (rxBuf beyond.rxBuf payload) := by
  rw [service3Callback_of_isRequest h]
  exact (if_neg (by decide)).trans (if_pos rfl)

/-- Nothing is done for what is not a request to the service. -/
theorem service2Callback_of_not_isRequest (h : ∀ method, ¬ IsRequest 0x0200 method payload)
    (beyond : Beyond) : s.service2Callback beyond payload = (s, none) := by
  rw [Actuators.service2Callback]
  by_cases hlen : payload.length < 16 ∨ 512 < payload.length
  · rw [if_pos hlen]
  · have hlo : 16 ≤ payload.length := by omega
    obtain ⟨hserviceId, -, hmessageType⟩ := header_rxBuf beyond.rxBuf hlo
    rw [if_neg hlen]
    refine if_neg ?_
    rintro ⟨hservice, htype⟩
    rw [hserviceId] at hservice
    rw [hmessageType] at htype
    exact h _ ⟨hlo, by omega, hservice, rfl, htype⟩

theorem service3Callback_of_not_isRequest (h : ∀ method, ¬ IsRequest 0x0300 method payload)
    (beyond : Beyond) : Service3.callback beyond.rxBuf s.service3 payload = (s.service3, none) := by
  rw [Service3.callback]
  by_cases hlen : payload.length < 16 ∨ 512 < payload.length
  · rw [if_pos hlen]
  · have hlo : 16 ≤ payload.length := by omega
    obtain ⟨hserviceId, -, hmessageType⟩ := header_rxBuf beyond.rxBuf hlo
    rw [if_neg hlen]
    refine if_neg ?_
    rintro ⟨hservice, htype⟩
    change serviceId (rxBuf beyond.rxBuf payload) = 0x0300 at hservice
    rw [hserviceId] at hservice
    rw [hmessageType] at htype
    exact h _ ⟨hlo, by omega, hservice, rfl, htype⟩

end Requests

/-! ### The buzzer -/

/-- The frequency a datagram asks for, with zeros for what is missing of it. -/
def ownFrequency (payload : List UInt8) : ℤ :=
  ofIntBytes [ownBytes payload 17, ownBytes payload 18, ownBytes payload 19, ownBytes payload 20]

/-- The buzzer method goes by the datagram's own bytes: the alert keeps the buzzer, or the
bytes are all there, or what there is of the frequency is out of range. -/
def BuzzerBytes (s : Actuators) (payload : List UInt8) : Prop :=
  0 ≤ s.interval ∨ 21 ≤ payload.length ∨
    ¬ (0 ≤ ownFrequency payload ∧ ownFrequency payload ≤ maxFreq)

/-- A command with a frequency out of range switches the buzzer at most. -/
theorem control_of_not_mem (b : Buzzer) (buzzerCommand : UInt8) {frequency : ℤ}
    (h : ¬ (0 ≤ frequency ∧ frequency ≤ maxFreq)) : b.control buzzerCommand frequency =
      if buzzerCommand = 0x00 then b.off else if buzzerCommand = 0x01 then b.on else b := by
  have hset : (b.setFrequency frequency).1 = b := by
    rw [Buzzer.setFrequency, if_pos (by omega)]
  rw [Buzzer.control, hset]

/-- A frequency in range is set, whatever the command. -/
theorem frequency_control (b : Buzzer) (buzzerCommand : UInt8) {frequency : ℤ}
    (h : 1 ≤ frequency ∧ frequency ≤ maxFreq) :
    (b.control buzzerCommand frequency).frequency = frequency := by
  have hset : (b.setFrequency frequency).1.frequency = frequency := by
    rw [Buzzer.setFrequency, if_neg (not_not.mpr h)]
  rw [Buzzer.control]
  split
  · exact hset
  · split
    · exact hset
    · exact hset

/-- With the alert's interval not negative, the buzzer method only replies. -/
theorem buzzerMethod_of_alert {s : Actuators} (h : 0 ≤ s.interval) (rx : ℕ → UInt8) :
    s.buzzerMethod rx = (s, some (reply rx (serializeBuzzerData s.buzzer.getData))) := by
  simp only [Actuators.buzzerMethod, if_pos h]

theorem buzzerMethod_of_not_alert {s : Actuators} (h : ¬ 0 ≤ s.interval) (rx : ℕ → UInt8) :
    s.buzzerMethod rx =
      ({ s with
          buzzer := s.buzzer.control (rx 16) (ofIntBytes [rx 17, rx 18, rx 19, rx 20]) },
        some (reply rx (serializeBuzzerData
          (s.buzzer.control (rx 16) (ofIntBytes [rx 17, rx 18, rx 19, rx 20])).getData))) := by
  simp only [Actuators.buzzerMethod, if_neg h]

theorem maxFreq_eq : maxFreq = ((250000 : ℕ) : ℤ) := by
  norm_num [maxFreq]

/-- The bytes of the frequency in the buffer. -/
theorem frequency_bytes (rx : ℕ → UInt8) :
    [rx 17, rx 18, rx 19, rx 20] = ([17, 18, 19] ++ [20]).map rx := rfl

/-- With the last byte of the frequency missing, the buzzer may get one frequency or
another. -/
theorem frequency_oneByte {s : Actuators} {payload : List UInt8} (hshort : payload.length ≤ 20)
    (hrange : 0 ≤ ownFrequency payload ∧ ownFrequency payload ≤ maxFreq) {b : UInt8}
    (hlo : 0 < b.toNat) (hhi : b.toNat ≤ 100) (command : UInt8) :
    (s.buzzer.control command (ofIntBytes (([17, 18, 19] ++ [20]).map
      (rxBuf (oneByte 20 b).rxBuf payload)))).frequency =
      ofBytes ([17, 18, 19].map (ownBytes payload)) * 256 + b.toNat := by
  have hn : ∀ xs : List UInt8, xs.length = 4 → 2 * 250000 < 256 ^ xs.length := by
    rintro xs hxs
    rw [hxs]
    decide
  have hupper : ofBytes ([17, 18, 19].map (ownBytes payload)) ≤ 976 := by
    have hown : ([17, 18, 19] ++ [20]).map (ownBytes payload) =
        [17, 18, 19].map (ownBytes payload) ++ [0] := by
      rw [List.map_append, List.map_singleton, ownBytes_of_le hshort]
    rw [ownFrequency, frequency_bytes, hown, maxFreq_eq] at hrange
    have hle := (ofIntBytes_mem_iff (hn _ rfl)).mp hrange
    rw [ofBytes_concat] at hle
    omega
  rw [map_rxBuf_oneByte (by decide) hshort]
  have hvalue := ofBytes_concat ([17, 18, 19].map (ownBytes payload)) b
  rw [ofIntBytes_of_le (hn _ rfl) (by omega), hvalue]
  exact frequency_control _ _ ⟨by omega, by rw [maxFreq_eq]; omega⟩

/-- **The buzzer method.** -/
theorem buzzer_independent_iff {s : Actuators} {payload : List UInt8}
    (hlen : 16 ≤ payload.length) :
    (∀ beyond beyond' : Beyond, SameOutcome (s.buzzerMethod (rxBuf beyond.rxBuf payload))
      (s.buzzerMethod (rxBuf beyond'.rxBuf payload))) ↔ BuzzerBytes s payload := by
  by_cases halert : 0 ≤ s.interval
  · refine iff_of_true (fun beyond beyond' => ?_) (.inl halert)
    rw [buzzerMethod_of_alert halert, buzzerMethod_of_alert halert, reply_rxBuf hlen,
      reply_rxBuf hlen]
    exact .of_eq rfl
  · simp only [buzzerMethod_of_not_alert halert, reply_rxBuf hlen]
    constructor
    · -- the last byte of the frequency is missing, and makes a difference
      intro hsame
      by_contra hbytes
      simp only [BuzzerBytes, not_or, not_not, Nat.not_le] at hbytes
      obtain ⟨-, hshort, hrange⟩ := hbytes
      have hdiffers := congrArg Buzzer.frequency (hsame (oneByte 20 1) (oneByte 20 2)).buzzer
      have hone : (1 : UInt8).toNat = 1 := rfl
      have htwo : (2 : UInt8).toNat = 2 := rfl
      simp only [frequency_bytes] at hdiffers
      rw [frequency_oneByte (by omega) hrange (by decide) (by decide),
        frequency_oneByte (by omega) hrange (by decide) (by decide)] at hdiffers
      omega
    · rintro (hinterval | hall | hrange) beyond beyond'
      · exact absurd hinterval halert
      · have hfrequency : ∀ beyond : Beyond,
            ([17, 18, 19] ++ [20]).map (rxBuf beyond.rxBuf payload) =
              ([17, 18, 19] ++ [20]).map (ownBytes payload) := fun _ =>
          map_rxBuf_of_lt hall (by decide)
        have hcommand : ∀ beyond : Beyond,
            rxBuf beyond.rxBuf payload 16 = ownBytes payload 16 := fun _ =>
          rxBuf_of_lt (by omega)
        simp only [frequency_bytes, hfrequency, hcommand]
        exact .of_eq rfl
      · -- some byte of the frequency is there, so the command is
        have hcommand : 17 ≤ payload.length := by
          by_contra hshort
          refine hrange ?_
          rw [ownFrequency, ownBytes_of_le (by omega), ownBytes_of_le (by omega),
            ownBytes_of_le (by omega), ownBytes_of_le (by omega)]
          decide
        have hread : ∀ beyond : Beyond, s.buzzer.control (rxBuf beyond.rxBuf payload 16)
            (ofIntBytes [rxBuf beyond.rxBuf payload 17, rxBuf beyond.rxBuf payload 18,
              rxBuf beyond.rxBuf payload 19, rxBuf beyond.rxBuf payload 20]) =
            if ownBytes payload 16 = 0x00 then s.buzzer.off
            else if ownBytes payload 16 = 0x01 then s.buzzer.on else s.buzzer := by
          intro beyond
          rw [ownFrequency, frequency_bytes, maxFreq_eq] at hrange
          have hnever := not_mem_of_ownBytes (by decide) hrange beyond.rxBuf
          rw [← maxFreq_eq] at hnever
          rw [frequency_bytes, control_of_not_mem _ _ hnever,
            rxBuf_of_lt (show 16 < payload.length by omega)]
        rw [hread beyond, hread beyond']
        exact .of_eq rfl

/-! ### The lamps -/

/-- The lamp method goes by the datagram's own bytes: it names a side, and the command is
there unless the alert keeps that side. -/
def LedBytes (s : Actuators) (payload : List UInt8) : Prop :=
  ownBytes payload 16 < 3 ∧
    (18 ≤ payload.length ∨
      (payload.length = 17 ∧ ownBytes payload 16 = 0 ∧ 0 ≤ s.interval))

theorem ofByte?_eq_none_iff {side : UInt8} : LedSide.ofByte? side = none ↔ ¬ side < 3 := by
  have hall : ∀ n : Fin 256, LedSide.ofByte? (UInt8.ofNat n.val) = none ↔
      ¬ UInt8.ofNat n.val < 3 := by decide +kernel
  have hside := hall ⟨side.toNat, side.toNat_lt⟩
  rwa [UInt8.ofNat_toNat] at hside

/-- Of a side, `LED_GetData` reads the table only. -/
theorem getData_of_lt {side : UInt8} (h : side < 3) (l : Led) (beside beside' : ℕ → Bool) :
    l.getData beside side = l.getData beside' side := by
  have hsome : LedSide.ofByte? side ≠ none := fun hnone => ofByte?_eq_none_iff.mp hnone h
  obtain ⟨s, hs⟩ := Option.ne_none_iff_exists'.mp hsome
  simp only [Led.getData, hs]

/-- What the lamp method does to the lamps. -/
def ledAfter (s : Actuators) (rx : ℕ → UInt8) : Led :=
  if rx 16 = 0 ∧ 0 ≤ s.interval then s.led else s.led.control (rx 16) (rx 17)

theorem ledMethod_eq (s : Actuators) (beyond : Beyond) (rx : ℕ → UInt8) :
    s.ledMethod beyond rx = ({ s with led := ledAfter s rx }, some (reply rx
      (serializeLedData ((ledAfter s rx).getData beyond.ledTable (rx 16))))) := by
  rw [Actuators.ledMethod, ledAfter]
  split <;> rfl

/-- The bytes of a lamp's data tell which side it is and whether it is on. -/
theorem serializeLedData_injective {d d' : LedData}
    (h : serializeLedData d = serializeLedData d') : d = d' := by
  obtain ⟨side, isOn⟩ := d
  obtain ⟨side', isOn'⟩ := d'
  simp only [serializeLedData, List.cons.injEq, and_true] at h
  obtain ⟨rfl, hon⟩ := h
  have hbit : ∀ a b : Bool, (if a then (0x01 : UInt8) else 0x00) = (if b then 0x01 else 0x00) →
      a = b := by decide
  rw [hbit isOn isOn' hon]

section Lamps

variable {s : Actuators} {payload : List UInt8}

/-- The lamp method does the same whatever lies behind the datagram and the table. -/
def LedIndependent (s : Actuators) (payload : List UInt8) : Prop :=
  ∀ beyond beyond' : Beyond, SameOutcome (s.ledMethod beyond (rxBuf beyond.rxBuf payload))
    (s.ledMethod beyond' (rxBuf beyond'.rxBuf payload))

/-- What the method replies with is the same, then. -/
theorem LedIndependent.getData_eq (h : LedIndependent s payload) (hlen : 16 ≤ payload.length)
    (beyond beyond' : Beyond) :
    (ledAfter s (rxBuf beyond.rxBuf payload)).getData beyond.ledTable
        (rxBuf beyond.rxBuf payload 16) =
      (ledAfter s (rxBuf beyond'.rxBuf payload)).getData beyond'.ledTable
        (rxBuf beyond'.rxBuf payload 16) := by
  have hreply := (h beyond beyond').reply
  simp only [ledMethod_eq, reply_rxBuf hlen] at hreply
  exact serializeLedData_injective (data_eq_of_reply_eq (Option.some.inj hreply))

/-- The side is there, or it could be any. -/
theorem LedIndependent.le_length (h : LedIndependent s payload) (hlen : 16 ≤ payload.length) :
    17 ≤ payload.length := by
  by_contra hshort
  have hsides := congrArg LedData.side (h.getData_eq hlen (oneByte 16 0) (oneByte 16 1))
  change rxBuf (oneByte 16 0).rxBuf payload 16 = rxBuf (oneByte 16 1).rxBuf payload 16 at hsides
  rw [rxBuf_oneByte_self (by omega), rxBuf_oneByte_self (by omega)] at hsides
  exact absurd hsides (by decide)

/-- It is a side, or `LED_GetData` reads what lies behind the table. -/
theorem LedIndependent.side_lt (h : LedIndependent s payload) (hlen : 16 ≤ payload.length) :
    ownBytes payload 16 < 3 := by
  have hside := h.le_length hlen
  by_contra hnone
  have hison := congrArg LedData.isOn (h.getData_eq hlen ⟨fun _ => 0, fun _ => false⟩
    ⟨fun _ => 0, fun _ => true⟩)
  simp only [Led.getData, rxBuf_of_lt hside, ofByte?_eq_none_iff.mpr hnone] at hison
  cases hison

/-- The command is there or does not count, or it could be to switch on or off. -/
theorem LedIndependent.command (h : LedIndependent s payload) (hlen : 16 ≤ payload.length) :
    18 ≤ payload.length ∨ (payload.length = 17 ∧ ownBytes payload 16 = 0 ∧ 0 ≤ s.interval) := by
  have hside := h.le_length hlen
  by_contra hcommand
  simp only [not_or, Nat.not_le] at hcommand
  obtain ⟨hshort, hguard⟩ := hcommand
  have hlen : payload.length = 17 := by omega
  obtain ⟨side, hsome⟩ := Option.ne_none_iff_exists'.mp fun hnone =>
    ofByte?_eq_none_iff.mp hnone (h.side_lt (by omega))
  have hled : ∀ b, ledAfter s (rxBuf (oneByte 17 b).rxBuf payload) =
      s.led.control (ownBytes payload 16) b := by
    intro b
    rw [ledAfter, rxBuf_of_lt hside, rxBuf_oneByte_self (by omega),
      if_neg fun hkeeps => hguard ⟨hlen, hkeeps⟩]
  have hleds := (h (oneByte 17 0) (oneByte 17 1)).led
  simp only [ledMethod_eq, hled, Led.control, hsome] at hleds
  have hison := congrFun (congrArg Led.isOn hleds) side
  change Function.update s.led.isOn side false side = Function.update s.led.isOn side true side
    at hison
  rw [Function.update_self, Function.update_self] at hison
  cases hison

/-- With the bytes it needs, the method goes by them. -/
theorem LedBytes.independent (h : LedBytes s payload) (hlen : 16 ≤ payload.length) :
    LedIndependent s payload := by
  obtain ⟨hside, hcommand⟩ := h
  intro beyond beyond'
  have hsideByte : ∀ beyond, rxBuf beyond payload 16 = ownBytes payload 16 := fun beyond =>
    rxBuf_of_lt (by omega)
  have hled : ∀ beyond, ledAfter s (rxBuf beyond payload) = ledAfter s (ownBytes payload) := by
    intro beyond
    rw [ledAfter, ledAfter, hsideByte]
    rcases hcommand with hall | ⟨-, hback, hinterval⟩
    · rw [rxBuf_of_lt (show 17 < payload.length by omega)]
    · rw [if_pos ⟨hback, hinterval⟩, if_pos ⟨hback, hinterval⟩]
  rw [ledMethod_eq, ledMethod_eq, reply_rxBuf hlen, reply_rxBuf hlen, hled, hled, hsideByte,
    hsideByte, getData_of_lt hside _ _ beyond'.ledTable]
  exact .of_eq rfl

/-- **The lamp method.** -/
theorem led_independent_iff (hlen : 16 ≤ payload.length) :
    LedIndependent s payload ↔ LedBytes s payload := by
  constructor
  · intro h
    exact ⟨h.side_lt hlen, h.command hlen⟩
  · intro h
    exact h.independent hlen

end Lamps

/-! ### The interval of the alert -/

/-- The interval is set to what it is asked to be. -/
theorem setInterval_toggleIntervalMs (a : EmerAlert) (toggleIntervalMs : ℤ) :
    (a.setInterval toggleIntervalMs).1.toggleIntervalMs = toggleIntervalMs := by
  rw [EmerAlert.setInterval]
  split
  · rename_i heq
    exact heq.symm
  · rfl

/-- The alert method, of the interval it reads. -/
theorem alertMethod_of_cycle (s : Service3) {rx : ℕ → UInt8} {cycleMs : ℤ}
    (h : cycleMs = ofIntBytes (([16, 17, 18, 19, 20, 21, 22] ++ [23]).map rx)) :
    s.alertMethod rx = ({ s with
        emerAlert := (s.emerAlert.setInterval cycleMs).1
        emerAlertLatestData :=
          if (s.emerAlert.setInterval cycleMs).2 then
            (s.emerAlert.setInterval cycleMs).1.toggleIntervalMs
          else s.emerAlertLatestData },
      some (reply rx (serializeEmerAlertData
        (if (s.emerAlert.setInterval cycleMs).2 then
          (s.emerAlert.setInterval cycleMs).1.toggleIntervalMs
        else s.emerAlertLatestData)))) := by
  subst h
  rfl

/-- What the alert method makes of the interval is what it reads. -/
theorem interval_alertMethod (s : Service3) {rx : ℕ → UInt8} {cycleMs : ℤ}
    (h : cycleMs = ofIntBytes (([16, 17, 18, 19, 20, 21, 22] ++ [23]).map rx)) :
    (s.alertMethod rx).1.emerAlert.toggleIntervalMs = cycleMs := by
  rw [alertMethod_of_cycle s h]
  exact setInterval_toggleIntervalMs _ _

/-- A result of Service 3, as a result of the whole. -/
def ofService3 (s : Actuators) (r : Service3 × Option (List UInt8)) :
    Actuators × Option (List UInt8) := ({ s with service3 := r.1 }, r.2)

theorem interval_ofService3 (s : Actuators) (r : Service3 × Option (List UInt8)) :
    (ofService3 s r).1.interval = r.1.emerAlert.toggleIntervalMs := rfl

/-- **The alert method** goes by the datagram's own bytes when they are all there. -/
theorem alert_independent_iff {s : Actuators} {payload : List UInt8}
    (hlen : 16 ≤ payload.length) :
    (∀ beyond beyond' : Beyond,
      SameOutcome (ofService3 s (s.service3.alertMethod (rxBuf beyond.rxBuf payload)))
        (ofService3 s (s.service3.alertMethod (rxBuf beyond'.rxBuf payload)))) ↔
      24 ≤ payload.length := by
  constructor
  · intro hsame
    by_contra hshort
    have hread : ∀ b, ([16, 17, 18, 19, 20, 21, 22] ++ [23]).map
        (rxBuf (oneByte 23 b).rxBuf payload) =
        [16, 17, 18, 19, 20, 21, 22].map (ownBytes payload) ++ [b] :=
      map_rxBuf_oneByte (by decide) (by omega)
    obtain ⟨c, hc⟩ : ∃ c, c = ofIntBytes
        ([16, 17, 18, 19, 20, 21, 22].map (ownBytes payload) ++ [0]) := ⟨_, rfl⟩
    obtain ⟨c', hc'⟩ : ∃ c, c = ofIntBytes
        ([16, 17, 18, 19, 20, 21, 22].map (ownBytes payload) ++ [1]) := ⟨_, rfl⟩
    have hintervals := (hsame (oneByte 23 0) (oneByte 23 1)).interval
    rw [interval_ofService3, interval_ofService3,
      interval_alertMethod s.service3 (hc.trans (congrArg ofIntBytes (hread 0).symm)),
      interval_alertMethod s.service3 (hc'.trans (congrArg ofIntBytes (hread 1).symm))]
      at hintervals
    have hbytes := ofBytes_eq_of_ofIntBytes_eq (by rfl) (hc.symm.trans (hintervals.trans hc'))
    rw [ofBytes_concat, ofBytes_concat] at hbytes
    have hzero : (0 : UInt8).toNat = 0 := rfl
    have hone : (1 : UInt8).toNat = 1 := rfl
    omega
  · intro hall beyond beyond'
    obtain ⟨c, hc⟩ : ∃ c, c = ofIntBytes
        (([16, 17, 18, 19, 20, 21, 22] ++ [23]).map (ownBytes payload)) := ⟨_, rfl⟩
    have hread : ∀ beyond : Beyond, c = ofIntBytes
        (([16, 17, 18, 19, 20, 21, 22] ++ [23]).map (rxBuf beyond.rxBuf payload)) := fun _ =>
      hc.trans (congrArg ofIntBytes (map_rxBuf_of_lt hall (by decide)).symm)
    rw [alertMethod_of_cycle s.service3 (hread beyond),
      alertMethod_of_cycle s.service3 (hread beyond'), reply_rxBuf hlen, reply_rxBuf hlen]
    exact .of_eq rfl

/-! ### The motors -/

/-- The coordinates a datagram asks for, with zeros for what is missing of them. -/
def ownCoordinates (payload : List UInt8) : ℤ × ℤ :=
  (ofIntBytes ([16, 17, 18, 19].map (ownBytes payload)),
    ofIntBytes (([20, 21, 22] ++ [23]).map (ownBytes payload)))

/-- The motor method goes by the datagram's own bytes: they are all there, or what there is
of the coordinates is out of range. -/
def MotorBytes (payload : List UInt8) : Prop :=
  24 ≤ payload.length ∨
    ¬ MotorController.InRange (ownCoordinates payload).1 (ownCoordinates payload).2

/-- The motor method, of the coordinates it reads. -/
theorem motorMethod_of_coordinates (s : Service3) {rx : ℕ → UInt8} {x y : ℤ}
    (hx : x = ofIntBytes ([16, 17, 18, 19].map rx))
    (hy : y = ofIntBytes (([20, 21, 22] ++ [23]).map rx)) :
    s.motorMethod rx = ({ s with
        motor := (s.motor.processJoystickInput x y).1
        motorControllerLatestData :=
          if (s.motor.processJoystickInput x y).2 then
            (s.motor.processJoystickInput x y).1.latestData
          else s.motorControllerLatestData },
      some (reply rx (serializeMotorControllerData
        (if (s.motor.processJoystickInput x y).2 then
          (s.motor.processJoystickInput x y).1.latestData
        else s.motorControllerLatestData)))) := by
  subst hx hy
  rfl

/-- New coordinates in range are in the copy that the callback sends. -/
theorem y_latestData_of_new {c : MotorController} {x y : ℤ} (h : MotorController.InRange x y)
    (hne : y ≠ c.preY) (d : MotorControllerData) :
    (if (c.processJoystickInput x y).2 then (c.processJoystickInput x y).1.latestData else d).y =
      y := by
  rw [MotorController.processJoystickInput_of_new h fun hsame => hne hsame.2]
  rfl

/-- The bytes of the motors' data tell the vertical coordinate. -/
theorem y_of_serializeMotorControllerData_eq {d d' : MotorControllerData}
    (h : serializeMotorControllerData d = serializeMotorControllerData d')
    (hy : 0 ≤ d.y ∧ d.y ≤ 99) (hy' : 0 ≤ d'.y ∧ d'.y ≤ 99) : d.y = d'.y := by
  have hfour : ∀ z w : ℤ, ∀ rest : List UInt8,
      ((toIntBytes 4 z ++ toIntBytes 4 w ++ rest).drop 4).take 4 = toIntBytes 4 w := by
    intro z w rest
    rw [List.append_assoc, List.drop_left' (length_toIntBytes 4 z),
      List.take_left' (length_toIntBytes 4 w)]
  have hcut := congrArg (fun bs => ofIntBytes ((bs.drop 4).take 4)) h
  simp only [serializeMotorControllerData, List.append_assoc (_ ++ _), hfour] at hcut
  rwa [ofIntBytes_toIntBytes (by norm_num; omega) (by norm_num; omega),
    ofIntBytes_toIntBytes (by norm_num; omega) (by norm_num; omega)] at hcut

theorem reply_ofService3 (s : Actuators) (r : Service3 × Option (List UInt8)) :
    (ofService3 s r).2 = r.2 := rfl

/-- With the last byte of the vertical coordinate missing, it is anything below 256 if it
may be in range at all. -/
theorem y_oneByte {payload : List UInt8} (hshort : payload.length ≤ 23)
    (hy : 0 ≤ (ownCoordinates payload).2 ∧ (ownCoordinates payload).2 ≤ 99) {b : UInt8}
    (hb : b.toNat ≤ 99) : (b.toNat : ℤ) =
      ofIntBytes (([20, 21, 22] ++ [23]).map (rxBuf (oneByte 23 b).rxBuf payload)) := by
  have hn : ∀ xs : List UInt8, xs.length = 4 → 2 * 99 < 256 ^ xs.length := by
    rintro xs hxs
    rw [hxs]
    decide
  have hupper : ofBytes ([20, 21, 22].map (ownBytes payload)) = 0 := by
    have hown : ([20, 21, 22] ++ [23]).map (ownBytes payload) =
        [20, 21, 22].map (ownBytes payload) ++ [0] := by
      rw [List.map_append, List.map_singleton, ownBytes_of_le hshort]
    rw [ownCoordinates, hown] at hy
    have hle := (ofIntBytes_mem_iff (hn _ rfl)).mp hy
    rw [ofBytes_concat] at hle
    omega
  have hvalue := ofBytes_concat ([20, 21, 22].map (ownBytes payload)) b
  rw [map_rxBuf_oneByte (by decide) hshort, ofIntBytes_of_le (hn _ rfl) (by omega), hvalue]
  omega

/-- There are two vertical coordinates that are not the last one. -/
theorem exists_other_coordinates (preY : ℤ) : ∃ b b' : UInt8, b.toNat ≤ 99 ∧ b'.toNat ≤ 99 ∧
    b.toNat ≠ b'.toNat ∧ (b.toNat : ℤ) ≠ preY ∧ (b'.toNat : ℤ) ≠ preY := by
  have h₁ : (10 : UInt8).toNat = 10 := rfl
  have h₂ : (60 : UInt8).toNat = 60 := rfl
  have h₃ : (90 : UInt8).toNat = 90 := rfl
  by_cases hpre₁ : preY = 10
  · exact ⟨60, 90, by omega, by omega, by omega, by omega, by omega⟩
  · by_cases hpre₂ : preY = 60
    · exact ⟨10, 90, by omega, by omega, by omega, by omega, by omega⟩
    · exact ⟨10, 60, by omega, by omega, by omega, by omega, by omega⟩

/-- What is out of range with zeros for the missing bytes is so with any others. -/
theorem not_inRange_of_ownCoordinates {payload : List UInt8}
    (h : ¬ MotorController.InRange (ownCoordinates payload).1 (ownCoordinates payload).2)
    (beyond : ℕ → UInt8) :
    ¬ MotorController.InRange (ofIntBytes ([16, 17, 18, 19].map (rxBuf beyond payload)))
      (ofIntBytes (([20, 21, 22] ++ [23]).map (rxBuf beyond payload))) := by
  rintro ⟨hx, hx', hy, hy'⟩
  refine h ?_
  have hread : ∀ positions : List ℕ, 2 * 99 < 256 ^ positions.length →
      (0 ≤ ofIntBytes (positions.map (rxBuf beyond payload)) ∧
        ofIntBytes (positions.map (rxBuf beyond payload)) ≤ ((99 : ℕ) : ℤ)) →
      0 ≤ ofIntBytes (positions.map (ownBytes payload)) ∧
        ofIntBytes (positions.map (ownBytes payload)) ≤ ((99 : ℕ) : ℤ) := by
    intro positions hn hmem
    by_contra hown
    exact not_mem_of_ownBytes hn hown beyond hmem
  obtain ⟨hox, hox'⟩ := hread [16, 17, 18, 19] (by decide) ⟨hx, hx'⟩
  obtain ⟨hoy, hoy'⟩ := hread ([20, 21, 22] ++ [23]) (by decide) ⟨hy, hy'⟩
  exact ⟨hox, hox', hoy, hoy'⟩

section Motors

variable {s : Actuators} {payload : List UInt8}

/-- The motor method does the same whatever lies behind the datagram. -/
def MotorIndependent (s : Actuators) (payload : List UInt8) : Prop :=
  ∀ beyond beyond' : Beyond,
    SameOutcome (ofService3 s (s.service3.motorMethod (rxBuf beyond.rxBuf payload)))
      (ofService3 s (s.service3.motorMethod (rxBuf beyond'.rxBuf payload)))

/-- Coordinates of which the last byte is missing could be one new pair or another, and both
would be sent back. -/
theorem MotorIndependent.bytes (h : MotorIndependent s payload) (hlen : 16 ≤ payload.length) :
    MotorBytes payload := by
  by_contra hbytes
  simp only [MotorBytes, not_or, not_not, Nat.not_le] at hbytes
  obtain ⟨hshort, hrange⟩ := hbytes
  obtain ⟨b, b', hb, hb', hne, hpre, hpre'⟩ := exists_other_coordinates s.service3.motor.preY
  have hx : ∀ b, (ownCoordinates payload).1 =
      ofIntBytes ([16, 17, 18, 19].map (rxBuf (oneByte 23 b).rxBuf payload)) := by
    intro b
    refine congrArg ofIntBytes (List.map_congr_left fun i hi => ?_)
    refine (rxBuf_oneByte_of_ne ?_ b).symm
    rintro rfl
    exact absurd hi (by decide)
  have hy := fun b => y_oneByte (b := b) (by omega) ⟨hrange.2.2.1, hrange.2.2.2⟩
  have hreplies := (h (oneByte 23 b) (oneByte 23 b')).reply
  rw [reply_ofService3, reply_ofService3,
    motorMethod_of_coordinates s.service3 (hx b) (hy b hb),
    motorMethod_of_coordinates s.service3 (hx b') (hy b' hb'), reply_rxBuf hlen,
    reply_rxBuf hlen] at hreplies
  have hin : ∀ b : UInt8, b.toNat ≤ 99 →
      MotorController.InRange (ownCoordinates payload).1 b.toNat := fun b hb =>
    ⟨hrange.1, hrange.2.1, by omega, by omega⟩
  have hsent := y_latestData_of_new (hin b hb) hpre s.service3.motorControllerLatestData
  have hsent' := y_latestData_of_new (hin b' hb') hpre' s.service3.motorControllerLatestData
  have hcoordinates := y_of_serializeMotorControllerData_eq
    (data_eq_of_reply_eq (Option.some.inj hreplies)) (by rw [hsent]; omega)
    (by rw [hsent']; omega)
  rw [hsent, hsent'] at hcoordinates
  exact hne (Int.ofNat_inj.mp hcoordinates)

/-- Coordinates that are all there are the datagram's own. -/
theorem motorIndependent_of_le (hall : 24 ≤ payload.length) : MotorIndependent s payload := by
  intro beyond beyond'
  have hlen : 16 ≤ payload.length := by omega
  obtain ⟨x, hx⟩ : ∃ x, x = (ownCoordinates payload).1 := ⟨_, rfl⟩
  obtain ⟨y, hy⟩ : ∃ y, y = (ownCoordinates payload).2 := ⟨_, rfl⟩
  have hreadX : ∀ beyond : Beyond,
      x = ofIntBytes ([16, 17, 18, 19].map (rxBuf beyond.rxBuf payload)) := fun _ =>
    hx.trans (congrArg ofIntBytes (map_rxBuf_of_lt hall (by decide)).symm)
  have hreadY : ∀ beyond : Beyond,
      y = ofIntBytes (([20, 21, 22] ++ [23]).map (rxBuf beyond.rxBuf payload)) := fun _ =>
    hy.trans (congrArg ofIntBytes (map_rxBuf_of_lt hall (by decide)).symm)
  rw [motorMethod_of_coordinates s.service3 (hreadX beyond) (hreadY beyond),
    motorMethod_of_coordinates s.service3 (hreadX beyond') (hreadY beyond'),
    reply_rxBuf hlen, reply_rxBuf hlen]
  exact .of_eq rfl

/-- Coordinates that are out of range anyhow are dropped. -/
theorem motorIndependent_of_not_inRange (hlen : 16 ≤ payload.length)
    (hrange : ¬ MotorController.InRange (ownCoordinates payload).1 (ownCoordinates payload).2) :
    MotorIndependent s payload := by
  intro beyond beyond'
  have hkeeps := fun beyond : Beyond => MotorController.processJoystickInput_of_not_inRange
    (c := s.service3.motor) (not_inRange_of_ownCoordinates hrange beyond.rxBuf)
  rw [motorMethod_of_coordinates s.service3 rfl rfl,
    motorMethod_of_coordinates s.service3 rfl rfl, hkeeps beyond, hkeeps beyond',
    reply_rxBuf hlen, reply_rxBuf hlen]
  exact .of_eq rfl

/-- **The motor method.** -/
theorem motor_independent_iff (hlen : 16 ≤ payload.length) :
    MotorIndependent s payload ↔ MotorBytes payload := by
  constructor
  · intro h
    exact h.bytes hlen
  · rintro (hall | hrange)
    · exact motorIndependent_of_le hall
    · exact motorIndependent_of_not_inRange hlen hrange

end Motors

/-! ### The service discovery -/

/-- The callback of the service discovery goes by the datagram's own bytes: they are all
there, or what there is of the identifier is another one. -/
def SdBytes (payload : List UInt8) : Prop :=
  25 ≤ payload.length ∨ ¬ payload.take 4 <+: [0xFF, 0xFF, 0x81, 0x00]

/-- Where the buffer begins with some bytes, so does the datagram, as far as it goes. -/
theorem take_prefix_of_rxBuf {beyond : ℕ → UInt8} {payload : List UInt8} {a b c d : UInt8}
    (h₀ : rxBuf beyond payload 0 = a) (h₁ : rxBuf beyond payload 1 = b)
    (h₂ : rxBuf beyond payload 2 = c) (h₃ : rxBuf beyond payload 3 = d) :
    payload.take 4 <+: [a, b, c, d] := by
  subst h₀ h₁ h₂ h₃
  rcases payload with _ | ⟨p₀, _ | ⟨p₁, _ | ⟨p₂, _ | ⟨p₃, payload⟩⟩⟩⟩
  · exact List.nil_prefix
  · exact ⟨[_, _, _], rfl⟩
  · exact ⟨[_, _], rfl⟩
  · exact ⟨[_], rfl⟩
  · exact List.prefix_rfl

/-- A datagram that begins like a message of the service discovery is one, if what lies
behind it completes it. -/
theorem rxBuf_of_begins {beyond : ℕ → UInt8} {payload : List UInt8} {a b c d : UInt8}
    (h : payload.take 4 <+: [a, b, c, d]) (h₀ : beyond 0 = a) (h₁ : beyond 1 = b)
    (h₂ : beyond 2 = c) (h₃ : beyond 3 = d) :
    rxBuf beyond payload 0 = a ∧ rxBuf beyond payload 1 = b ∧ rxBuf beyond payload 2 = c ∧
      rxBuf beyond payload 3 = d := by
  subst h₀ h₁ h₂ h₃
  obtain ⟨more, hmore⟩ := h
  rcases payload with _ | ⟨p₀, _ | ⟨p₁, _ | ⟨p₂, _ | ⟨p₃, payload⟩⟩⟩⟩
  · exact ⟨rfl, rfl, rfl, rfl⟩
  · simp only [List.take, List.cons_append, List.cons.injEq] at hmore
    exact ⟨hmore.1, rfl, rfl, rfl⟩
  · simp only [List.take, List.cons_append, List.cons.injEq] at hmore
    exact ⟨hmore.1, hmore.2.1, rfl, rfl⟩
  · simp only [List.take, List.cons_append, List.cons.injEq] at hmore
    exact ⟨hmore.1, hmore.2.1, hmore.2.2.1, rfl⟩
  · simp only [List.take, List.cons_append, List.cons.injEq] at hmore
    exact ⟨hmore.1, hmore.2.1, hmore.2.2.1, hmore.2.2.2.1⟩

/-- What completes a message of the service discovery of a given type. -/
def sdBeyond (sdType : UInt8) : Beyond where
  rxBuf := fun i =>
    if i = 24 then sdType
    else if i = 0 ∨ i = 1 then 0xFF
    else if i = 2 then 0x81
    else 0x00
  ledTable := fun _ => false

/-- **The service discovery.** -/
theorem sd_independent_iff (ip : Buffer UInt8 4) {payload : List UInt8} :
    (∀ beyond beyond' : Beyond, someIpSdRecvCallback ip beyond.rxBuf payload =
      someIpSdRecvCallback ip beyond'.rxBuf payload) ↔ SdBytes payload := by
  constructor
  · intro hsame
    by_contra hbytes
    simp only [SdBytes, not_or, not_not, Nat.not_le] at hbytes
    obtain ⟨hshort, hprefix⟩ := hbytes
    have hsent : ∀ t, someIpSdRecvCallback ip (sdBeyond t).rxBuf payload =
        if t = 0x00 then some (msgOfferService ip)
        else if t = 0x06 then some msgSubEvtGrpAck
        else none := by
      intro t
      have htype : rxBuf (sdBeyond t).rxBuf payload 24 = t := by
        rw [rxBuf_of_le (by omega)]
        rfl
      rw [someIpSdRecvCallback_eq, if_pos (rxBuf_of_begins hprefix rfl rfl rfl rfl), htype]
    have hdiffers := hsame (sdBeyond 0x00) (sdBeyond 0x01)
    rw [hsent, hsent, if_pos rfl, if_neg (by decide), if_neg (by decide)] at hdiffers
    cases hdiffers
  · rintro (hall | hother) beyond beyond'
    · have hbyte : ∀ beyond : Beyond, ∀ i ≤ 24,
          rxBuf beyond.rxBuf payload i = ownBytes payload i := fun beyond i hi =>
        rxBuf_of_lt (by omega)
      have hheader : ∀ beyond : Beyond, someIpSdRecvCallback ip beyond.rxBuf payload =
          someIpSdRecvCallback ip (fun _ => 0) payload := by
        intro beyond
        rw [someIpSdRecvCallback_eq, someIpSdRecvCallback_eq, hbyte beyond 0 (by omega),
          hbyte beyond 1 (by omega), hbyte beyond 2 (by omega), hbyte beyond 3 (by omega),
          hbyte beyond 24 (by omega)]
        rfl
      rw [hheader, hheader]
    · have hsilent : ∀ beyond : Beyond, someIpSdRecvCallback ip beyond.rxBuf payload = none := by
        intro beyond
        rw [someIpSdRecvCallback_eq]
        refine if_neg ?_
        rintro ⟨h₀, h₁, h₂, h₃⟩
        exact hother (take_prefix_of_rxBuf h₀ h₁ h₂ h₃)
      rw [hsilent, hsilent]

/-! ### All callbacks -/

/-- What a datagram has to have for its callback to go by its own bytes. -/
def Callback.FromOwnBytes (s : Actuators) (payload : List UInt8) : Callback → Prop
  | service2 =>
    (IsRequest 0x0200 0x0201 payload → BuzzerBytes s payload) ∧
      (IsRequest 0x0200 0x0202 payload → LedBytes s payload)
  | service3 =>
    (IsRequest 0x0300 0x0301 payload → 24 ≤ payload.length) ∧
      (IsRequest 0x0300 0x0302 payload → MotorBytes payload)
  | sd => SdBytes payload

theorem service2_independent_iff (ip : Buffer UInt8 4) (s : Actuators) (payload : List UInt8) :
    Independent ip .service2 s payload ↔ Callback.service2.FromOwnBytes s payload := by
  simp only [Independent, Callback.run]
  by_cases hrequest : ∃ method, IsRequest 0x0200 method payload
  · obtain ⟨method, h⟩ := hrequest
    have hmethod : ∀ method', IsRequest 0x0200 method' payload → method = method' :=
      fun method' h' => h.method.symm.trans h'.method
    simp only [service2Callback_of_isRequest h]
    by_cases hbuzzer : method = 0x0201
    · subst hbuzzer
      simp only [if_true, buzzer_independent_iff h.le_length]
      exact ⟨fun hbytes => ⟨fun _ => hbytes, fun h' => absurd (hmethod _ h') (by decide)⟩,
        fun hbytes => hbytes.1 h⟩
    · simp only [if_neg hbuzzer]
      by_cases hled : method = 0x0202
      · subst hled
        simp only [if_true]
        refine (led_independent_iff h.le_length).trans ?_
        exact ⟨fun hbytes => ⟨fun h' => absurd (hmethod _ h') (by decide), fun _ => hbytes⟩,
          fun hbytes => hbytes.2 h⟩
      · simp only [if_neg hled]
        exact iff_of_true (fun _ _ => .of_eq rfl)
          ⟨fun h' => absurd (hmethod _ h') hbuzzer, fun h' => absurd (hmethod _ h') hled⟩
  · have hnone : ∀ method, ¬ IsRequest 0x0200 method payload := fun method h =>
      hrequest ⟨method, h⟩
    simp only [service2Callback_of_not_isRequest hnone]
    exact iff_of_true (fun _ _ => .of_eq rfl)
      ⟨fun h' => absurd h' (hnone _), fun h' => absurd h' (hnone _)⟩

theorem service3_independent_iff (ip : Buffer UInt8 4) (s : Actuators) (payload : List UInt8) :
    Independent ip .service3 s payload ↔ Callback.service3.FromOwnBytes s payload := by
  have hrun : ∀ beyond, Callback.service3.run ip beyond s payload =
      ofService3 s (Service3.callback beyond.rxBuf s.service3 payload) := fun _ => rfl
  simp only [Independent, hrun]
  by_cases hrequest : ∃ method, IsRequest 0x0300 method payload
  · obtain ⟨method, h⟩ := hrequest
    have hmethod : ∀ method', IsRequest 0x0300 method' payload → method = method' :=
      fun method' h' => h.method.symm.trans h'.method
    simp only [service3Callback_of_isRequest h]
    by_cases halert : method = 0x0301
    · subst halert
      simp only [if_true, alert_independent_iff h.le_length]
      exact ⟨fun hbytes => ⟨fun _ => hbytes, fun h' => absurd (hmethod _ h') (by decide)⟩,
        fun hbytes => hbytes.1 h⟩
    · simp only [if_neg halert]
      by_cases hmotor : method = 0x0302
      · subst hmotor
        simp only [if_true]
        refine (motor_independent_iff h.le_length).trans ?_
        exact ⟨fun hbytes => ⟨fun h' => absurd (hmethod _ h') (by decide), fun _ => hbytes⟩,
          fun hbytes => hbytes.2 h⟩
      · simp only [if_neg hmotor]
        exact iff_of_true (fun _ _ => .of_eq rfl)
          ⟨fun h' => absurd (hmethod _ h') halert, fun h' => absurd (hmethod _ h') hmotor⟩
  · have hnone : ∀ method, ¬ IsRequest 0x0300 method payload := fun method h =>
      hrequest ⟨method, h⟩
    simp only [service3Callback_of_not_isRequest hnone]
    exact iff_of_true (fun _ _ => .of_eq rfl)
      ⟨fun h' => absurd h' (hnone _), fun h' => absurd h' (hnone _)⟩

/-- **When a datagram is handled from its own bytes only**, in every state, for every
datagram and every callback. -/
theorem independent_iff (ip : Buffer UInt8 4) (c : Callback) (s : Actuators)
    (payload : List UInt8) : Independent ip c s payload ↔ c.FromOwnBytes s payload := by
  cases c with
  | service2 => exact service2_independent_iff ip s payload
  | service3 => exact service3_independent_iff ip s payload
  | sd =>
    rw [Callback.FromOwnBytes, ← sd_independent_iff ip]
    constructor
    · intro hsame beyond beyond'
      exact (hsame beyond beyond').reply
    · intro hsame beyond beyond'
      exact ⟨rfl, rfl, rfl, rfl, rfl, hsame beyond beyond'⟩

/-- A request to the motors that ends after its header. -/
def bareMotorRequest : List UInt8 :=
  [0x03, 0x00, 0x03, 0x02, 0x00, 0x00, 0x00, 0x08, 0x00, 0x00, 0x00, 0x01, 0x01, 0x01, 0x00, 0x00]

/-- It drives the motors by what lies behind it. -/
theorem bareMotorRequest_not_independent :
    ¬ Independent (Buffer.fill 4 0) .service3 {} bareMotorRequest := by
  have hrequest : IsRequest 0x0300 0x0302 bareMotorRequest :=
    ⟨by decide, by decide, by decide, by decide, by decide⟩
  intro hindependent
  rcases ((service3_independent_iff _ _ _).mp hindependent).2 hrequest with hlen | hrange
  · exact absurd hlen (by decide)
  · exact hrange (by decide)

end Ecu

end VehicleStack
