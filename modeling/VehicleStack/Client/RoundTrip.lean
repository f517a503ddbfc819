import VehicleStack.Client.RpiClient

/-!
# What the client makes of the data in a response

`serialize_data.c` and `on_message` of `rpi_client_app.cpp` were written apart from each
other. The records that go over the wire are `VehicleStack.Client.Record`, with one
serialisation for all of them (`VehicleStack.Client.Record.serialize`); that the client
reads back what the ECU serialised is `VehicleStack.Client.onMessage_serialize`.
-/

namespace VehicleStack

namespace Client

open Ecu BigEndian

/-! ### Methods and records -/

/-- The methods of the three services. -/
inductive Method where
  | pr
  | tof
  | ult
  | buzzer
  | led
  | alert
  | motor
  deriving DecidableEq

/-- The service of a method. -/
def Method.serviceId : Method → ℕ
  | pr | tof | ult => 0x0100
  | buzzer | led => 0x0200
  | alert | motor => 0x0300

/-- The number of a method. -/
def Method.methodId : Method → ℕ
  | pr => 0x0101
  | tof => 0x0102
  | ult => 0x0103
  | buzzer => 0x0201
  | led => 0x0202
  | alert => 0x0301
  | motor => 0x0302

/-- The length of a complete request. -/
def Method.requestLength : Method → ℕ
  | pr | tof | ult => 16
  | buzzer => 21
  | led => 18
  | alert | motor => 24

namespace Record

/-- The method a record belongs to. -/
def method : Record → Method
  | pr _ => .pr
  | tof _ => .tof
  | ult _ => .ult
  | buzzer _ => .buzzer
  | led _ => .led
  | alert _ => .alert
  | motor _ => .motor

/-- The payload of the response that carries a record. -/
def serialize : Record → List UInt8
  | pr d => serializePRData d
  | tof d => serializeToFData d
  | ult ds => UInt8.ofNat ds.length :: ds.flatMap serializeUltrasonicData
  | buzzer d => serializeBuzzerData d
  | led d => serializeLedData d
  | alert intervalMs => serializeEmerAlertData intervalMs
  | motor d => serializeMotorControllerData d

end Record

/-- The range of a signed type of `size` bytes. -/
def Fits (size : ℕ) (z : ℤ) : Prop := -(256 ^ size : ℤ) ≤ 2 * z ∧ 2 * z < 256 ^ size

/-- The numbers of the motors' data have four bytes. -/
structure FitsMotor (d : MotorControllerData) : Prop where
  x : Fits 4 d.x
  y : Fits 4 d.y
  motorChASpeed : Fits 4 d.motorChASpeed
  motorChBSpeed : Fits 4 d.motorChBSpeed

/-- The numbers of a record fit their types, and its count fits a byte. -/
def Record.Representable : Record → Prop
  | pr _ | tof _ | led _ => True
  | ult ds => ds.length < 256
  | buzzer d => Fits 4 d.frequency
  | alert intervalMs => Fits 8 intervalMs
  | motor d => FitsMotor d

/-! ### Reading one number -/

theorem ofBytes_toBytes_of_lt {k n : ℕ} (h : n < 256 ^ k) : ofBytes (toBytes k n) = n := by
  rw [ofBytes_toBytes, Nat.mod_eq_of_lt h]

theorem ofNat_ofBytes_16 (v : UInt16) : UInt16.ofNat (ofBytes (toBytes 2 v.toNat)) = v := by
  rw [ofBytes_toBytes_of_lt v.toNat_lt, UInt16.ofNat_toNat]

theorem ofNat_ofBytes_32 (v : UInt32) : UInt32.ofNat (ofBytes (toBytes 4 v.toNat)) = v := by
  rw [ofBytes_toBytes_of_lt v.toNat_lt, UInt32.ofNat_toNat]

/-- The two halves of a time make the time. -/
theorem ofNat_ofBytes_time (t : UInt64) : UInt64.ofNat (ofBytes (serializeTime t)) = t := by
  have hlt := t.toNat_lt
  have hhigh : (t >>> 32).toUInt32.toNat = t.toNat / 2 ^ 32 := by
    rw [UInt64.toNat_toUInt32, UInt64.toNat_shiftRight]
    change t.toNat >>> 32 % 2 ^ 32 = _
    rw [Nat.shiftRight_eq_div_pow]
    omega
  have hlow : (t &&& 0xFFFFFFFF).toUInt32.toNat = t.toNat % 2 ^ 32 := by
    rw [UInt64.toNat_toUInt32, UInt64.toNat_and,
      show (0xFFFFFFFF : UInt64).toNat = 2 ^ 32 - 1 from rfl, Nat.and_two_pow_sub_one_eq_mod]
    omega
  have hvalue : ofBytes (serializeTime t) = t.toNat := by
    rw [serializeTime, ofBytes_append, hhigh, hlow, ofBytes_toBytes, ofBytes_toBytes,
      length_toBytes]
    omega
  rw [hvalue, UInt64.ofNat_toNat]

theorem ofInt_ofIntBytes (v : Int32) : Int32.ofInt (ofIntBytes (toIntBytes 4 v.toInt)) = v := by
  have hlo := v.le_toInt
  have hhi := v.toInt_lt
  rw [ofIntBytes_toIntBytes (by omega) (by omega), Int32.ofInt_toInt]

/-! ### `on_message` reads what was serialised -/

theorem length_serializeTime (t : UInt64) : (serializeTime t).length = 8 := by
  rw [serializeTime, List.length_append, length_toBytes, length_toBytes]

theorem length_serializeUltrasonicData (d : UltrasonicData) :
    (serializeUltrasonicData d).length = 16 := by
  rw [serializeUltrasonicData, List.length_append, List.length_append, length_toIntBytes,
    length_toIntBytes, length_serializeTime]

theorem ofNat_ofBytes_8 (b : UInt8) : UInt8.ofNat (ofBytes [b]) = b := by
  have hvalue : ofBytes [b] = b.toNat := by
    rw [← List.nil_append [b], ofBytes_concat, ofBytes, List.foldl_nil, Nat.zero_mul,
      Nat.zero_add]
  rw [hvalue, UInt8.ofNat_toNat]

/-- The byte of a truth value is zero or not, as it should be. -/
theorem ofBytes_ite_ne_zero (isOn : Bool) :
    decide (ofBytes [if isOn then (0x01 : UInt8) else 0x00] ≠ 0) = isOn := by
  cases isOn <;> decide

theorem onMessage_serialize_pr (d : PRData) :
    onMessage 0x0100 0x0101 (serializePRData d) = some (.pr d) := by
  obtain ⟨val, receivedTimeUs⟩ := d
  have hval : ((serializePRData ⟨val, receivedTimeUs⟩).drop 0).take 4 = toBytes 4 val.toNat := rfl
  have htime : ((serializePRData ⟨val, receivedTimeUs⟩).drop 4).take 8 =
      serializeTime receivedTimeUs := rfl
  have hlen : 12 ≤ (serializePRData ⟨val, receivedTimeUs⟩).length := Nat.le_refl 12
  rw [onMessage, if_pos rfl, if_pos rfl, if_pos hlen, getValueFromPayload_eq,
    getValueFromPayload_eq, hval, htime, ofNat_ofBytes_32, ofNat_ofBytes_time]

theorem onMessage_serialize_tof (d : ToFData) :
    onMessage 0x0100 0x0102 (serializeToFData d) = some (.tof d) := by
  have hid : ((serializeToFData d).drop 0).take 1 = [d.id] := rfl
  have hsystem : ((serializeToFData d).drop 1).take 4 = toBytes 4 d.systemTimeMs.toNat := rfl
  have hdistance : ((serializeToFData d).drop 5).take 4 = toBytes 4 d.distanceM.toNat := rfl
  have hstatus : ((serializeToFData d).drop 9).take 1 = [d.distanceStatus] := rfl
  have hstrength : ((serializeToFData d).drop 10).take 2 = toBytes 2 d.signalStrength.toNat := rfl
  have htime : ((serializeToFData d).drop 12).take 8 = serializeTime d.receivedTimeUs := rfl
  have hlen : 20 ≤ (serializeToFData d).length := Nat.le_refl 20
  rw [onMessage, if_pos rfl, if_neg (by decide), if_pos rfl, if_pos hlen]
  simp only [getValueFromPayload_eq, hid, hsystem, hdistance, hstatus, hstrength, htime,
    ofNat_ofBytes_8, ofNat_ofBytes_16, ofNat_ofBytes_32, ofNat_ofBytes_time]

/-- The loop over the sensors reads one measurement after another. -/
theorem ultrasonics_flatMap (ds : List UltrasonicData) (pre : List UInt8) :
    ultrasonics (pre ++ ds.flatMap serializeUltrasonicData) ds.length pre.length = ds := by
  induction ds generalizing pre with
  | nil => rfl
  | cons d ds ih =>
    obtain ⟨rest, hrest⟩ : ∃ rest, rest = ds.flatMap serializeUltrasonicData := ⟨_, rfl⟩
    have hdrop : ∀ k, (pre ++ (serializeUltrasonicData d ++ rest)).drop (pre.length + k) =
        (serializeUltrasonicData d ++ rest).drop k := fun k => List.drop_length_add_append k
    have hraw : ((serializeUltrasonicData d ++ rest).drop 0).take 4 =
        toIntBytes 4 d.distRawMm.toInt := rfl
    have hfilt : ((serializeUltrasonicData d ++ rest).drop 4).take 4 =
        toIntBytes 4 d.distFiltMm.toInt := rfl
    have htime : ((serializeUltrasonicData d ++ rest).drop 8).take 8 =
        serializeTime d.receivedTimeUs := rfl
    have hlen : (pre ++ (serializeUltrasonicData d ++ rest)).length =
        pre.length + 16 + rest.length := by
      rw [List.length_append, List.length_append, length_serializeUltrasonicData]
      omega
    have hnext := ih (pre ++ serializeUltrasonicData d)
    rw [List.length_append, length_serializeUltrasonicData, List.append_assoc, ← hrest] at hnext
    rw [List.flatMap_cons, ← hrest, List.length_cons, ultrasonics,
      if_pos (by omega), hnext, getIntFromPayload_eq (by omega), getIntFromPayload_eq (by omega),
      getValueFromPayload_eq, hdrop, hdrop, ← Nat.add_zero pre.length, hdrop, hraw, hfilt, htime,
      ofInt_ofIntBytes, ofInt_ofIntBytes, ofNat_ofBytes_time]

theorem onMessage_serialize_ult {ds : List UltrasonicData} (h : ds.length < 256) :
    onMessage 0x0100 0x0103 (UInt8.ofNat ds.length :: ds.flatMap serializeUltrasonicData) =
      some (.ult ds) := by
  have hcount : getValueFromPayload 1
      (UInt8.ofNat ds.length :: ds.flatMap serializeUltrasonicData) 0 = ds.length := by
    rw [getValueFromPayload_eq, List.drop_zero, List.take_succ_cons, List.take_zero,
      ← List.nil_append [_], ofBytes_concat, UInt8.toNat_ofNat_of_lt' h, ofBytes, List.foldl_nil,
      Nat.zero_mul, Nat.zero_add]
  rw [onMessage, if_pos rfl, if_neg (by decide), if_neg (by decide), if_pos rfl,
    if_pos (List.length_pos_of_ne_nil (List.cons_ne_nil _ _)), hcount]
  exact congrArg (fun ds => some (Record.ult ds)) (ultrasonics_flatMap ds [UInt8.ofNat ds.length])

theorem onMessage_serialize_buzzer {d : BuzzerData} (h : Fits 4 d.frequency) :
    onMessage 0x0200 0x0201 (serializeBuzzerData d) = some (.buzzer d) := by
  have hison : ((serializeBuzzerData d).drop 0).take 1 = [if d.isOn then 0x01 else 0x00] := rfl
  have hfrequency : ((serializeBuzzerData d).drop 1).take 4 = toIntBytes 4 d.frequency := rfl
  have hlen : 5 ≤ (serializeBuzzerData d).length := Nat.le_refl 5
  rw [onMessage, if_neg (by decide), if_pos rfl, if_pos rfl, if_pos hlen,
    getValueFromPayload_eq, getIntFromPayload_eq hlen, hison, hfrequency, ofBytes_ite_ne_zero,
    ofIntBytes_toIntBytes h.1 h.2]

theorem onMessage_serialize_led (d : LedData) :
    onMessage 0x0200 0x0202 (serializeLedData d) = some (.led d) := by
  have hside : ((serializeLedData d).drop 0).take 1 = [d.side] := rfl
  have hison : ((serializeLedData d).drop 1).take 1 = [if d.isOn then 0x01 else 0x00] := rfl
  have hlen : 2 ≤ (serializeLedData d).length := Nat.le_refl 2
  rw [onMessage, if_neg (by decide), if_pos rfl, if_neg (by decide), if_pos rfl, if_pos hlen,
    getValueFromPayload_eq, getValueFromPayload_eq, hside, hison, ofNat_ofBytes_8,
    ofBytes_ite_ne_zero]

theorem onMessage_serialize_alert {intervalMs : ℤ} (h : Fits 8 intervalMs) :
    onMessage 0x0300 0x0301 (serializeEmerAlertData intervalMs) = some (.alert intervalMs) := by
  have hinterval : ((serializeEmerAlertData intervalMs).drop 0).take 8 =
      toIntBytes 8 intervalMs := rfl
  have hlen : 8 ≤ (serializeEmerAlertData intervalMs).length := Nat.le_refl 8
  rw [onMessage, if_neg (by decide), if_neg (by decide), if_pos rfl, if_pos rfl, if_pos hlen,
    getIntFromPayload_eq hlen, hinterval, ofIntBytes_toIntBytes h.1 h.2]

theorem onMessage_serialize_motor {d : MotorControllerData} (h : FitsMotor d) :
    onMessage 0x0300 0x0302 (serializeMotorControllerData d) = some (.motor d) := by
  have hx : ((serializeMotorControllerData d).drop 0).take 4 = toIntBytes 4 d.x := rfl
  have hy : ((serializeMotorControllerData d).drop 4).take 4 = toIntBytes 4 d.y := rfl
  have ha : ((serializeMotorControllerData d).drop 8).take 4 = toIntBytes 4 d.motorChASpeed := rfl
  have hb : ((serializeMotorControllerData d).drop 12).take 4 = toIntBytes 4 d.motorChBSpeed := rfl
  have hlen : (serializeMotorControllerData d).length = 16 := rfl
  rw [onMessage, if_neg (by decide), if_neg (by decide), if_pos rfl, if_neg (by decide),
    if_pos rfl, if_pos (by omega), getIntFromPayload_eq (by omega),
    getIntFromPayload_eq (by omega), getIntFromPayload_eq (by omega),
    getIntFromPayload_eq (by omega), hx, hy, ha, hb, ofIntBytes_toIntBytes h.x.1 h.x.2,
    ofIntBytes_toIntBytes h.y.1 h.y.2,
    ofIntBytes_toIntBytes h.motorChASpeed.1 h.motorChASpeed.2,
    ofIntBytes_toIntBytes h.motorChBSpeed.1 h.motorChBSpeed.2]

/-- **What the ECU serialises, the client reads back.** -/
theorem onMessage_serialize {r : Record} (h : r.Representable) :
    onMessage r.method.serviceId r.method.methodId r.serialize = some r := by
  cases r with
  | pr d => exact onMessage_serialize_pr d
  | tof d => exact onMessage_serialize_tof d
  | ult ds => exact onMessage_serialize_ult h
  | buzzer d => exact onMessage_serialize_buzzer h
  | led d => exact onMessage_serialize_led d
  | alert intervalMs => exact onMessage_serialize_alert h
  | motor d => exact onMessage_serialize_motor h

/-- The bytes of a record tell which record of its method it is. -/
theorem serialize_injective {r r' : Record} (hr : r.Representable) (hr' : r'.Representable)
    (hmethod : r.method = r'.method) (h : r.serialize = r'.serialize) : r = r' := by
  have hread := onMessage_serialize hr
  rw [h, hmethod, onMessage_serialize hr'] at hread
  exact (Option.some.inj hread).symm

end Client

end VehicleStack
