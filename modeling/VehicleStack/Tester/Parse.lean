import VehicleStack.Lib.BigEndian
import VehicleStack.Ecu.TpSend
import VehicleStack.Tester.Write

/-!
# What the tester makes of a response

`parse_uds_response` of `can_dash.py`: a loop over the frames received puts the
payload of a response together, and the rest of the function takes the payload
apart. The loop is a run over the frames (`VehicleStack.Tester.reassemble`); it has
no result where Python would raise an `IndexError`, for a frame too short for its
type. Negative responses are single frames that do not begin with the positive
response's identifier, so the loop passes over them.

The main result is `VehicleStack.Tester.reassemble_canTpSend`: whatever the ECU
sends with `Can_TpSend`, up to the 4095 bytes a first frame can announce, comes out
of the loop byte for byte and without an error, with flow control frames anywhere
among its frames.
-/

namespace VehicleStack

namespace Tester

open Ecu

/-! ### The loop over the frames -/

/-- The variables of the loop, and the errors it logs: the number expected and the
number received. -/
structure Reassembly where
  payload : List UInt8 := []
  totalLen : ℕ := 0
  snExpected : ℕ := 1
  gotFf : Bool := false
  seqErrs : List (ℕ × ℕ) := []
  deriving DecidableEq

namespace Reassembly

/-- A single frame, from its second byte on. -/
def singleFrame (posSid : UInt8) (r : Reassembly) (d0 : UInt8) : List UInt8 → Option Reassembly
  | [] => none
  | d1 :: data =>
    if d1 = posSid then
      some { r with payload := r.payload ++ (d1 :: data).take (d0 &&& 0x0F).toNat }
    else some r

/-- A first frame, from its second byte on. -/
def firstFrame (r : Reassembly) (d0 : UInt8) : List UInt8 → Option Reassembly
  | [] => none
  | d1 :: data =>
    some { r with
      totalLen := (d0 &&& 0x0F).toNat <<< 8 ||| d1.toNat
      payload := r.payload ++ data.take 6
      snExpected := 1
      gotFf := true }

/-- A consecutive frame of a transfer that has begun. -/
def consecutiveFrame (r : Reassembly) (d0 : UInt8) (data : List UInt8) : Reassembly :=
  let sn := (d0 &&& 0x0F).toNat
  let payload := r.payload ++ data.take (min 7 (r.totalLen - r.payload.length))
  { r with
    seqErrs :=
      if sn ≠ r.snExpected &&& 0x0F then r.seqErrs ++ [(r.snExpected, sn)] else r.seqErrs
    snExpected := (r.snExpected + 1) % 16
    payload := payload
    gotFf := if r.totalLen ≤ payload.length then false else r.gotFf }

/-- One round of the loop. -/
def step (posSid : UInt8) (r : Reassembly) (m : Message) : Option Reassembly :=
  match m.data with
  | [] => none
  | d0 :: data =>
    let pciType := d0 >>> 4
    if pciType = 3 then some r
    else if pciType = 0 then r.singleFrame posSid d0 data
    else if pciType = 1 then r.firstFrame d0 data
    else if pciType = 2 ∧ r.gotFf = true then some (r.consecutiveFrame d0 data)
    else some r

end Reassembly

/-- `pos_sid`. -/
def posSid (reqSid : ℕ) : UInt8 := UInt8.ofNat ((reqSid + 0x40) &&& 0xFF)

/-- The loop of `parse_uds_response`. -/
def reassemble (reqSid : ℕ) (frames : List Message) : Option Reassembly :=
  Run.run (Reassembly.step (posSid reqSid)) {} frames

/-! ### Taking the payload apart -/

/-- What a response changes on the dashboard. -/
inductive Display where
  /-- Nothing but a line in the log. -/
  | nothing
  | ecuInfo (vin hw sw sn supplier : String)
  | sensor (did val : ℕ) (statusChar : Char)
  | dtcs (table : List (ℕ × UInt8))
  deriving DecidableEq

/-- `safe_decode`: up to the first zero byte, without what is not ASCII. -/
def safeDecode (segment : List UInt8) : String :=
  String.ofList (((segment.takeWhile (· ≠ 0)).filter (· < 0x80)).map fun b => Char.ofNat b.toNat)

/-- A slice of a byte string. -/
def slice (data : List UInt8) (start stop : ℕ) : List UInt8 := (data.take stop).drop start

/-- The loop over the entries of a trouble code response, four bytes each. -/
def decodeDtcs : List UInt8 → List (ℕ × UInt8)
  | a :: b :: c :: status :: rest => (BigEndian.ofBytes [a, b, c], status) :: decodeDtcs rest
  | _ => []

/-- The response to a read of `did`, from its fourth byte on. -/
def displayRead (did : ℕ) (data : List UInt8) : Display :=
  if did = 0x0005 then
    if data.length < 100 then .nothing
    else .ecuInfo (safeDecode (slice data 0 18)) (safeDecode (slice data 20 40))
      (safeDecode (slice data 40 60)) (safeDecode (slice data 60 80))
      (safeDecode (slice data 80 100))
  else if did = 0x0001 ∨ did = 0x0002 ∨ did = 0x0003 ∨ did = 0x0004 then
    match data with
    | a :: b :: c :: _ =>
      .sensor did (BigEndian.ofBytes [a, b])
        (if 32 ≤ c ∧ c ≤ 126 then Char.ofNat c.toNat else '?')
    | _ => .nothing
  else .nothing

/-- The response to a read of the trouble codes, from its third byte on. -/
def displayDtcs (data : List UInt8) : Display :=
  if data.length ≤ 1 then .dtcs []
  else if 5 ≤ data.length then .dtcs (decodeDtcs (data.drop 1))
  else .nothing

/-- `parse_uds_response` after the loop. -/
def display (reqSid did : ℕ) (payload : List UInt8) : Display :=
  if payload.head? ≠ some (posSid reqSid) then .nothing
  else if reqSid = 0x22 then
    if payload.length < 3 then .nothing else displayRead did (payload.drop 3)
  else if reqSid = 0x19 then
    if payload.length < 2 then .nothing else displayDtcs (payload.drop 2)
  else .nothing

/-- `parse_uds_response`. -/
def parseUdsResponse (reqSid did : ℕ) (frames : List Message) : Option Display :=
  (reassemble reqSid frames).map fun r => display reqSid did r.payload

/-! ### Flow control among the frames -/

/-- A flow control frame. -/
def Message.IsFlowControl (m : Message) : Prop := m.data ≠ [] ∧ m.data.headD 0 >>> 4 = 3

instance : DecidablePred Message.IsFlowControl := fun m =>
  inferInstanceAs (Decidable (m.data ≠ [] ∧ _))

theorem step_flowControl {m : Message} (h : m.IsFlowControl) (sid : UInt8) (r : Reassembly) :
    r.step sid m = some r := by
  obtain ⟨hne, hpci⟩ := h
  obtain ⟨d0, data, hdata⟩ := List.exists_cons_of_ne_nil hne
  rw [hdata] at hpci
  rw [Reassembly.step, hdata]
  exact if_pos hpci

/-! ### One frame of each other type -/

theorem step_singleFrame {m : Message} {d0 : UInt8} {data : List UInt8} (h : m.data = d0 :: data)
    (hpci : d0 >>> 4 = 0) (sid : UInt8) (r : Reassembly) :
    r.step sid m = r.singleFrame sid d0 data := by
  rw [Reassembly.step, h]
  change (if d0 >>> 4 = 3 then _ else _) = _
  rw [hpci, if_neg (by decide), if_pos rfl]

theorem step_firstFrame {m : Message} {d0 : UInt8} {data : List UInt8} (h : m.data = d0 :: data)
    (hpci : d0 >>> 4 = 1) (sid : UInt8) (r : Reassembly) :
    r.step sid m = r.firstFrame d0 data := by
  rw [Reassembly.step, h]
  change (if d0 >>> 4 = 3 then _ else _) = _
  rw [hpci, if_neg (by decide), if_neg (by decide), if_pos rfl]

theorem step_consecutiveFrame {m : Message} {d0 : UInt8} {data : List UInt8}
    (h : m.data = d0 :: data) (hpci : d0 >>> 4 = 2) (sid : UInt8) {r : Reassembly}
    (hff : r.gotFf = true) : r.step sid m = some (r.consecutiveFrame d0 data) := by
  rw [Reassembly.step, h]
  change (if d0 >>> 4 = 3 then _ else _) = _
  rw [hpci, if_neg (by decide), if_neg (by decide), if_neg (by decide), if_pos ⟨rfl, hff⟩]

/-! ### The frames of the ECU -/

/-- The tester receives all eight bytes of a frame of the ECU. -/
theorem data_ofFrame_sendMsg {id : ℕ} {b : UInt8} {bytes : List UInt8} (h : bytes.length ≤ 7) :
    (Message.ofFrame (sendMsg id (b :: bytes))).data =
      b :: (bytes ++ List.replicate (7 - bytes.length) 0) := by
  have hlen : (b :: bytes).length ≤ 8 := by
    rw [List.length_cons]
    omega
  rw [Message.ofFrame, sendMsg_len, List.take_of_length_le (Buffer.length_cells _).le,
    sendMsg_cells hlen, List.length_cons, List.cons_append, Nat.add_sub_add_right 7 1]

/-- The number of a consecutive frame and its type share a byte. -/
theorem consecutive_byte (k : ℕ) :
    (0x20 ||| (dueSn k &&& 0x0F)) >>> 4 = 2 ∧
      ((0x20 ||| (dueSn k &&& 0x0F)) &&& 0x0F).toNat = (k + 1) % 16 := by
  have hround : ∀ r : Fin 16, (0x20 ||| (UInt8.ofNat r.val &&& 0x0F)) >>> 4 = 2 ∧
      ((0x20 ||| (UInt8.ofNat r.val &&& 0x0F)) &&& 0x0F).toNat = r.val := by decide
  exact hround ⟨(k + 1) % 16, Nat.mod_lt _ (by decide)⟩

/-- **A consecutive frame** adds what it carries of the response. -/
theorem step_consecutive (sid : UInt8) (id : ℕ) {r : Reassembly} {k : ℕ} {rest : List UInt8}
    (hff : r.gotFf = true) (hsn : r.snExpected = (k + 1) % 16)
    (htotal : r.totalLen = r.payload.length + rest.length) :
    r.step sid (Message.ofFrame (sendMsg id ((0x20 ||| (dueSn k &&& 0x0F)) :: rest.take 7))) =
      some { r with
        payload := r.payload ++ rest.take 7
        snExpected := (k + 2) % 16
        gotFf := decide (7 < rest.length) } := by
  obtain ⟨hpci, hnumber⟩ := consecutive_byte k
  have hcopy : (rest.take 7 ++ List.replicate (7 - (rest.take 7).length) 0).take
      (min 7 (r.totalLen - r.payload.length)) = rest.take 7 := by
    refine List.take_left' ?_
    rw [List.length_take, htotal, Nat.add_sub_cancel_left]
  have hmask : (k + 1) % 16 &&& 0x0F = (k + 1) % 16 := by
    rw [show (0x0F : ℕ) = 2 ^ 4 - 1 from rfl, Nat.and_two_pow_sub_one_eq_mod]
    exact Nat.mod_mod _ _
  have hdone : (if r.totalLen ≤ (r.payload ++ rest.take 7).length then false else r.gotFf) =
      decide (7 < rest.length) := by
    rw [hff, htotal, List.length_append, List.length_take]
    by_cases h : 7 < rest.length
    · rw [if_neg (by omega), decide_eq_true h]
    · rw [if_pos (by omega), decide_eq_false h]
  rw [step_consecutiveFrame (data_ofFrame_sendMsg (List.length_take_le 7 rest)) hpci sid hff,
    Reassembly.consecutiveFrame]
  simp only [hnumber, hsn, hmask, ne_eq, not_true, if_false, hcopy, hdone, Nat.mod_add_mod]

/-- **The consecutive frames of a response**, one after the other, complete it. -/
theorem run_consecutiveFrames (sid : UInt8) (id : ℕ) (rest : List UInt8) {r : Reassembly} {k : ℕ}
    (hff : r.gotFf = true) (hsn : r.snExpected = (k + 1) % 16)
    (htotal : r.totalLen = r.payload.length + rest.length) :
    ∃ r', Run.run (Reassembly.step sid) r
        ((consecutiveFrames id rest (dueSn k)).map Message.ofFrame) = some r' ∧
      r'.payload = r.payload ++ rest ∧ r'.seqErrs = r.seqErrs := by
  induction hn : rest.length using Nat.strong_induction_on generalizing rest r k with
  | _ n ih =>
    rw [consecutiveFrames]
    by_cases hrest : rest = []
    · rw [dif_pos hrest]
      exact ⟨r, rfl, by rw [hrest, List.append_nil], rfl⟩
    · have hpos := List.length_pos_of_ne_nil hrest
      have hstep := step_consecutive sid id hff hsn htotal
      rw [dif_neg hrest, List.map_cons, nextSn_dueSn]
      by_cases hlast : rest.length ≤ 7
      · -- the last frame
        have hnil : rest.drop 7 = [] := List.drop_eq_nil_of_le hlast
        refine ⟨{ r with
            payload := r.payload ++ rest.take 7
            snExpected := (k + 2) % 16
            gotFf := decide (7 < rest.length) },
          Run.run_cons_eq_some.mpr ⟨_, hstep, ?_⟩, ?_, rfl⟩
        · rw [hnil, consecutiveFrames, dif_pos rfl]
          rfl
        · rw [List.take_of_length_le hlast]
      · obtain ⟨r', hrun, hpayload, herrs⟩ := ih (rest.drop 7).length
          (by rw [List.length_drop]; omega) (rest.drop 7)
          (r := { r with
            payload := r.payload ++ rest.take 7
            snExpected := (k + 2) % 16
            gotFf := decide (7 < rest.length) }) (k := k + 1)
          (decide_eq_true (by omega)) rfl
          (by simp only [htotal, List.length_append, List.length_take, List.length_drop]; omega) rfl
        refine ⟨r', Run.run_cons_eq_some.mpr ⟨_, hstep, hrun⟩, ?_, herrs⟩
        rw [hpayload, List.append_assoc, List.take_append_drop]

/-- The length a first frame announces is read back. -/
theorem announced_byte {n : ℕ} (h : n ≤ 4095) :
    UInt8.ofNat (0x10 ||| ((n >>> 8) &&& 0x0F)) >>> 4 = 1 ∧
      (UInt8.ofNat (0x10 ||| ((n >>> 8) &&& 0x0F)) &&& 0x0F).toNat <<< 8 |||
        (UInt8.ofNat (n &&& 0xFF)).toNat = n := by
  have hround : ∀ r : Fin 16, UInt8.ofNat (0x10 ||| (r.val &&& 0x0F)) >>> 4 = 1 ∧
      (UInt8.ofNat (0x10 ||| (r.val &&& 0x0F)) &&& 0x0F).toNat = r.val := by decide
  have hupper : n >>> 8 = n / 256 := Nat.shiftRight_eq_div_pow n 8
  obtain ⟨hpci, hhigh⟩ := hround ⟨n >>> 8, by rw [hupper]; omega⟩
  have hlow : (UInt8.ofNat (n &&& 0xFF)).toNat = n % 256 := by
    rw [Nat.and_two_pow_sub_one_eq_mod n 8]
    exact UInt8.toNat_ofNat_of_lt' (Nat.mod_lt _ (by decide))
  refine ⟨hpci, ?_⟩
  rw [hhigh, hlow]
  change n >>> 8 <<< 8 ||| n % 256 = n
  rw [← Nat.shiftLeft_add_eq_or_of_lt (Nat.mod_lt n (by decide)), Nat.shiftLeft_eq, hupper]
  omega

/-- **What `Can_TpSend` sends is put together again**, without flow control frames. -/
theorem run_canTpSend {sid : UInt8} (id : ℕ) {pdu : List UInt8} (hhi : pdu.length ≤ 4095)
    (hsid : pdu.head? = some sid) :
    ∃ r, Run.run (Reassembly.step sid) {} ((canTpSend id pdu).map Message.ofFrame) = some r ∧
      r.payload = pdu ∧ r.seqErrs = [] := by
  obtain ⟨data, rfl⟩ : ∃ data, pdu = sid :: data := ⟨pdu.tail, (List.cons_head?_tail hsid).symm⟩
  rw [canTpSend]
  by_cases hshort : (sid :: data).length ≤ 7
  · -- one frame holds it
    have hsmall : ∀ r : Fin 8, UInt8.ofNat r.val >>> 4 = 0 ∧
        (UInt8.ofNat r.val &&& 0x0F).toNat = r.val := by decide
    obtain ⟨hpci, hlen⟩ := hsmall ⟨(sid :: data).length, by omega⟩
    simp only at hpci hlen
    have hcut : ((sid :: data) ++ List.replicate (7 - (sid :: data).length) 0).take
        (sid :: data).length = sid :: data := List.take_left' rfl
    rw [if_pos hshort]
    refine ⟨{ payload := sid :: data }, Run.run_cons_eq_some.mpr ⟨_, ?_, rfl⟩, rfl, rfl⟩
    rw [step_singleFrame (data_ofFrame_sendMsg hshort) hpci]
    change (if sid = sid then _ else _) = _
    rw [if_pos rfl, hlen]
    exact congrArg (fun p => some ({ payload := p } : Reassembly)) hcut
  · obtain ⟨hpci, htotal⟩ := announced_byte hhi
    have hsix : ((sid :: data).take 6).length = 6 := by
      rw [List.length_take]
      omega
    rw [if_neg hshort, List.map_cons]
    obtain ⟨r', hrun, hpayload, herrs⟩ := run_consecutiveFrames sid id
      ((sid :: data).drop 6) (k := 0)
      (r := { payload := (sid :: data).take 6, totalLen := (sid :: data).length, gotFf := true })
      rfl rfl (by simp only [hsix, List.length_drop]; omega)
    refine ⟨r', Run.run_cons_eq_some.mpr ⟨_, ?_, hrun⟩, ?_, herrs⟩
    · have hlen :
          (UInt8.ofNat ((sid :: data).length &&& 0xFF) :: (sid :: data).take 6).length ≤ 7 := by
        rw [List.length_cons, hsix]
      have hcut : ∀ pad : List UInt8, [] ++ ((sid :: data).take 6 ++ pad).take 6 =
          (sid :: data).take 6 := fun pad => List.take_left' hsix
      refine (step_firstFrame (data_ofFrame_sendMsg hlen) hpci sid {}).trans ?_
      rw [List.cons_append, Reassembly.firstFrame, htotal, hcut]
    · rw [hpayload, List.take_append_drop]

/-- **Round trip from the ECU to the tester.** Every response of up to 4095 bytes that
begins with the positive response's identifier comes out of `parse_uds_response` as
it went into `Can_TpSend`, with no number out of order and no padding, whatever flow
control frames stand among its frames. -/
theorem reassemble_canTpSend {reqSid id : ℕ} {pdu : List UInt8} {frames : List Message}
    (hhi : pdu.length ≤ 4095) (hsid : pdu.head? = some (posSid reqSid))
    (hframes : frames.filter (fun m => ¬ m.IsFlowControl) =
      (canTpSend id pdu).map Message.ofFrame) :
    ∃ r, reassemble reqSid frames = some r ∧ r.payload = pdu ∧ r.seqErrs = [] := by
  obtain ⟨r, hrun, hr⟩ := run_canTpSend id hhi hsid
  refine ⟨r, ?_, hr⟩
  rw [reassemble, ← Run.run_filter (fun m h r => step_flowControl (not_not.mp h) _ r), hframes]
  exact hrun

/-- A response of nine bytes, with a flow control frame between its two frames. -/
theorem reassemble_nine :
    ∃ r, reassemble 0x22 [Message.ofFrame (sendMsg resId [0x10, 9, 0x62, 0, 5, 1, 2, 3]),
        Message.ofFrame flowControl, Message.ofFrame (sendMsg resId [0x21, 4, 5, 6])] = some r ∧
      r.payload = [0x62, 0, 5, 1, 2, 3, 4, 5, 6] ∧ r.seqErrs = [] := by
  have hsent : canTpSend resId [0x62, 0, 5, 1, 2, 3, 4, 5, 6] =
      [sendMsg resId [0x10, 9, 0x62, 0, 5, 1, 2, 3], sendMsg resId [0x21, 4, 5, 6]] := by
    rw [canTpSend, if_neg (by decide), consecutiveFrames, dif_neg (by decide), consecutiveFrames,
      dif_pos (by decide)]
    rfl
  have hframes : [Message.ofFrame (sendMsg resId [0x10, 9, 0x62, 0, 5, 1, 2, 3]),
        Message.ofFrame flowControl, Message.ofFrame (sendMsg resId [0x21, 4, 5, 6])].filter
        (fun m => ¬ m.IsFlowControl) =
      (canTpSend resId [0x62, 0, 5, 1, 2, 3, 4, 5, 6]).map Message.ofFrame := by
    rw [hsent]
    decide
  exact reassemble_canTpSend (by decide) (by decide) hframes

end Tester

end VehicleStack
