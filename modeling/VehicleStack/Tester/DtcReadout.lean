import VehicleStack.Lib.Run
import VehicleStack.Tester.Read

/-!
# What the tester reads of the trouble codes

Trouble codes are reported by the code that watches the sensors and cleared by the
program or by a request, in one frame or in several. Whatever came before,
`read_dtc` shows the codes reported since the last clear, without repetitions, in the
order they first came and up to sixteen of them, each with its status byte
(`VehicleStack.Tester.readDtc_after`). The store answers for the codes
(`VehicleStack.Ecu.DtcStore.map_dtcCode_dtcReport`), the transport and the decoder for
the way to the dashboard (`VehicleStack.Tester.readDtc_eq`).
-/

namespace VehicleStack

namespace Tester

open Ecu

/-! ### What happens to the store -/

/-- What is done to the trouble codes between two reads. -/
inductive StoreEvent where
  | report (code : ℕ)
  | clear
  /-- A request in one frame arrives. -/
  | frame (f : Frame)
  /-- A request that came in several frames is complete. -/
  | completedPdu (uds : List UInt8)

namespace StoreEvent

/-- Codes have three bytes, and the requests are requests to clear. -/
def Admissible : StoreEvent → Prop
  | report code => code < 2 ^ 24
  | clear => True
  | frame f => f.IsSingle ∧ f.data.get 1 = 0x14
  | completedPdu uds => uds.head? = some 0x14

instance : DecidablePred Admissible
  | report code => inferInstanceAs (Decidable (code < 2 ^ 24))
  | clear => inferInstanceAs (Decidable True)
  | frame f => inferInstanceAs (Decidable (f.IsSingle ∧ f.data.get 1 = 0x14))
  | completedPdu uds => inferInstanceAs (Decidable (uds.head? = some 0x14))

/-- The ECU after an event. -/
def step (s : EcuState) : StoreEvent → Option EcuState
  | report code => some { s with diag := { s.diag with dtcs := s.diag.dtcs.dtcReport code } }
  | clear => some { s with diag := { s.diag with dtcs := s.diag.dtcs.dtcClear } }
  | frame f => s.step f
  | completedPdu uds => some { s with diag := (s.diag.udsDispatchCompletedPdu uds).1 }

/-- The codes reported since the last clear, with one more event. -/
def record (codes : List ℕ) : StoreEvent → List ℕ
  | report code => codes ++ [code]
  | _ => []

end StoreEvent

/-- The codes reported since the last clear. -/
def sinceClear (events : List StoreEvent) : List ℕ := events.foldl StoreEvent.record []

/-- The store holds the codes reported since the last clear. -/
structure Records (codes : List ℕ) (s : EcuState) : Prop where
  stored : s.diag.dtcs.entries.map DtcEntry.dtcCode = firstDistinct maxDtcCount codes
  three_bytes : ∀ code ∈ codes, code < 2 ^ 24

/-- An empty store holds no codes. -/
theorem records_nil {s : EcuState} (h : s.diag.dtcs = {}) : Records [] s := by
  constructor
  · rw [h]
    rfl
  · rintro code ⟨⟩

/-- A request to clear in one frame clears the store. -/
theorem step_clearFrame (s : EcuState) {f : Frame} (hsingle : f.IsSingle)
    (hsid : f.data.get 1 = 0x14) :
    s.step f = some { s with diag := { s.diag with dtcs := {} } } := by
  rw [EcuState.step, EcuState.canRxIsrHandler_of_isSingle s hsingle,
    EcuState.singleFrame_clear s f.len hsid]
  rfl

/-- So does one that came in several frames. -/
theorem udsDispatchCompletedPdu_clear (d : Diagnostics) {uds : List UInt8}
    (h : uds.head? = some 0x14) : (d.udsDispatchCompletedPdu uds).1 = { d with dtcs := {} } := by
  obtain ⟨rest, rfl⟩ := List.head?_eq_some_iff.mp h
  rfl

/-- **One event**, in any state, takes the store on like its history. -/
theorem Records.step {codes : List ℕ} {s : EcuState} (h : Records codes s) {e : StoreEvent}
    (he : e.Admissible) : ∃ s', StoreEvent.step s e = some s' ∧ Records (e.record codes) s' := by
  cases e with
  | report code =>
    refine ⟨_, rfl, DtcStore.map_dtcCode_dtcReport h.stored code, ?_⟩
    intro c hc
    rcases List.mem_append.mp hc with hold | hnew
    · exact h.three_bytes c hold
    · exact List.mem_singleton.mp hnew ▸ he
  | clear => exact ⟨_, rfl, records_nil rfl⟩
  | frame f => exact ⟨_, step_clearFrame s he.1 he.2, records_nil rfl⟩
  | completedPdu uds =>
    refine ⟨_, rfl, records_nil ?_⟩
    rw [udsDispatchCompletedPdu_clear s.diag he]

/-- **A run of events** succeeds and takes the store on like its history. -/
theorem records_run {events : List StoreEvent} (hevents : ∀ e ∈ events, e.Admissible)
    {codes : List ℕ} {s : EcuState} (h : Records codes s) :
    ∃ s', Run.run StoreEvent.step s events = some s' ∧
      Records (events.foldl StoreEvent.record codes) s' := by
  induction events generalizing codes s with
  | nil => exact ⟨s, rfl, h⟩
  | cons e events ih =>
    obtain ⟨t, hstep, ht⟩ := h.step (hevents e List.mem_cons_self)
    obtain ⟨s', hrun, hs'⟩ := ih (fun e he => hevents e (List.mem_cons_of_mem _ he)) ht
    exact ⟨s', Run.run_cons_eq_some.mpr ⟨t, hstep, hrun⟩, hs'⟩

/-! ### The way to the dashboard -/

theorem ofNat_and_255 (n : ℕ) : UInt8.ofNat (n &&& 0xFF) = UInt8.ofNat n := by
  refine UInt8.toNat_inj.mp ?_
  rw [UInt8.toNat_ofNat', UInt8.toNat_ofNat', Nat.and_two_pow_sub_one_eq_mod n 8]
  exact Nat.mod_mod n 256

/-- The three bytes of a code. -/
theorem bytes_eq (e : DtcEntry) : e.bytes = BigEndian.toBytes 3 e.dtcCode ++ [e.status] := by
  rw [DtcEntry.bytes, ofNat_and_255, ofNat_and_255, ofNat_and_255, Nat.shiftRight_eq_div_pow,
    Nat.shiftRight_eq_div_pow, show 2 ^ 16 = 256 * 256 from rfl, ← Nat.div_div_eq_div_mul]
  rfl

/-- **The entries of a response are read back.** -/
theorem decodeDtcs_flatMap {es : List DtcEntry} (h : ∀ e ∈ es, e.dtcCode < 2 ^ 24) :
    decodeDtcs (es.flatMap DtcEntry.bytes) = es.map fun e => (e.dtcCode, e.status) := by
  induction es with
  | nil => rfl
  | cons e es ih =>
    have hcode : BigEndian.ofBytes (BigEndian.toBytes 3 e.dtcCode) = e.dtcCode := by
      rw [BigEndian.ofBytes_toBytes]
      exact Nat.mod_eq_of_lt (h e List.mem_cons_self)
    obtain ⟨a, b, c, habc⟩ : ∃ a b c, BigEndian.toBytes 3 e.dtcCode = [a, b, c] := ⟨_, _, _, rfl⟩
    rw [List.flatMap_cons, List.map_cons, ← ih fun e he => h e (List.mem_cons_of_mem _ he),
      bytes_eq, habc]
    rw [habc] at hcode
    change (BigEndian.ofBytes [a, b, c], e.status) :: _ = _
    rw [hcode]
    rfl

/-- **The response with all trouble codes is shown.** -/
theorem display_response {store : DtcStore} (h : ∀ e ∈ store.entries, e.dtcCode < 2 ^ 24) :
    display 0x19 0 store.response =
      .dtcs (store.entries.map fun e => (e.dtcCode, e.status)) := by
  have hdisplay : display 0x19 0 store.response =
      displayDtcs (0xFF :: store.entries.flatMap DtcEntry.bytes) := rfl
  rw [hdisplay, displayDtcs, ← decodeDtcs_flatMap h]
  cases hentries : store.entries with
  | nil => rfl
  | cons e es => rfl

/-- **What `read_dtc` shows** are the entries of the store. -/
theorem readDtc_eq {s : EcuState} (h : ∀ e ∈ s.diag.dtcs.entries, e.dtcCode < 2 ^ 24) :
    readDtc s = some (.dtcs (s.diag.dtcs.entries.map fun e => (e.dtcCode, e.status))) := by
  have hsingle : readDtcRequest.frame.IsSingle := by decide
  rw [readDtc, EcuState.canRxIsrHandler_of_isSingle s hsingle,
    EcuState.singleFrame_readDtc s _ (by decide) (by decide), Option.bind_some]
  have hshown := parseUdsResponse_canTpSend 0x19 0 s.diag.dtcs.length_response_le rfl
  rw [hshown, display_response h]

/-- **Readout of the trouble codes.** After any sequence of reports and clears from an
empty store, `read_dtc` shows every entry of the store with its status byte, and these
are the first sixteen distinct codes reported since the last clear, or all of them if
there are fewer, in the order they were first reported and without repetitions. -/
theorem readDtc_after {s₀ : EcuState} {events : List StoreEvent} (hempty : s₀.diag.dtcs = {})
    (hevents : ∀ e ∈ events, e.Admissible) :
    ∃ s, Run.run StoreEvent.step s₀ events = some s ∧
      readDtc s = some (.dtcs (s.diag.dtcs.entries.map fun e => (e.dtcCode, e.status))) ∧
      s.diag.dtcs.entries.map DtcEntry.dtcCode = firstDistinct maxDtcCount (sinceClear events) ∧
      (s.diag.dtcs.entries.map DtcEntry.dtcCode).Nodup := by
  obtain ⟨s, hrun, hrecords⟩ := records_run hevents (records_nil hempty)
  have hstored := hrecords.stored
  refine ⟨s, hrun, readDtc_eq ?_, hstored, ?_⟩
  · intro e he
    have hcode : e.dtcCode ∈ firstDistinct maxDtcCount (sinceClear events) :=
      hstored ▸ List.mem_map_of_mem he
    exact hrecords.three_bytes _ (List.mem_eraseDups.mp (List.mem_of_mem_take hcode))
  · rw [hstored]
    exact nodup_firstDistinct _ _

/-- Two codes after a clear, one of them twice. -/
theorem readDtc_after_four : ∃ s, Run.run StoreEvent.step EcuState.powerOn
      [.report 0x010100, .frame (sendMsg reqId [0x02, 0x14, 0xFF]), .report 0x010201,
        .report 0x010100, .report 0x010201] = some s ∧
    s.diag.dtcs.entries.map DtcEntry.dtcCode = [0x010201, 0x010100] ∧
    readDtc s = some (.dtcs (s.diag.dtcs.entries.map fun e => (e.dtcCode, e.status))) := by
  obtain ⟨s, hrun, hread, hcodes, -⟩ := @readDtc_after EcuState.powerOn
    [.report 0x010100, .frame (sendMsg reqId [0x02, 0x14, 0xFF]), .report 0x010201,
      .report 0x010100, .report 0x010201] rfl (by decide)
  exact ⟨s, hrun, hcodes.trans (by decide), hread⟩

end Tester

end VehicleStack
