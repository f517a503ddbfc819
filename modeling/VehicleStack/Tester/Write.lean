import VehicleStack.Ecu.IsoTp

/-!
# Writes from the diagnostic tester

`send_uds_tp_write` of `can_dash.py`: a first frame, a wait for the ECU's flow
control, and then consecutive frames of seven bytes, with another wait after every
block if the flow control asked for blocks. What the tester hears during its waits
is a parameter of the model, one list of messages for each wait; pauses between
frames and the log are left out.

An exchange (`VehicleStack.Tester.Exchange`) is one such write together with what
the bus made of it: how often each of its frames arrived. Frames that are dropped
arrive no times, frames that are repeated in place several times; the first frame
arrives, and the tester heard the ECU's flow control. The main result is
`VehicleStack.Tester.observe_exchanges`: over any sequence of exchanges the ECU
hands on exactly the requests of those that lost no frame. A lost frame cannot be
made up for by a later one that carries its number again, because a transfer has
no more consecutive frames than numbers to wait for.
-/

namespace VehicleStack

namespace Tester

open Ecu

/-- A `can.Message`. -/
structure Message where
  arbitrationId : ℕ
  data : List UInt8
  deriving DecidableEq

/-- The message as it arrives at the ECU, in an array of eight bytes. -/
def Message.frame (m : Message) : Frame where
  id := m.arbitrationId
  data := Buffer.ofList 8 0 m.data
  len := m.data.length

/-- A frame the ECU sends, as it arrives at the tester. -/
def Message.ofFrame (f : Frame) : Message where
  arbitrationId := f.id
  data := f.data.cells.take f.len

/-- `self.req_id`. -/
def reqId : ℕ := 0x7E0

/-- `self.res_id`. -/
def resId : ℕ := 0x7E8

/-- The flow control a wait ends with, if one comes. -/
def flowControl? (inbox : List Message) : Option Message :=
  inbox.find? fun m => m.arbitrationId = resId ∧ m.data.headD 0 >>> 4 = 0x3

/-! ### `send_uds_tp_write` -/

/-- `uds_data`. -/
def udsData (did : ℕ) (data : List UInt8) : List UInt8 :=
  [0x2E, UInt8.ofNat ((did >>> 8) &&& 0xFF), UInt8.ofNat (did &&& 0xFF)] ++ data

/-- The first frame. -/
def firstFrame (uds : List UInt8) : Message where
  arbitrationId := reqId
  data :=
    [UInt8.ofNat (0x10 ||| ((uds.length >>> 8) &&& 0x0F)), UInt8.ofNat (uds.length &&& 0xFF)] ++
      uds.take 6

/-- A consecutive frame, filled up with zeros. -/
def consecutiveFrame (sn : ℕ) (payload : List UInt8) : Message where
  arbitrationId := reqId
  data :=
    UInt8.ofNat (0x20 ||| (sn &&& 0x0F)) :: (payload ++ List.replicate (7 - payload.length) 0)

/-- The loop that sends the consecutive frames, `rest` being what is left of
`uds_data`. -/
def sendConsecutive (bs : ℕ) (rest : List UInt8) (sn blk : ℕ) (waits : List (List Message)) :
    List Message :=
  if hrest : rest = [] then []
  else
    consecutiveFrame sn (rest.take 7) ::
      if bs ≠ 0 ∧ bs ≤ blk + 1 ∧ rest.drop 7 ≠ [] then
        -- the block is full: nothing more goes out without another flow control
        if (flowControl? (waits.headD [])).isSome then
          sendConsecutive bs (rest.drop 7) ((sn + 1) % 16) 0 waits.tail
        else []
      else sendConsecutive bs (rest.drop 7) ((sn + 1) % 16) (blk + 1) waits
termination_by rest.length
decreasing_by all_goals
  have := List.length_pos_of_ne_nil hrest
  rw [List.length_drop]
  omega

/-- `send_uds_tp_write`: the messages sent. -/
def sendUdsTpWrite (did : ℕ) (data : List UInt8) (waits : List (List Message)) : List Message :=
  let uds := udsData did data
  firstFrame uds ::
    match flowControl? (waits.headD []) with
    | none => []
    | some fc =>
      if fc.data.headD 0 &&& 0x0F ≠ 0x0 then []
      else sendConsecutive (fc.data.getD 1 0).toNat (uds.drop 6) 1 0 waits.tail

/-! ### The frames as the ECU reads them -/

theorem frame_cells {m : Message} (h : m.data.length = 8) : m.frame.data.cells = m.data :=
  Buffer.ofList_cells h

theorem get_zero_of_cells {b : Buffer UInt8 8} {x : UInt8} {xs : List UInt8}
    (h : b.cells = x :: xs) : b.get 0 = x := by
  simp [Buffer.get, h]

theorem get_one_of_cells {b : Buffer UInt8 8} {x y : UInt8} {xs : List UInt8}
    (h : b.cells = x :: y :: xs) : b.get 1 = y := by
  simp [Buffer.get, h]

/-- **A first frame** announces the length of its request, which is what one byte
can say here, and carries its first six bytes. -/
theorem frame_firstFrame {uds : List UInt8} (hlo : 7 ≤ uds.length) (hhi : uds.length ≤ 251) :
    (firstFrame uds).frame.IsFirst ∧ announcedLen (firstFrame uds).frame.data = uds.length ∧
      (firstFrame uds).frame.data.cells.drop 2 = uds.take 6 := by
  have hupper : UInt8.ofNat (0x10 ||| ((uds.length >>> 8) &&& 0x0F)) = 0x10 := by
    rw [Nat.shiftRight_eq_div_pow, Nat.div_eq_of_lt (by omega)]
    rfl
  have hlower : (UInt8.ofNat (uds.length &&& 0xFF)).toNat = uds.length := by
    rw [Nat.and_two_pow_sub_one_eq_mod uds.length 8, Nat.mod_eq_of_lt (by omega),
      UInt8.toNat_ofNat_of_lt' (by change uds.length < 256; omega)]
  have hcells := frame_cells (m := firstFrame uds) (by
    simp only [firstFrame, List.length_append, List.length_take, List.length_cons,
      List.length_nil]
    omega)
  have hzero := get_zero_of_cells hcells
  have hone := get_one_of_cells hcells
  rw [hupper] at hzero
  refine ⟨⟨show 0x700 ≤ reqId by decide, by rw [pci, hzero]; rfl⟩, ?_, by rw [hcells]; rfl⟩
  rw [announcedLen, hzero, hone, hlower]
  exact Nat.zero_or _

/-- **A consecutive frame** carries the number it was given, and its payload. -/
theorem frame_consecutiveFrame {k : ℕ} {payload : List UInt8} (h : payload.length ≤ 7) :
    (consecutiveFrame ((k + 1) % 16) payload).frame.IsConsecutive ∧
      Ecu.sn (consecutiveFrame ((k + 1) % 16) payload).frame.data = dueSn k ∧
      payload <+: (consecutiveFrame ((k + 1) % 16) payload).frame.data.cells.drop 1 := by
  have hcells := frame_cells (m := consecutiveFrame ((k + 1) % 16) payload) (by
    simp only [consecutiveFrame, List.length_cons, List.length_append, List.length_replicate]
    omega)
  have hzero := get_zero_of_cells hcells
  have hround : ∀ r : Fin 16, UInt8.ofNat (0x20 ||| (r.val &&& 0x0F)) >>> 4 = 0x2 ∧
      UInt8.ofNat (0x20 ||| (r.val &&& 0x0F)) &&& 0x0F = UInt8.ofNat r.val := by decide
  obtain ⟨hpci, hsn⟩ := hround ⟨(k + 1) % 16, Nat.mod_lt _ (by decide)⟩
  refine ⟨⟨show 0x700 ≤ reqId by decide, by rw [pci, hzero, hpci]⟩,
    by rw [Ecu.sn, hzero, hsn]; rfl, ?_⟩
  rw [hcells]
  exact List.prefix_append _ _

/-- **What the tester sends after a flow control without blocks**: numbered from
where it begins, frame after frame, until the request is used up. -/
theorem sendConsecutive_spec (rest : List UInt8) (k blk : ℕ) (waits : List (List Message)) :
    ∃ ms, sendConsecutive 0 rest ((k + 1) % 16) blk waits = ms ∧
      (∀ m ∈ ms, m.frame.IsConsecutive) ∧
      ms.map (fun m => Ecu.sn m.frame.data) = (List.range ms.length).map (fun i => dueSn (k + i)) ∧
      rest <+: ms.flatMap (fun m => m.frame.data.cells.drop 1) ∧
      ms.length = (rest.length + 6) / 7 := by
  induction hn : rest.length using Nat.strong_induction_on generalizing rest k blk with
  | _ n ih =>
    rw [sendConsecutive]
    by_cases hrest : rest = []
    · subst hrest hn
      exact ⟨[], by rw [dif_pos rfl], nofun, rfl, List.prefix_rfl, rfl⟩
    · have hpos := List.length_pos_of_ne_nil hrest
      have hdrop : (rest.drop 7).length < n := by
        rw [List.length_drop]
        omega
      obtain ⟨ms, hms, hall, hnumbers, hbytes, hlen⟩ :=
        ih _ hdrop (rest.drop 7) (k + 1) (blk + 1) rfl
      obtain ⟨hcf, hsn, hpayload⟩ :=
        frame_consecutiveFrame (k := k) (List.length_take_le 7 rest)
      refine ⟨consecutiveFrame ((k + 1) % 16) (rest.take 7) :: ms, ?_, ?_, ?_, ?_, ?_⟩
      · rw [dif_neg hrest, if_neg (fun h => h.1 rfl), Nat.mod_add_mod, hms]
      · rintro m (_ | ⟨_, hm⟩)
        · exact hcf
        · exact hall m hm
      · rw [List.map_cons, List.length_cons, List.range_succ_eq_map, List.map_cons, List.map_map,
          hsn, hnumbers]
        refine congrArg _ (List.map_congr_left fun i _ => ?_)
        rw [Function.comp_apply, Nat.succ_eq_add_one]
        congr 1
        omega
      · rw [List.flatMap_cons]
        by_cases hshort : rest.length ≤ 7
        · rw [List.take_of_length_le hshort] at hpayload ⊢
          exact hpayload.trans (List.prefix_append _ _)
        · -- a full frame has no padding
          have hfull : (consecutiveFrame ((k + 1) % 16) (rest.take 7)).frame.data.cells.drop 1 =
              rest.take 7 := by
            refine (hpayload.eq_of_length ?_).symm
            rw [List.length_take, List.length_drop, Buffer.length_cells]
            omega
          obtain ⟨more, hmore⟩ := hbytes
          refine ⟨more, ?_⟩
          rw [hfull, ← hmore, ← List.append_assoc, List.take_append_drop]
      · rw [List.length_cons, hlen, List.length_drop]
        omega

/-! ### Exchanges over the bus -/

/-- A write of the tester and what the bus made of it. -/
structure Exchange where
  did : ℕ
  data : List UInt8
  /-- What the tester hears while it waits for the flow control. -/
  inbox : List Message
  /-- What it would hear while it waits for another one. -/
  waits : List (List Message)
  /-- How often each frame sent arrives. -/
  copies : List ℕ
  le_length : 7 ≤ (udsData did data).length
  length_le : (udsData did data).length ≤ 251
  answered : flowControl? inbox = some (Message.ofFrame flowControl)
  length_copies : copies.length = (sendUdsTpWrite did data (inbox :: waits)).length
  first_arrives : copies.head? ≠ some 0

namespace Exchange

/-- The request that is written. -/
def uds (x : Exchange) : List UInt8 := udsData x.did x.data

/-- The messages the tester sends. -/
def sent (x : Exchange) : List Message := sendUdsTpWrite x.did x.data (x.inbox :: x.waits)

/-- The frames that arrive at the ECU: those sent, in order, each as often as the
bus lets it through. -/
def arrivals (x : Exchange) : List Frame :=
  Subsequence.repeated ((x.sent.map Message.frame).zip x.copies)

/-- No frame was dropped. -/
def Complete (x : Exchange) : Prop := 0 ∉ x.copies

instance : DecidablePred Complete := fun x => inferInstanceAs (Decidable (0 ∉ x.copies))

/-- The write every frame of which arrives once. -/
def undisturbed (did : ℕ) (data : List UInt8) (hlo : 7 ≤ (udsData did data).length)
    (hhi : (udsData did data).length ≤ 251) : Exchange where
  did := did
  data := data
  inbox := [Message.ofFrame flowControl]
  waits := []
  copies :=
    List.replicate (sendUdsTpWrite did data [[Message.ofFrame flowControl]]).length 1
  le_length := hlo
  length_le := hhi
  answered := by decide
  length_copies := List.length_replicate
  first_arrives := by
    rw [sendUdsTpWrite, List.length_cons, List.replicate_succ, List.head?_cons]
    decide

theorem complete_undisturbed {did : ℕ} {data : List UInt8}
    (hlo : 7 ≤ (udsData did data).length) (hhi : (udsData did data).length ≤ 251) :
    (undisturbed did data hlo hhi).Complete := by
  intro h
  exact absurd (List.eq_of_mem_replicate h) (by decide)

/-- **What the tester sends** in an exchange: the first frame, and consecutive
frames that number the rest of the request and use it up. -/
theorem sent_eq (x : Exchange) :
    ∃ ms, x.sent = firstFrame x.uds :: ms ∧ (∀ m ∈ ms, m.frame.IsConsecutive) ∧
      ms.map (fun m => Ecu.sn m.frame.data) = (List.range ms.length).map dueSn ∧
      x.uds.drop 6 <+: ms.flatMap (fun m => m.frame.data.cells.drop 1) ∧
      ms.length = (x.uds.length - 6 + 6) / 7 := by
  obtain ⟨ms, hms, hall, hnumbers, hbytes, hlen⟩ :=
    sendConsecutive_spec (x.uds.drop 6) 0 0 x.waits
  refine ⟨ms, ?_, hall, ?_, hbytes, by rw [hlen, List.length_drop]⟩
  · rw [sent, sendUdsTpWrite, List.headD_cons, x.answered, ← hms]
    rfl
  · simpa only [Nat.zero_add] using hnumbers

/-- The frames that arrive: the first frame, once or more, and the consecutive
frames with their counts. -/
theorem arrivals_eq (x : Exchange) {ms : List Message} (hsent : x.sent = firstFrame x.uds :: ms) :
    ∃ c cs, cs.length = ms.length ∧ (x.Complete ↔ ∀ k ∈ cs, k ≠ 0) ∧
      x.arrivals = List.replicate c (firstFrame x.uds).frame ++ (firstFrame x.uds).frame ::
        Subsequence.repeated ((ms.map Message.frame).zip cs) := by
  have hcopies := x.length_copies
  change x.copies.length = x.sent.length at hcopies
  rw [hsent, List.length_cons] at hcopies
  obtain ⟨c, cs, hc⟩ := List.exists_cons_of_length_eq_add_one hcopies
  have hpos : c ≠ 0 := by
    rintro rfl
    exact x.first_arrives (by rw [hc]; rfl)
  obtain ⟨c, rfl⟩ := Nat.exists_eq_succ_of_ne_zero hpos
  refine ⟨c, cs, ?_, ?_, ?_⟩
  · rw [hc, List.length_cons] at hcopies
    omega
  · rw [Complete, hc, List.mem_cons, not_or, and_iff_right hpos.symm]
    exact ⟨fun h k hk hz => h (hz ▸ hk), fun h hz => h 0 hz rfl⟩
  · rw [arrivals, hsent, hc, List.map_cons, List.zip_cons_cons, Subsequence.repeated,
      List.flatMap_cons, List.replicate_succ', List.append_assoc]
    rfl

/-- All that arrives belongs to the transfer. -/
theorem transport_arrivals (x : Exchange) {f : Frame} (hf : f ∈ x.arrivals) :
    f.IsFirst ∨ f.IsConsecutive := by
  obtain ⟨ms, hsent, hall, -⟩ := x.sent_eq
  obtain ⟨p, hp, hf⟩ := List.mem_flatMap.mp hf
  obtain ⟨m, hm, hmf⟩ := List.mem_map.mp (List.of_mem_zip hp).1
  rw [List.eq_of_mem_replicate hf, ← hmf]
  rw [hsent] at hm
  rcases List.mem_cons.mp hm with rfl | hm
  · exact .inl (frame_firstFrame x.le_length x.length_le).1
  · exact .inr (hall m hm)

/-- **One exchange**, from any state of the ECU. -/
theorem observe_arrivals (x : Exchange) (s : Tp) :
    ∃ s', Run.run rxStep s x.arrivals = some s' ∧
      Run.observe rxStep rxPdus s x.arrivals =
        if x.Complete then [(x.uds, x.uds.length)] else [] := by
  obtain ⟨ms, hsent, hall, hnumbers, hbytes, hlen⟩ := x.sent_eq
  obtain ⟨c, cs, hcs, hcomplete, harrivals⟩ := x.arrivals_eq hsent
  have hlo : 7 ≤ x.uds.length := x.le_length
  obtain ⟨hfirst, hannounced, hhead⟩ := frame_firstFrame hlo x.length_le
  have hcfs : ∀ f ∈ Subsequence.repeated ((ms.map Message.frame).zip cs), f.IsConsecutive := by
    intro f hf
    obtain ⟨p, hp, hf⟩ := List.mem_flatMap.mp hf
    obtain ⟨m, hm, hmf⟩ := List.mem_map.mp (List.of_mem_zip hp).1
    rw [List.eq_of_mem_replicate hf, ← hmf]
    exact hall m hm
  obtain ⟨u, hfirsts, hsilent⟩ := observe_firsts hfirst c s
  obtain ⟨s', hrun, -, hobs⟩ := observe_transfer hfirst (hannounced ▸ x.length_le) hcfs u
  refine ⟨s', ?_, ?_⟩
  · rw [harrivals]
    exact Run.run_append_eq_some.mpr ⟨u, hfirsts, hrun⟩
  · -- the ECU's transfer is the request cut into frames
    have hzip : ((ms.map Message.frame).zip cs).map (fun p => (p.1.data, p.2)) =
        (ms.map fun m => m.frame.data).zip cs := by
      have htwice : (ms.map fun m => m.frame.data) = (ms.map Message.frame).map Frame.data :=
        List.map_map.symm
      rw [htwice]
      exact List.zip_map_left.symm
    have hdata : ((ms.map fun m => m.frame.data).zip cs).map Prod.fst =
        ms.map fun m => m.frame.data :=
      List.map_fst_zip (by rw [List.length_map, hcs])
    have hcounts : ((ms.map fun m => m.frame.data).zip cs).map Prod.snd = cs :=
      List.map_snd_zip (by rw [List.length_map, hcs])
    have hcount : ((ms.map fun m => m.frame.data).zip cs).length = ms.length := by
      rw [List.length_zip, List.length_map, hcs, min_self]
    have hnumbers' : ((ms.map fun m => m.frame.data).zip cs).map (Ecu.sn ∘ Prod.fst) =
        (List.range ((ms.map fun m => m.frame.data).zip cs).length).map dueSn := by
      rw [← List.map_map, hdata, hcount, ← hnumbers, List.map_map]
      rfl
    have hbytes' : x.uds.drop 6 <+:
        (((ms.map fun m => m.frame.data).zip cs).map Prod.fst).flatMap
          fun data => data.cells.drop 1 := by
      rw [hdata, List.flatMap_map]
      exact hbytes
    have hpdus := Transfer.pdus_repeated hlo hannounced hhead hnumbers' hbytes'
      (hcount.trans hlen)
    have hwhole : (∀ p ∈ (ms.map fun m => m.frame.data).zip cs, p.2 ≠ 0) ↔ x.Complete := by
      rw [hcomplete, ← hcounts, List.forall_mem_map, hcounts]
    rw [harrivals, Run.observe_append _ _ hfirsts, hsilent, List.nil_append, hobs,
      Subsequence.map_repeated, hzip, hpdus]
    exact if_congr hwhole rfl rfl

end Exchange

/-- **Reassembly between tester and ECU is safe against loss.** Over any sequence of
exchanges, and from any state an earlier one may have left, the ECU stays inside its
buffer and hands on exactly the requests no frame of which was dropped, in order,
once each, byte for byte. -/
theorem observe_exchanges (xs : List Exchange) (s : Tp) :
    ∃ s', Run.run rxStep s (xs.flatMap Exchange.arrivals) = some s' ∧
      Run.observe rxStep rxPdus s (xs.flatMap Exchange.arrivals) =
        (xs.filter fun x => x.Complete).map fun x => (x.uds, x.uds.length) := by
  induction xs generalizing s with
  | nil => exact ⟨s, rfl, rfl⟩
  | cons x xs ih =>
    obtain ⟨u, hrun, hobs⟩ := x.observe_arrivals s
    obtain ⟨s', hruns, hobss⟩ := ih u
    refine ⟨s', ?_, ?_⟩
    · rw [List.flatMap_cons]
      exact Run.run_append_eq_some.mpr ⟨u, hrun, hruns⟩
    · rw [List.flatMap_cons, Run.observe_append _ _ hrun, hobs, hobss]
      by_cases hx : x.Complete <;> simp [hx]

end Tester

end VehicleStack
