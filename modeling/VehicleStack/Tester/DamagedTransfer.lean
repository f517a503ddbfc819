import VehicleStack.Tester.Parse

/-!
# What the tester shows of a damaged transfer

Of a response in several frames, consecutive frames may be lost, come twice or in
another order. `parse_uds_response` compares their numbers with those it expects, logs
what does not fit, and goes on: what it puts together are the first six bytes and
whatever came behind them, in the order it came, up to the length announced
(`VehicleStack.Tester.reassemble_delivered`).

So it shows a damaged transfer as soon as enough bytes came for the service. The main
result is `VehicleStack.Tester.staysBlank_iff`: it holds back exactly what is no positive
response to the request, a trouble code response of which nothing but the first frame
came, and ECU information of which fewer than 103 bytes came. A lost frame moves the
trouble codes behind it (`VehicleStack.Tester.lostFrame_shown`).
-/

namespace VehicleStack

namespace Tester

open Ecu

/-! ### What is delivered -/

/-- The first frame of a response that is too long for one. -/
def firstOf (id : ℕ) (pdu : List UInt8) : Frame :=
  sendMsg id ([UInt8.ofNat (0x10 ||| ((pdu.length >>> 8) &&& 0x0F)),
    UInt8.ofNat (pdu.length &&& 0xFF)] ++ pdu.take 6)

theorem canTpSend_of_long (id : ℕ) {pdu : List UInt8} (h : 7 < pdu.length) :
    canTpSend id pdu = firstOf id pdu :: consecutiveFrames id (pdu.drop 6) 1 := by
  rw [canTpSend, if_neg (by omega), firstOf]

/-- A consecutive frame as it is sent: eight bytes, and the type in the first of them. -/
structure Consecutive (f : Frame) : Prop where
  len : f.len = 8
  pci : ∃ d0 data, f.data.cells = d0 :: data ∧ d0 >>> 4 = 2

/-- The tester receives all eight bytes of it. -/
theorem Consecutive.data {f : Frame} (h : Consecutive f) :
    ∃ d0 data, (Message.ofFrame f).data = d0 :: data ∧ d0 >>> 4 = 2 ∧
      f.data.cells = d0 :: data := by
  obtain ⟨d0, data, hcells, hpci⟩ := h.pci
  refine ⟨d0, data, ?_, hpci, hcells⟩
  rw [Message.ofFrame, h.len, List.take_of_length_le (Buffer.length_cells _).le, hcells]

/-- The consecutive frames of a response are such. -/
theorem consecutive_of_mem {id : ℕ} {rest : List UInt8} {f : Frame} {k : ℕ}
    (hf : f ∈ consecutiveFrames id rest (dueSn k)) : Consecutive f := by
  induction hn : rest.length using Nat.strong_induction_on generalizing rest k with
  | _ n ih =>
    rw [consecutiveFrames] at hf
    by_cases hrest : rest = []
    · rw [dif_pos hrest] at hf
      cases hf
    · rw [dif_neg hrest, nextSn_dueSn] at hf
      rcases List.mem_cons.mp hf with rfl | hf
      · have hcells := @sendMsg_cells id ((0x20 ||| (dueSn k &&& 0x0F)) :: rest.take 7)
          (Nat.succ_le_succ (List.length_take_le 7 rest))
        exact ⟨rfl, _, _, hcells, (consecutive_byte k).1⟩
      · have hpos := List.length_pos_of_ne_nil hrest
        exact ih (rest.drop 7).length (by rw [List.length_drop]; omega) hf rfl

/-- What is delivered of a response of several frames: its first frame, and any of its consecutive
frames, in any order and any number, some of them before the first frame. -/
structure Delivered (id : ℕ) (pdu : List UInt8) (early late : List Frame) : Prop where
  long : 7 < pdu.length
  early : ∀ f ∈ early, f ∈ consecutiveFrames id (pdu.drop 6) 1
  late : ∀ f ∈ late, f ∈ consecutiveFrames id (pdu.drop 6) 1

/-- The response as it arrives: the first six bytes, and what the consecutive frames hold, up to
the length that the first frame announces. -/
def arrived (pdu : List UInt8) (cfs : List Frame) : List UInt8 :=
  (pdu.take 6 ++ cfs.flatMap fun f => f.data.cells.drop 1).take (max 6 (pdu.length % 4096))

/-- How many bytes of a response of `len` bytes arrive with `count` consecutive frames. -/
def arrivedLen (len count : ℕ) : ℕ := min (max 6 (len % 4096)) (6 + 7 * count)

theorem length_payloads (cfs : List Frame) :
    (cfs.flatMap fun f => f.data.cells.drop 1).length = 7 * cfs.length := by
  induction cfs with
  | nil => rfl
  | cons f cfs ih =>
    rw [List.flatMap_cons, List.length_append, ih, List.length_drop, Buffer.length_cells,
      List.length_cons]
    omega

/-- The first six bytes and what the consecutive frames hold. -/
theorem length_took {pdu : List UInt8} (h : 7 < pdu.length) (cfs : List Frame) :
    (pdu.take 6 ++ cfs.flatMap fun f => f.data.cells.drop 1).length = 6 + 7 * cfs.length := by
  rw [List.length_append, length_payloads, List.length_take,
    Nat.min_eq_left (by omega : 6 ≤ pdu.length)]

theorem length_arrived {pdu : List UInt8} (h : 7 < pdu.length) (cfs : List Frame) :
    (arrived pdu cfs).length = arrivedLen pdu.length cfs.length := by
  rw [arrived, List.length_take, length_took h, arrivedLen]

theorem head?_arrived {pdu : List UInt8} (h : 7 < pdu.length) (cfs : List Frame) :
    (arrived pdu cfs).head? = pdu.head? := by
  obtain ⟨b, bs, rfl⟩ := List.exists_cons_of_length_pos (Nat.lt_of_le_of_lt (Nat.zero_le 7) h)
  obtain ⟨m, hm⟩ : ∃ m, max 6 ((b :: bs).length % 4096) = m + 1 :=
    ⟨max 6 ((b :: bs).length % 4096) - 1, by omega⟩
  rw [arrived, hm, List.take_succ_cons, List.cons_append, List.take_succ_cons]
  rfl

/-- One more consecutive frame, while there is room for it. -/
theorem arrived_concat_of_fits {pdu : List UInt8} {cfs : List Frame} {f : Frame} {d0 : UInt8}
    {data : List UInt8} (hlong : 7 < pdu.length) (hcells : f.data.cells = d0 :: data)
    (hfits : 6 + 7 * cfs.length ≤ max 6 (pdu.length % 4096)) :
    arrived pdu (cfs ++ [f]) = arrived pdu cfs ++
      data.take (min 7 (pdu.length % 4096 - (arrived pdu cfs).length)) := by
  have hseven : data.length = 7 := by
    have hlen := Buffer.length_cells f.data
    rw [hcells, List.length_cons] at hlen
    omega
  have htook := length_took hlong cfs
  have hall : arrived pdu cfs = pdu.take 6 ++ cfs.flatMap fun g => g.data.cells.drop 1 :=
    List.take_of_length_le (htook.trans_le hfits)
  rw [arrived, List.flatMap_append, List.flatMap_singleton, ← List.append_assoc, ← hall, hcells,
    List.drop_one, List.tail_cons, List.take_append,
    List.take_of_length_le (by rw [hall, htook]; exact hfits), List.append_cancel_left_eq,
    List.take_eq_take_iff, hall, htook]
  omega

/-- No frame adds anything when all that was announced is there. -/
theorem arrived_concat_of_full {pdu : List UInt8} {cfs : List Frame} {f : Frame}
    (hlong : 7 < pdu.length) (hfull : max 6 (pdu.length % 4096) ≤ 6 + 7 * cfs.length) :
    arrived pdu (cfs ++ [f]) = arrived pdu cfs := by
  rw [arrived, List.flatMap_append, ← List.append_assoc,
    List.take_append_of_le_length (by rw [length_took hlong]; exact hfull), arrived]

/-! ### The loop over the frames delivered -/

/-- The loop after the first frame and some consecutive frames. -/
structure Holds (pdu : List UInt8) (cfs : List Frame) (r : Reassembly) : Prop where
  payload : r.payload = arrived pdu cfs
  totalLen : r.totalLen = pdu.length % 4096
  gotFf : r.gotFf = true ↔ cfs = [] ∨ 6 + 7 * cfs.length < pdu.length % 4096

/-- The length that a first frame announces, of a response of any length. -/
theorem announced_mod (n : ℕ) :
    UInt8.ofNat (0x10 ||| ((n >>> 8) &&& 0x0F)) >>> 4 = 1 ∧
      (UInt8.ofNat (0x10 ||| ((n >>> 8) &&& 0x0F)) &&& 0x0F).toNat <<< 8 |||
        (UInt8.ofNat (n &&& 0xFF)).toNat = n % 4096 := by
  have hmod := announced_byte (n := n % 4096) (by omega)
  have hhigh : ((n % 4096) >>> 8) &&& 0x0F = (n >>> 8) &&& 0x0F := by
    rw [show (0x0F : ℕ) = 2 ^ 4 - 1 from rfl, Nat.and_two_pow_sub_one_eq_mod,
      Nat.and_two_pow_sub_one_eq_mod, Nat.shiftRight_eq_div_pow, Nat.shiftRight_eq_div_pow]
    omega
  have hlow : (n % 4096) &&& 0xFF = n &&& 0xFF := by
    rw [show (0xFF : ℕ) = 2 ^ 8 - 1 from rfl, Nat.and_two_pow_sub_one_eq_mod,
      Nat.and_two_pow_sub_one_eq_mod]
    omega
  rwa [hhigh, hlow] at hmod

/-- **The first frame.** -/
theorem holds_firstOf (sid : UInt8) (id : ℕ) {pdu : List UInt8} (h : 7 < pdu.length) :
    ∃ r, Reassembly.step sid {} (Message.ofFrame (firstOf id pdu)) = some r ∧
      Holds pdu [] r := by
  obtain ⟨hpci, htotal⟩ := announced_mod pdu.length
  have hsix : (pdu.take 6).length = 6 := by
    rw [List.length_take]
    omega
  have hlen : (UInt8.ofNat (pdu.length &&& 0xFF) :: pdu.take 6).length ≤ 7 := by
    rw [List.length_cons, hsix]
  have hcut : ∀ pad : List UInt8, [] ++ (pdu.take 6 ++ pad).take 6 = arrived pdu [] := by
    intro pad
    rw [List.nil_append, List.take_left' hsix, arrived, List.flatMap_nil, List.append_nil]
    exact (List.take_of_length_le (by rw [hsix]; exact Nat.le_max_left _ _)).symm
  refine ⟨{ payload := arrived pdu [], totalLen := pdu.length % 4096, gotFf := true }, ?_, rfl, rfl,
    iff_of_true rfl (Or.inl rfl)⟩
  refine (step_firstFrame (data_ofFrame_sendMsg hlen) hpci sid {}).trans ?_
  rw [List.cons_append, Reassembly.firstFrame, htotal, hcut]

/-- A consecutive frame when the transfer is over. -/
theorem step_consecutive_ignored (sid : UInt8) {m : Message} {d0 : UInt8} {data : List UInt8}
    (h : m.data = d0 :: data) (hpci : d0 >>> 4 = 2) {r : Reassembly} (hff : r.gotFf = false) :
    r.step sid m = some r := by
  rw [Reassembly.step, h]
  change (if d0 >>> 4 = 3 then _ else _) = _
  rw [hpci, if_neg (by decide), if_neg (by decide), if_neg (by decide), if_neg]
  rw [hff]
  exact fun h => absurd h.2 (by decide)

/-- **One more consecutive frame** adds what it holds, whatever its number, if the transfer is not
over. -/
theorem Holds.step (sid : UInt8) {pdu : List UInt8} {cfs : List Frame} {r : Reassembly} {f : Frame}
    (hlong : 7 < pdu.length) (h : Holds pdu cfs r) (hf : Consecutive f) :
    ∃ r', r.step sid (Message.ofFrame f) = some r' ∧ Holds pdu (cfs ++ [f]) r' := by
  obtain ⟨d0, data, hdata, hpci, hcells⟩ := hf.data
  have hnever : ¬ cfs ++ [f] = [] := List.append_ne_nil_of_right_ne_nil _ (List.cons_ne_nil _ _)
  by_cases hff : r.gotFf = true
  · -- the transfer is not over
    have hfits : 6 + 7 * cfs.length ≤ max 6 (pdu.length % 4096) := by
      rcases h.gotFf.mp hff with rfl | hlt
      · rw [List.length_nil]
        omega
      · omega
    have hnew : r.payload ++ data.take (min 7 (r.totalLen - r.payload.length)) =
        arrived pdu (cfs ++ [f]) := by
      rw [h.payload, h.totalLen, arrived_concat_of_fits hlong hcells hfits]
    refine ⟨_, step_consecutiveFrame hdata hpci sid hff, hnew, h.totalLen, ?_⟩
    have hcount := length_arrived hlong (cfs ++ [f])
    rw [arrivedLen, List.length_append, List.length_singleton] at hcount
    rw [Reassembly.consecutiveFrame]
    dsimp only
    rw [hnew, hcount, h.totalLen, hff, List.length_append, List.length_singleton,
      or_iff_right hnever]
    split_ifs with hdone
    · exact iff_of_false id (by omega)
    · exact iff_of_true rfl (by omega)
  · -- `got_ff` is down, so the frame is passed over
    have hover : r.gotFf = false := Bool.eq_false_iff.mpr hff
    have hfull : max 6 (pdu.length % 4096) ≤ 6 + 7 * cfs.length := by
      have := mt h.gotFf.mpr hff
      rw [not_or] at this
      omega
    refine ⟨r, step_consecutive_ignored sid hdata hpci hover, ?_, h.totalLen,
      iff_of_false hff (not_or.mpr ⟨hnever, ?_⟩)⟩
    · rw [h.payload, arrived_concat_of_full hlong hfull]
    · rw [List.length_append, List.length_singleton]
      omega

/-- Consecutive frames before the first frame are passed over. -/
theorem run_early (sid : UInt8) {early : List Frame} (h : ∀ f ∈ early, Consecutive f) :
    Run.run (Reassembly.step sid) {} (early.map Message.ofFrame) = some {} := by
  induction early with
  | nil => rfl
  | cons f early ih =>
    obtain ⟨d0, data, hdata, hpci, -⟩ := (h f List.mem_cons_self).data
    exact Run.run_cons_eq_some.mpr ⟨{}, step_consecutive_ignored sid hdata hpci rfl,
      ih fun g hg => h g (List.mem_cons_of_mem f hg)⟩

/-- The first frame and the consecutive frames behind it. -/
theorem run_late (sid : UInt8) (id : ℕ) {pdu : List UInt8} {late : List Frame}
    (hlong : 7 < pdu.length) (h : ∀ f ∈ late, Consecutive f) :
    ∃ r, Run.run (Reassembly.step sid) {} ((firstOf id pdu :: late).map Message.ofFrame) = some r ∧
      Holds pdu late r := by
  induction late using List.reverseRecOn with
  | nil =>
    obtain ⟨r, hstep, hr⟩ := holds_firstOf sid id hlong
    exact ⟨r, Run.run_cons_eq_some.mpr ⟨r, hstep, rfl⟩, hr⟩
  | append_singleton late f ih =>
    obtain ⟨r, hrun, hr⟩ := ih fun g hg => h g (List.mem_append_left _ hg)
    obtain ⟨r', hstep, hr'⟩ := hr.step sid hlong (h f (List.mem_append_right _ List.mem_cons_self))
    refine ⟨r', ?_, hr'⟩
    rw [← List.cons_append, List.map_append]
    exact Run.run_append_eq_some.mpr ⟨r, hrun, Run.run_cons_eq_some.mpr ⟨r', hstep, rfl⟩⟩

/-- **What the loop puts together** of what is delivered. -/
theorem reassemble_delivered (reqSid : ℕ) {id : ℕ} {pdu : List UInt8} {early late : List Frame}
    (h : Delivered id pdu early late) :
    ∃ r, reassemble reqSid ((early ++ firstOf id pdu :: late).map Message.ofFrame) = some r ∧
      r.payload = arrived pdu late := by
  have hearly := run_early (posSid reqSid) fun f hf => consecutive_of_mem (k := 0) (h.early f hf)
  obtain ⟨r, hrun, hr⟩ := run_late (posSid reqSid) id h.long fun f hf =>
    consecutive_of_mem (k := 0) (h.late f hf)
  refine ⟨r, ?_, hr.payload⟩
  rw [reassemble, List.map_append]
  exact Run.run_append_eq_some.mpr ⟨{}, hearly, hrun⟩

/-! ### What is shown -/

/-- The labels of the ECU information or the table of the trouble codes are updated. -/
def Display.Updates : Display → Prop
  | .ecuInfo .. => True
  | .dtcs _ => True
  | _ => False

/-- Enough bytes of a response for what was asked. -/
def Enough (reqSid did len : ℕ) : Prop :=
  (reqSid = 0x22 ∧ did = 0x0005 ∧ 103 ≤ len) ∨ (reqSid = 0x19 ∧ 7 ≤ len)

theorem updates_displayRead_iff {did : ℕ} {data : List UInt8} :
    (displayRead did data).Updates ↔ did = 0x0005 ∧ 100 ≤ data.length := by
  unfold displayRead
  split_ifs with hdid hshort
  · exact iff_of_false id (by omega)
  · exact iff_of_true trivial ⟨hdid, Nat.not_lt.mp hshort⟩
  · refine iff_of_false ?_ fun h => hdid h.1
    split <;> exact id
  · exact iff_of_false id fun h => hdid h.1

theorem updates_displayDtcs_iff {data : List UInt8} (hlen : 4 ≤ data.length) :
    (displayDtcs data).Updates ↔ 5 ≤ data.length := by
  rw [displayDtcs, if_neg (by omega)]
  split_ifs with hfive
  · exact iff_of_true trivial hfive
  · exact iff_of_false id hfive

/-- **What is taken for a response** that has the bytes of a first frame at least. -/
theorem updates_display_iff {reqSid did : ℕ} {payload : List UInt8} (hlen : 6 ≤ payload.length) :
    (display reqSid did payload).Updates ↔
      payload.head? = some (posSid reqSid) ∧ Enough reqSid did payload.length := by
  rw [display]
  by_cases hhead : payload.head? ≠ some (posSid reqSid)
  · rw [if_pos hhead]
    exact iff_of_false id fun h => hhead h.1
  rw [if_neg hhead, and_iff_right (not_not.mp hhead), Enough]
  by_cases hread : reqSid = 0x22
  · rw [if_pos hread, if_neg (by omega), updates_displayRead_iff, List.length_drop]
    omega
  rw [if_neg hread]
  by_cases hdtc : reqSid = 0x19
  · rw [if_pos hdtc, if_neg (by omega),
      updates_displayDtcs_iff (by rw [List.length_drop]; omega), List.length_drop]
    omega
  · rw [if_neg hdtc]
    exact iff_of_false id (by omega)

/-- `parse_uds_response` updates the labels or the table. -/
def Presents (reqSid did : ℕ) (frames : List Frame) : Prop :=
  ∃ shown, parseUdsResponse reqSid did (frames.map Message.ofFrame) = some shown ∧ shown.Updates

/-- **What is presented of a transfer**, damaged or not: that depends only on how many consecutive
frames came behind the first frame. -/
theorem presents_iff {reqSid did id : ℕ} {pdu : List UInt8} {early late : List Frame}
    (h : Delivered id pdu early late) :
    Presents reqSid did (early ++ firstOf id pdu :: late) ↔ pdu.head? = some (posSid reqSid) ∧
      Enough reqSid did (arrivedLen pdu.length late.length) := by
  obtain ⟨r, hr, hpayload⟩ := reassemble_delivered reqSid h
  have hlen := length_arrived h.long late
  have hsix : 6 ≤ (arrived pdu late).length := by
    rw [hlen, arrivedLen]
    omega
  rw [← head?_arrived h.long late, ← hlen, ← updates_display_iff hsix, ← hpayload]
  constructor
  · rintro ⟨shown, hshown, hupdates⟩
    rw [parseUdsResponse, hr, Option.map_some, Option.some_inj] at hshown
    exact hshown ▸ hupdates
  · intro hupdates
    exact ⟨_, by rw [parseUdsResponse, hr, Option.map_some], hupdates⟩

/-- **When the tester presents no damaged transfer.** Of every response in several frames, with
its consecutive frames lost, repeated and in any order, `parse_uds_response` updates nothing if
the frames delivered are not those sent, if and only if they are those sent, or it is no positive
response to the request, or too few bytes arrive for what was asked: fewer than 7 of the trouble
codes, fewer than 103 of the ECU information. -/
theorem staysBlank_iff {reqSid did id : ℕ} {pdu : List UInt8} {early late : List Frame}
    (h : Delivered id pdu early late) :
    (early ++ firstOf id pdu :: late ≠ canTpSend id pdu →
        ¬ Presents reqSid did (early ++ firstOf id pdu :: late)) ↔
      early ++ firstOf id pdu :: late = canTpSend id pdu ∨ pdu.head? ≠ some (posSid reqSid) ∨
        ¬ Enough reqSid did (arrivedLen pdu.length late.length) := by
  rw [presents_iff h, not_and_or]
  exact or_iff_not_imp_left.symm

/-- Four trouble codes: 0x010100, 0x010110, 0x010120 and 0x010200. -/
def fourCodes : List UInt8 :=
  [0x59, 0x02, 0xFF, 0x01, 0x01, 0x00, 0x01, 0x01, 0x01, 0x10, 0x40, 0x01, 0x01, 0x20, 0x01,
    0x01, 0x02, 0x00, 0x40]

/-- Their two consecutive frames. -/
def fourCodesCfs : List Frame :=
  [sendMsg resId [0x21, 0x01, 0x01, 0x01, 0x10, 0x40, 0x01, 0x01],
    sendMsg resId [0x22, 0x20, 0x01, 0x01, 0x02, 0x00, 0x40]]

theorem consecutiveFrames_fourCodes :
    consecutiveFrames resId (fourCodes.drop 6) 1 = fourCodesCfs := by
  rw [consecutiveFrames, dif_neg (by decide), consecutiveFrames, dif_neg (by decide),
    consecutiveFrames, dif_pos (by decide)]
  rfl

theorem canTpSend_fourCodes :
    canTpSend resId fourCodes = firstOf resId fourCodes :: fourCodesCfs := by
  rw [canTpSend_of_long resId (by decide), consecutiveFrames_fourCodes]

/-- What is left when the first so many consecutive frames are lost. -/
theorem delivered_fourCodes (lost : ℕ) :
    Delivered resId fourCodes [] (fourCodesCfs.drop lost) := by
  refine ⟨by decide, fun _ hf => absurd hf List.not_mem_nil, fun f hf => ?_⟩
  rw [consecutiveFrames_fourCodes]
  exact List.mem_of_mem_drop hf

/-- With no consecutive frame at all the response is held back. -/
theorem staysBlank_fourCodes : ¬ Presents 0x19 0 [firstOf resId fourCodes] := by
  have hblank := (@staysBlank_iff 0x19 0 resId fourCodes [] [] (delivered_fourCodes 2)).mpr
  refine hblank (Or.inr (Or.inr ?_)) ?_
  · rintro (⟨hread, -⟩ | ⟨-, hseven⟩)
    · exact absurd hread (by decide)
    · exact absurd hseven (by decide)
  · rw [canTpSend_fourCodes]
    exact fun h => absurd (congrArg List.length h) (by decide)

/-- **A lost frame moves the codes behind it.** Without its first consecutive frame the response is
not held back: the table has 0x010100 with a status that was not sent, and the code 0x010102,
which was not sent at all. -/
theorem lostFrame_shown :
    Delivered resId fourCodes [] (fourCodesCfs.drop 1) ∧
      firstOf resId fourCodes :: fourCodesCfs.drop 1 ≠ canTpSend resId fourCodes ∧
      parseUdsResponse 0x19 0 ((firstOf resId fourCodes :: fourCodesCfs.drop 1).map
          Message.ofFrame) = some (.dtcs [(0x010100, 0x20), (0x010102, 0x00)]) ∧
      Presents 0x19 0 (firstOf resId fourCodes :: fourCodesCfs.drop 1) := by
  have hshown : parseUdsResponse 0x19 0 ((firstOf resId fourCodes :: fourCodesCfs.drop 1).map
      Message.ofFrame) = some (.dtcs [(0x010100, 0x20), (0x010102, 0x00)]) := by decide +kernel
  refine ⟨delivered_fourCodes 1, ?_, hshown, _, hshown, trivial⟩
  rw [canTpSend_fourCodes]
  exact fun h => absurd (congrArg List.length h) (by decide)

end Tester

end VehicleStack
