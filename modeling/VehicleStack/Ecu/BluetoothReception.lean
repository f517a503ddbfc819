import Mathlib.Data.List.GetD
import VehicleStack.Lib.Segments
import VehicleStack.Lib.Terminated
import VehicleStack.Ecu.Bluetooth

/-!
# What the Bluetooth receiver makes of its line

The reference: of the bytes taken out of the queue, a text is what stands between two null bytes,
and what counts of it are the bytes behind its last full eight. They are a command if they begin
with an `M` and four digits, or with a `P` (`VehicleStack.Ecu.Bluetooth.commands`). What stood in
the buffer before has no part in it.

The time of a command is the stamp of its text's first byte (`VehicleStack.Ecu.Bluetooth.stamp`):
the time it arrived at, if a null byte arrived before it, and otherwise the stamp of the byte that
arrived a queue's length earlier, which is what the cell beside it still holds. Only where bytes are
lost can a text begin with a byte of that kind.

`VehicleStack.Ecu.Bluetooth.outputs_eq` says that the module does what the reference does, call by
call, in every interleaving of received bytes, calls of `Bluetooth_ProcessQueue` and calls of
`Bluetooth_GetLatestData`, and that it never writes beyond its buffer.
-/

namespace VehicleStack

namespace Ecu

namespace Bluetooth

open Terminated Segments

/-! ### The reference -/

/-- A byte and its stamp. -/
abbrev Stamped : Type := UInt8 × UInt64

/-- The byte that ends a text. -/
def isTerminator (b : Stamped) : Bool := b.1 = 0

/-- Two numbers of two digits each. -/
def fourDigits : List UInt8 → Option (ℤ × ℤ)
  | a :: b :: c :: d :: _ =>
    if isDigit a ∧ isDigit b ∧ isDigit c ∧ isDigit d then
      some (((a.toNat : ℤ) - 48) * 10 + (b.toNat - 48), ((c.toNat : ℤ) - 48) * 10 + (d.toNat - 48))
    else none
  | _ => none

/-- What a command is for, and its two numbers. -/
def command : List UInt8 → Option (BluetoothCmdType × ℤ × ℤ)
  | [] => none
  | kind :: args =>
    if kind = 77 then (fourDigits args).map fun p => (.move, p)
    else if kind = 80 then some (.park, 0, 0)
    else none

/-- A command as it is published. -/
def published (c : BluetoothCmdType × ℤ × ℤ) (timeUs : UInt64) : BluetoothData :=
  ⟨c.1, c.2.1, c.2.2, timeUs⟩

/-- The command a text is, if it is one. -/
def record (text : List Stamped) : Option BluetoothData :=
  (command (leftover 8 (text.map Prod.fst))).map fun c => published c (text.headD (0, 0)).2

/-- The commands of a stream of bytes. -/
def commands (s : List Stamped) : List BluetoothData := (texts isTerminator s).filterMap record

/-- The commands that some more bytes complete. -/
def completed (taken new : List Stamped) : List BluetoothData :=
  (commands (taken ++ new)).drop (commands taken).length

/-- What arrived, what is waiting, what was taken out, and the command nobody has fetched. -/
structure Reference where
  arrived : List Stamped := []
  queue : List Stamped := []
  taken : List Stamped := []
  unread : Option BluetoothData := none

/-- The byte that arrived last; before the first one it is a null byte. -/
def lastArrived (arrived : List Stamped) : UInt8 := (arrived.getLast?.map Prod.fst).getD 0

/-- The stamp of a byte: its time, if it is the first one of a text, and otherwise the stamp of the
byte that arrived `capacity` bytes before it. -/
def stamp (capacity : ℕ) (arrived : List Stamped) (timeUs : UInt64) : UInt64 :=
  if lastArrived arrived = 0 then timeUs else (arrived.reverse.getD (capacity - 1) (0, 0)).2

/-- What a call comes to. -/
def referenceStep (capacity maxBytes : ℕ) (r : Reference) : Event → Reference × Output
  | .rx byte timeUs =>
    if byte = 10 then (r, {})
    else
      let b : Stamped := (byte, stamp capacity r.arrived timeUs)
      ({ r with
          arrived := r.arrived ++ [b]
          queue := (r.queue ++ [b]).rtake (capacity - 1) }, {})
  | .process =>
    let bytes := r.queue.take maxBytes
    ({ r with
        queue := r.queue.drop maxBytes
        taken := r.taken ++ bytes
        unread := (completed r.taken bytes).getLast?.or r.unread },
      { popped := bytes.map Prod.fst, published := completed r.taken bytes })
  | .get => ({ r with unread := none }, { fetched := r.unread })

/-! ### One command -/

/-- **The buffer is read no further than the text goes**: a null byte behind it is no digit. -/
theorem parseBluetoothPacket_eq {packet : ℕ → UInt8} {text : List UInt8}
    (h : ∀ j ≤ text.length, packet j = text.getD j 0) (out : BluetoothData) (timeUs : UInt64) :
    (parseBluetoothPacket packet out).map (fun d => { d with receivedTimeUs := timeUs }) =
      (command text).map fun c => published c timeUs := by
  have hfirst := h 0 (Nat.zero_le _)
  rcases text with _ | ⟨kind, args⟩
  · rw [List.getD_nil] at hfirst
    rw [parseBluetoothPacket, hfirst]
    rfl
  rw [List.getD_cons_zero] at hfirst
  have hargs : ∀ j ≤ args.length, packet (j + 1) = args.getD j 0 := fun j hj =>
    (h (j + 1) (Nat.succ_le_succ hj)).trans List.getD_cons_succ
  by_cases hmove : kind = 77
  · have hend : packet (args.length + 1) = 0 := by
      rw [hargs _ (Nat.le_refl _), List.getD_eq_getElem?_getD,
        List.getElem?_eq_none (Nat.le_refl _), Option.getD_none]
    have hzero : isDigit 0 = false := rfl
    rw [parseBluetoothPacket_of_move (hfirst.trans hmove), command, if_pos hmove]
    -- where the text stops, a digit is missing
    rcases args with _ | ⟨a, _ | ⟨b, _ | ⟨c, _ | ⟨d, rest⟩⟩⟩⟩
    · rw [if_neg fun hd => by simp [show packet 1 = 0 from hend, hzero] at hd]
      rfl
    · rw [if_neg fun hd => by simp [show packet 2 = 0 from hend, hzero] at hd]
      rfl
    · rw [if_neg fun hd => by simp [show packet 3 = 0 from hend, hzero] at hd]
      rfl
    · rw [if_neg fun hd => by simp [show packet 4 = 0 from hend, hzero] at hd]
      rfl
    · have ha : packet 1 = a := hargs 0 (by simp)
      have hb : packet 2 = b := hargs 1 (by simp)
      have hc : packet 3 = c := hargs 2 (by simp)
      have hd : packet 4 = d := hargs 3 (by simp)
      rw [ha, hb, hc, hd, fourDigits]
      by_cases hall : isDigit a ∧ isDigit b ∧ isDigit c ∧ isDigit d
      · rw [if_pos hall, if_pos hall]
        rfl
      · rw [if_neg hall, if_neg hall]
        rfl
  · rw [parseBluetoothPacket, hfirst, command, if_neg hmove, if_neg hmove]
    by_cases hpark : kind = 80
    · rw [if_pos hpark, if_pos hpark]
      rfl
    · rw [if_neg hpark, if_neg hpark]
      rfl

/-! ### The invariant -/

/-- The buffer holds the open text of the bytes taken out so far. -/
structure Collects (s : Bluetooth) (taken : List Stamped) : Prop where
  packetIndex : s.packetIndex = (leftover 8 (pending isTerminator taken)).length
  packet : ∀ j < s.packetIndex,
    s.packet j = ((leftover 8 (pending isTerminator taken)).map Prod.fst).getD j 0
  preByte : s.preByte = 0 ↔ pending isTerminator taken = []
  packetStartTimeUs : ∀ b bs, pending isTerminator taken = b :: bs → s.packetStartTimeUs = b.2

/-- The module stands for a state of the reference, with a queue of stamped bytes. -/
structure Reflects (s : Bluetooth) (g : Ring Stamped) (r : Reference) : Prop where
  rxQueue : s.rxQueue = g.map Prod.fst
  stamps : ∀ i, s.headerTimestampUs i = (g.buffer i).2
  holds : g.Holds (0, 0) r.arrived
  rxPreByte : s.rxPreByte = lastArrived r.arrived
  queue : r.queue = g.contents
  collects : Collects s r.taken
  unread : r.unread = if s.dataReady then some s.latestData else none

/-- **A byte received** is stamped: what is written beside its cell, or what stands there. -/
theorem Reflects.rxHandler {s : Bluetooth} {g : Ring Stamped} {r : Reference}
    (h : Reflects s g r) (maxBytes : ℕ) (byte : UInt8) (timeUs : UInt64) :
    ∃ g', g'.capacity = g.capacity ∧
      Reflects (s.rxHandler byte timeUs) g'
        (referenceStep g.capacity maxBytes r (.rx byte timeUs)).1 := by
  rw [Bluetooth.rxHandler, referenceStep]
  by_cases hline : byte = 10
  · rw [if_pos hline, if_pos hline]
    exact ⟨g, rfl, h⟩
  rw [if_neg hline, if_neg hline]
  have htail : s.rxQueue.tail = g.tail := by
    rw [h.rxQueue]
    rfl
  refine ⟨g.push (byte, stamp g.capacity r.arrived timeUs), rfl, ?_⟩
  refine ⟨?_, fun i => ?_, h.holds.push _, ?_, ?_, ⟨h.collects.packetIndex, h.collects.packet,
    h.collects.preByte, h.collects.packetStartTimeUs⟩, h.unread⟩
  · rw [Ring.map_push, ← h.rxQueue]
  · show (if s.rxPreByte = bluetoothPacketTerminator then _ else s.headerTimestampUs) i =
      (Function.update g.buffer g.tail (byte, stamp g.capacity r.arrived timeUs) i).2
    rw [htail, h.rxPreByte, stamp]
    by_cases hcell : i = g.tail
    · subst hcell
      rw [Function.update_self]
      by_cases hfirst : lastArrived r.arrived = bluetoothPacketTerminator
      · rw [if_pos hfirst, if_pos (show lastArrived r.arrived = 0 from hfirst),
          Function.update_self]
      · rw [if_neg hfirst, if_neg (show ¬ lastArrived r.arrived = 0 from hfirst), h.stamps,
          h.holds.tail]
    · rw [Function.update_of_ne hcell, ← h.stamps i]
      split
      · rw [Function.update_of_ne hcell]
      · rfl
  · show byte = lastArrived (r.arrived ++ [_])
    rw [lastArrived, List.getLast?_concat]
    rfl
  · show (r.queue ++ [_]).rtake (g.capacity - 1) = _
    rw [Ring.contents_push, h.queue]

/-! ### Bytes taken out -/

theorem commands_append (taken new : List Stamped) :
    commands (taken ++ new) = commands taken ++ completed taken new := by
  have hprefix : commands taken <+: commands (taken ++ new) :=
    (prefix_texts taken new).filterMap record
  obtain ⟨later, hlater⟩ := hprefix
  rw [completed, ← hlater, List.drop_left]

theorem completed_nil (taken : List Stamped) : completed taken [] = [] := by
  rw [completed, List.append_nil, List.drop_length]

/-- Bytes may be taken out in two goes. -/
theorem completed_append (taken a b : List Stamped) :
    completed taken (a ++ b) = completed taken a ++ completed (taken ++ a) b := by
  have hboth := commands_append taken (a ++ b)
  rw [← List.append_assoc, commands_append, commands_append, List.append_assoc] at hboth
  exact (List.append_cancel_left hboth).symm

/-- One byte completes the open text, if it is a null byte. -/
theorem completed_singleton (taken : List Stamped) (b : Stamped) :
    completed taken [b] =
      if b.1 = 0 then (record (pending isTerminator taken)).toList else [] := by
  have hone := commands_append taken [b]
  by_cases hb : b.1 = 0
  · rw [commands, texts_concat_of_end taken (decide_eq_true hb), List.filterMap_append] at hone
    rw [if_pos hb, ← List.append_cancel_left hone]
    cases h : record (pending isTerminator taken) with
    | none => exact List.filterMap_cons_none h
    | some d => exact List.filterMap_cons_some h
  · rw [commands, texts_concat_of_not_end taken (decide_eq_false hb)] at hone
    rw [if_neg hb]
    exact List.append_right_eq_self.mp hone.symm

section Consume

variable {s : Bluetooth} {g : Ring Stamped} {r : Reference} {b : Stamped}

/-- The stamp that is looked up for a byte that was just taken out. -/
def lookedUp (s : Bluetooth) : UInt64 :=
  s.headerTimestampUs ((s.rxQueue.head + s.rxQueue.capacity - 1) % s.rxQueue.capacity)

/-- The queue without its first byte, whose stamp is still there. -/
theorem Reflects.advance (h : Reflects s g r) {rest : List Stamped}
    (hcontents : g.contents = b :: rest) :
    Reflects { s with rxQueue := g.advance.map Prod.fst } g.advance { r with queue := rest } ∧
      lookedUp { s with rxQueue := g.advance.map Prod.fst } = b.2 := by
  obtain ⟨hrest, hb⟩ := Ring.contents_advance hcontents
  refine ⟨⟨rfl, h.stamps, h.holds.advance, h.rxPreByte, hrest.symm, ⟨h.collects.packetIndex,
    h.collects.packet, h.collects.preByte, h.collects.packetStartTimeUs⟩, h.unread⟩, ?_⟩
  show s.headerTimestampUs ((g.advance.head + g.advance.capacity - 1) % g.advance.capacity) = b.2
  rw [g.head_of_advance, h.stamps, hb]

/-- The time of a command is the stamp of its first byte. -/
theorem Reflects.startTimeUs_eq (h : Reflects s g r) (hb : lookedUp s = b.2) :
    s.startTimeUs = ((pending isTerminator r.taken ++ [b]).headD (0, 0)).2 := by
  have hpre := h.collects.preByte
  rw [startTimeUs]
  by_cases hopen : pending isTerminator r.taken = []
  · rw [if_pos (show s.preByte = bluetoothPacketTerminator from hpre.mpr hopen), hopen]
    exact hb
  · rw [if_neg (show ¬ s.preByte = bluetoothPacketTerminator from fun h => hopen (hpre.mp h))]
    obtain ⟨c, cs, hcs⟩ := List.exists_cons_of_ne_nil hopen
    rw [hcs]
    exact h.collects.packetStartTimeUs c cs hcs

/-- **The end of a text**: what the buffer holds is parsed as the text. -/
theorem Reflects.parse_eq (h : Reflects s g r) (hb : lookedUp s = b.2) :
    (parseBluetoothPacket (Function.update s.packet s.packetIndex 0) s.latestData).map
        (fun d => { d with receivedTimeUs := s.startTimeUs }) =
      record (pending isTerminator r.taken) := by
  obtain ⟨text, htext⟩ :
    ∃ text, text = (leftover 8 (pending isTerminator r.taken)).map Prod.fst := ⟨_, rfl⟩
  have hlen : s.packetIndex = text.length := by
    rw [h.collects.packetIndex, htext, List.length_map]
  have hbuffer : ∀ j ≤ text.length,
      Function.update s.packet s.packetIndex 0 j = text.getD j 0 := by
    intro j hj
    rcases Nat.lt_or_eq_of_le hj with hlt | rfl
    · rw [← hlen] at hlt
      rw [Function.update_of_ne (Nat.ne_of_lt hlt), h.collects.packet j hlt, htext]
    · rw [hlen, Function.update_self, List.getD_eq_getElem?_getD,
        List.getElem?_eq_none (Nat.le_refl _), Option.getD_none]
  rw [parseBluetoothPacket_eq hbuffer, h.startTimeUs_eq hb, record, leftover_map, htext]
  cases hopen : pending isTerminator r.taken with
  | nil => rfl
  | cons c cs => rfl

/-- The reference, with one more byte taken out. -/
def Reference.take (r : Reference) (b : Stamped) : Reference :=
  { r with
    taken := r.taken ++ [b]
    unread := (completed r.taken [b]).getLast?.or r.unread }

/-- The fields the main loop leaves alone. -/
theorem Reflects.of_collects (h : Reflects s g r) {t : Bluetooth}
    (hring : t.rxQueue = s.rxQueue) (hstamps : t.headerTimestampUs = s.headerTimestampUs)
    (hpre : t.rxPreByte = s.rxPreByte) (hcollects : Collects t (r.taken ++ [b]))
    (hunread : (completed r.taken [b]).getLast?.or r.unread =
      if t.dataReady then some t.latestData else none) : Reflects t g (r.take b) where
  rxQueue := hring.trans h.rxQueue
  stamps := fun i => by rw [hstamps, h.stamps]
  holds := h.holds
  rxPreByte := hpre.trans h.rxPreByte
  queue := h.queue
  collects := hcollects
  unread := hunread

/-- The buffer is empty behind a null byte. -/
theorem collects_of_end {t : Bluetooth} {taken : List Stamped} (hzero : b.1 = 0)
    (hindex : t.packetIndex = 0) (hpre : t.preByte = b.1) : Collects t (taken ++ [b]) := by
  have hend : pending isTerminator (taken ++ [b]) = [] :=
    pending_concat_of_end taken (decide_eq_true hzero)
  refine ⟨?_, fun j hj => ?_, ?_, fun c cs hc => ?_⟩
  · rw [hindex, hend]
    rfl
  · rw [hindex] at hj
    exact absurd hj (Nat.not_lt_zero j)
  · exact iff_of_true (hpre.trans hzero) hend
  · rw [hend] at hc
    cases hc

/-- The buffer with one more byte of the open text; when it is full it is begun again. -/
theorem Collects.concat {taken : List Stamped} (h : Collects s taken) (hnot : b.1 ≠ 0)
    {t : Bluetooth} (hindex : t.packetIndex =
      if bluetoothPacketMaxLen ≤ s.packetIndex + 1 then 0 else s.packetIndex + 1)
    (hpacket : t.packet = Function.update s.packet s.packetIndex b.1) (hpre : t.preByte = b.1)
    (hstart : t.packetStartTimeUs = ((pending isTerminator taken ++ [b]).headD (0, 0)).2) :
    Collects t (taken ++ [b]) := by
  have hmore : pending isTerminator (taken ++ [b]) = pending isTerminator taken ++ [b] :=
    pending_concat_of_not_end taken (decide_eq_false hnot)
  have hlen := h.packetIndex
  have hleft := leftover_concat (n := 8) (by decide) (pending isTerminator taken) b
  rw [← hlen] at hleft
  refine ⟨?_, ?_, ?_, fun c cs hc => ?_⟩
  · rw [hindex, hmore, hleft]
    by_cases hfull : bluetoothPacketMaxLen ≤ s.packetIndex + 1
    · rw [if_pos hfull, if_pos (show 8 ≤ s.packetIndex + 1 from hfull), List.length_nil]
    · rw [if_neg hfull, if_neg (show ¬ 8 ≤ s.packetIndex + 1 from hfull), List.length_append,
        ← hlen, List.length_singleton]
  · rw [hindex, hmore, hleft, hpacket]
    by_cases hfull : bluetoothPacketMaxLen ≤ s.packetIndex + 1
    · rw [if_pos hfull]
      exact fun j hj => absurd hj (Nat.not_lt_zero j)
    · rw [if_neg hfull, if_neg (show ¬ 8 ≤ s.packetIndex + 1 from hfull), List.map_append]
      intro j hj
      rcases Nat.lt_or_eq_of_le (Nat.le_of_lt_succ hj) with hlt | rfl
      · rw [Function.update_of_ne (Nat.ne_of_lt hlt), h.packet j hlt,
          List.getD_append _ _ _ _ (by rw [List.length_map, ← hlen]; exact hlt)]
      · rw [Function.update_self, List.getD_append_right _ _ _ _ (by
          rw [List.length_map, ← hlen]), List.length_map, ← hlen, Nat.sub_self]
        rfl
  · rw [hmore, hpre]
    exact iff_of_false hnot (List.append_ne_nil_of_right_ne_nil _ (List.cons_ne_nil b []))
  · rw [hstart, ← hmore, hc]
    rfl

/-- **A byte taken out** is one more byte of the stream, and what it completes is published. -/
theorem Reflects.consume (h : Reflects s g r) (hb : lookedUp s = b.2) :
    Reflects (s.consume b.1).1 g (r.take b) ∧
      (s.consume b.1).2.toList = completed r.taken [b] := by
  have hparse := h.parse_eq hb
  rcases s.consume_cases b.1 with ⟨hzero, out, hout, heq⟩ | ⟨hzero, hnone, heq⟩ | ⟨hnot, heq⟩
  · -- a command
    rw [hzero] at hout
    rw [hout, Option.map_some] at hparse
    have hnew : completed r.taken [b] = [{ out with receivedTimeUs := s.startTimeUs }] := by
      rw [completed_singleton, if_pos hzero, ← hparse, Option.toList_some]
    rw [heq, hnew]
    refine ⟨h.of_collects rfl rfl rfl (collects_of_end hzero rfl rfl) ?_, rfl⟩
    rw [hnew]
    rfl
  · -- a text that is no command
    rw [hzero] at hnone
    rw [hnone, Option.map_none] at hparse
    have hnew : completed r.taken [b] = [] := by
      rw [completed_singleton, if_pos hzero, ← hparse, Option.toList_none]
    rw [heq, hnew]
    refine ⟨h.of_collects rfl rfl rfl (collects_of_end hzero rfl rfl) ?_, rfl⟩
    rw [hnew]
    exact h.unread
  · -- one more byte of the open text
    have hnew : completed r.taken [b] = [] := by
      rw [completed_singleton, if_neg hnot]
    rw [heq, hnew]
    refine ⟨h.of_collects rfl rfl rfl (h.collects.concat hnot rfl rfl rfl
      (h.startTimeUs_eq hb)) ?_, rfl⟩
    rw [hnew]
    exact h.unread

end Consume

/-! ### Runs -/

theorem maxBytesPerCall_consume (s : Bluetooth) (byte : UInt8) :
    (s.consume byte).1.maxBytesPerCall = s.maxBytesPerCall := by
  rcases s.consume_cases byte with ⟨-, out, -, heq⟩ | ⟨-, -, heq⟩ | ⟨-, heq⟩
  · rw [heq]
  · rw [heq]
  · rw [heq]

theorem maxBytesPerCall_rxHandler (s : Bluetooth) (byte : UInt8) (timeUs : UInt64) :
    (s.rxHandler byte timeUs).maxBytesPerCall = s.maxBytesPerCall := by
  rw [Bluetooth.rxHandler]
  split <;> rfl

/-- The state after the bytes of a call, and what the call does, for at most `n` bytes. -/
theorem Reflects.processBytes {g : Ring Stamped} (n : ℕ) {s : Bluetooth} {r : Reference}
    (h : Reflects s g r) :
    ∃ g', g'.capacity = g.capacity ∧
      (Bluetooth.processBytes n s).1.maxBytesPerCall = s.maxBytesPerCall ∧
      Reflects (Bluetooth.processBytes n s).1 g' (referenceStep g.capacity n r .process).1 ∧
      (Bluetooth.processBytes n s).2 = (referenceStep g.capacity n r .process).2 := by
  -- nothing is taken out of an empty queue, and nothing by a call for no bytes
  have hnone : ∀ m, r.queue.take m = [] → r.queue.drop m = r.queue →
      referenceStep g.capacity m r .process = (r, {}) := by
    intro m htake hdrop
    simp only [referenceStep, htake, hdrop, completed_nil, List.append_nil, List.map_nil,
      List.getLast?_nil, Option.none_or]
  induction n generalizing s g r with
  | zero =>
    rw [hnone 0 List.take_zero List.drop_zero]
    exact ⟨g, rfl, rfl, h, rfl⟩
  | succ n ih =>
    cases hcontents : g.contents with
    | nil =>
      have hqueue := h.queue.trans hcontents
      have hpop : s.rxQueue.pop = none := by
        rw [h.rxQueue]
        exact Ring.pop_of_nil (by rw [Ring.contents_map, hcontents, List.map_nil])
      rw [processBytes_of_none hpop, hnone (n + 1) (by rw [hqueue, List.take_nil])
        (by rw [hqueue, List.drop_nil])]
      exact ⟨g, rfl, rfl, h, rfl⟩
    | cons b rest =>
      have hpop : s.rxQueue.pop = some (b.1, g.advance.map Prod.fst) := by
        rw [h.rxQueue]
        exact Ring.pop_of_cons (by rw [Ring.contents_map, hcontents, List.map_cons])
      obtain ⟨hadvance, hb⟩ := h.advance hcontents
      obtain ⟨hconsume, hnew⟩ := hadvance.consume hb
      obtain ⟨g', hcap, hmax, hreflects, hout⟩ := ih hconsume (fun m htake hdrop => by
        simp only [referenceStep, htake, hdrop, completed_nil, List.append_nil, List.map_nil,
          List.getLast?_nil, Option.none_or])
      have hqueue := h.queue.trans hcontents
      rw [processBytes_of_some hpop]
      refine ⟨g', hcap, hmax.trans (maxBytesPerCall_consume _ _), ?_, ?_⟩
      · -- the bytes are taken out one after the other
        have hsame : (referenceStep g.capacity (n + 1) r .process).1 =
            (referenceStep g.advance.capacity n
              (Reference.take { r with queue := rest } b) .process).1 := by
          simp only [referenceStep, Reference.take, hqueue, List.take_succ_cons,
            List.drop_succ_cons, List.append_assoc, List.singleton_append]
          rw [← List.singleton_append (l := rest.take n), completed_append, List.getLast?_append,
            Option.or_assoc]
        rw [hsame]
        exact hreflects
      · rw [hout, hnew]
        simp only [referenceStep, Reference.take, hqueue, List.take_succ_cons, List.map_cons]
        rw [← List.singleton_append (l := rest.take n), completed_append]

/-- The module stands for a state of the reference. -/
def Shows (capacity maxBytes : ℕ) (s : Bluetooth) (r : Reference) : Prop :=
  ∃ g : Ring Stamped, g.capacity = capacity ∧ s.maxBytesPerCall = maxBytes ∧ Reflects s g r

/-- **One call** does what the reference does. -/
theorem Shows.step {capacity maxBytes : ℕ} {s : Bluetooth} {r : Reference}
    (h : Shows capacity maxBytes s r) (e : Event) :
    (step s e).2 = (referenceStep capacity maxBytes r e).2 ∧
      Shows capacity maxBytes (step s e).1 (referenceStep capacity maxBytes r e).1 := by
  obtain ⟨g, rfl, rfl, hg⟩ := h
  cases e with
  | rx byte timeUs =>
    obtain ⟨g', hcap, hreflects⟩ := hg.rxHandler s.maxBytesPerCall byte timeUs
    refine ⟨?_, g', hcap, maxBytesPerCall_rxHandler s byte timeUs, hreflects⟩
    rw [Bluetooth.step, referenceStep]
    split <;> rfl
  | process =>
    obtain ⟨g', hcap, hmax, hreflects, hout⟩ := hg.processBytes s.maxBytesPerCall
    exact ⟨hout, g', hcap, hmax, hreflects⟩
  | get =>
    have hunread := hg.unread
    rw [Bluetooth.step, getLatestData, referenceStep]
    cases hready : s.dataReady with
    | false =>
      rw [hready] at hunread
      rw [if_pos Bool.false_ne_true, hunread]
      refine ⟨rfl, g, rfl, rfl, ⟨hg.rxQueue, hg.stamps, hg.holds, hg.rxPreByte, hg.queue,
        hg.collects, ?_⟩⟩
      rw [hready]
      rfl
    | true =>
      rw [hready] at hunread
      rw [if_neg (not_not.mpr rfl), hunread]
      exact ⟨rfl, g, rfl, rfl, ⟨hg.rxQueue, hg.stamps, hg.holds, hg.rxPreByte, hg.queue,
        ⟨hg.collects.packetIndex, hg.collects.packet, hg.collects.preByte,
          hg.collects.packetStartTimeUs⟩, rfl⟩⟩

theorem shows_start (maxBytes : ℕ) {capacity : ℕ} (hcap : 0 < capacity) :
    Shows capacity maxBytes (start capacity maxBytes hcap) {} := by
  refine ⟨Ring.init (fun _ => (0, 0)) capacity hcap, rfl, rfl, ⟨rfl, fun _ => rfl,
    Ring.holds_init _ capacity hcap, rfl, (Ring.contents_init _ capacity hcap).symm, ⟨rfl,
    fun j hj => absurd hj (Nat.not_lt_zero j), iff_of_true rfl rfl, fun c cs hc => ?_⟩, rfl⟩⟩
  cases hc

/-- **Reception of commands, end to end.** In every run of received bytes, calls of
`Bluetooth_ProcessQueue` and calls of `Bluetooth_GetLatestData`, with any queue the module accepts,
every call takes the bytes out of the queue, publishes the commands and hands on the command that
the reference says; and the buffer is never written beyond its eight bytes. -/
theorem outputs_eq {capacity : ℕ} (maxBytes : ℕ)
    (hcap : 0 < capacity ∧ capacity ≤ byteQueueMaxBufSize) (events : List Event) :
    ∃ s, init capacity maxBytes = some s ∧
      Mealy.outputs step s events =
        Mealy.outputs (referenceStep capacity maxBytes) {} events ∧
      (Mealy.final step s events).packetIndex < bluetoothPacketMaxLen := by
  refine ⟨_, init_eq _ hcap, ?_, ?_⟩
  · exact Mealy.outputs_eq_of_simulation (p := fun _ => True) (fun _ _ e _ h => h.step e)
      (shows_start maxBytes hcap.1) fun _ _ => trivial
  · obtain ⟨r, g, -, -, hg⟩ :=
      Mealy.final_of_invariant (P := fun s => ∃ r, Shows capacity maxBytes s r)
        ⟨_, shows_start maxBytes hcap.1⟩ (fun _ e ⟨_, h⟩ => ⟨_, (h.step e).2⟩) events
    rw [hg.collects.packetIndex, length_leftover]
    exact Nat.mod_lt _ (by decide)

/-- Bytes, each at its time in microseconds, and a call of `Bluetooth_ProcessQueue` after each. -/
def arriving (bytes : List (UInt8 × UInt64)) : List Event :=
  bytes.flatMap fun b => [.rx b.1 b.2, .process]

/-- A command to park behind a line end, in a queue that holds a single byte. -/
theorem outputs_eq_park :
    ∃ s, init 2 1 = some s ∧
      Mealy.outputs step s (arriving [(10, 5), (80, 7), (0, 9)] ++ [.get]) =
        Mealy.outputs (referenceStep 2 1) {} (arriving [(10, 5), (80, 7), (0, 9)] ++ [.get]) ∧
      (Mealy.final step s (arriving [(10, 5), (80, 7), (0, 9)] ++ [.get])).packetIndex <
        bluetoothPacketMaxLen :=
  outputs_eq 1 (by decide) _

/-- What is fetched then: the command, with the time of its first byte. -/
example : (Mealy.outputs (referenceStep 2 1) {}
    (arriving [(10, 5), (80, 7), (0, 9)] ++ [.get])).getLast?.bind Output.fetched =
      some ⟨.park, 0, 0, 7⟩ := by
  decide +kernel

end Bluetooth

end Ecu

end VehicleStack
