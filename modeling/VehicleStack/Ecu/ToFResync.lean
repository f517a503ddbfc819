import Mathlib.Algebra.BigOperators.Group.List.Defs
import VehicleStack.Lib.Resync
import VehicleStack.Ecu.ToFReception

/-!
# Whether the time-of-flight module finds the packets again

The module may have begun with a byte that is no header, after the start or after a
byte was lost. It collects sixteen bytes all the same, and throws them away together
when the sum is wrong, a true header among them. When whole packets come from then on,
does it ever publish one?

`VehicleStack.Ecu.ToF.resynchronises_iff` says when: always, unless a packet has begun,
and then unless every packet but the last has a byte 0x57 for it to begin with again,
none at an earlier place than the packet before. Packets of zeros do that, whose sum is
0x57 (`VehicleStack.Ecu.ToF.allZeros_never`).
-/

namespace VehicleStack

namespace Ecu

namespace ToF

open Framing

/-! ### What is published with which byte -/

/-- The bytes that the loop of `ToF_ProcessQueue` takes out of the queue, each with the record
that it publishes then. -/
def taken : ℕ → ToF → List (UInt8 × Option ToFData)
  | 0, _ => []
  | n + 1, s =>
    match s.rxQueue.pop with
    | none => []
    | some (byte, rxQueue) =>
      let consumed := consume { s with rxQueue := rxQueue } byte
      (byte, consumed.2) :: taken n consumed.1

/-- The same of a run. -/
def log (s : ToF) : List Event → List (UInt8 × Option ToFData)
  | [] => []
  | .rx byte timeUs :: events => log (s.rxHandler byte timeUs) events
  | .process :: events => taken s.maxBytesPerCall s ++ log s.processQueue.1 events

/-- A record without the time that the module puts in. -/
def untimed (d : ToFData) : ToFData := { d with receivedTimeUs := 0 }

/-- `d` is published for the packet. -/
def IsRecordOf (packet : List UInt8) (d : ToFData) : Prop :=
  parseToFPacket packet {} = some (untimed d)

/-- A packet as the sensor sends it. -/
structure WellFormed (packet : List UInt8) : Prop where
  length : packet.length = tofPacketLength
  header : packet.head? = some tofPacketHeader
  checkSum : verifyCheckSum packet = true

/-- The packet that has begun after some bytes. -/
def collected (bytes : List UInt8) : List UInt8 :=
  pending (· = tofPacketHeader) (tofPacketLength - 1) bytes

/-- Bytes put together by the header and the length. -/
abbrev collect : List UInt8 → UInt8 → List UInt8 × Option (List UInt8) :=
  feed (· = tofPacketHeader) (tofPacketLength - 1)

theorem taken_of_none {s : ToF} (h : s.rxQueue.pop = none) (n : ℕ) : taken n s = [] := by
  cases n with
  | zero => rfl
  | succ n => rw [taken, h]

theorem taken_of_some {s : ToF} {byte : UInt8} {rxQueue : Ring UInt8}
    (h : s.rxQueue.pop = some (byte, rxQueue)) (n : ℕ) :
    taken (n + 1) s = (byte, (consume { s with rxQueue := rxQueue } byte).2) ::
      taken n (consume { s with rxQueue := rxQueue } byte).1 := by
  rw [taken, h]

/-- The bytes taken out and the records published are those of the call. -/
theorem processBytes_taken (n : ℕ) (s : ToF) :
    (processBytes n s).2 =
      { popped := (taken n s).map Prod.fst, published := (taken n s).filterMap Prod.snd } := by
  induction n generalizing s with
  | zero => rfl
  | succ n ih =>
    cases hpop : s.rxQueue.pop with
    | none => rw [processBytes_of_none hpop, taken_of_none hpop]; rfl
    | some q =>
      rw [processBytes_of_some hpop, taken_of_some hpop, ih, List.map_cons]
      cases (consume { s with rxQueue := q.2 } q.1).2 <;> rfl

/-- The log of a run has the bytes taken out of the queue. -/
theorem map_fst_log (s : ToF) (events : List Event) : (log s events).map Prod.fst =
    popped s events := by
  induction events generalizing s with
  | nil => rfl
  | cons e events ih =>
    cases e with
    | rx byte timeUs => exact ih _
    | process =>
      rw [log, List.map_append, ih]
      change _ = (processBytes s.maxBytesPerCall s).2.popped ++ popped s.processQueue.1 events
      rw [processBytes_taken]

/-- The log of a run has the records that are published. -/
theorem filterMap_snd_log (s : ToF) (events : List Event) :
    (log s events).filterMap Prod.snd = published s events := by
  induction events generalizing s with
  | nil => rfl
  | cons e events ih =>
    cases e with
    | rx byte timeUs => exact ih _
    | process =>
      rw [log, List.filterMap_append, ih]
      change _ = (processBytes s.maxBytesPerCall s).2.published ++ published s.processQueue.1 events
      rw [processBytes_taken]

/-! ### The module collects frames -/

theorem parseToFPacket_untimed (packet : List UInt8) (out : ToFData) :
    (parseToFPacket packet out).map untimed = parseToFPacket packet {} := by
  rw [parseToFPacket, parseToFPacket]
  split_ifs <;> rfl

/-- **One byte taken apart** is one more byte of a frame, and a frame that is complete is
published if it is a packet. -/
theorem consume_eq (s : ToF) (byte : UInt8) :
    (s.consume byte).1.packet = (collect s.packet byte).1 ∧
      (s.consume byte).2.map untimed =
        (collect s.packet byte).2.bind (fun p => parseToFPacket p {}) := by
  rw [collect, feed, consume]
  split_ifs with hnil hheader hshort
  · -- a header begins a frame
    exact ⟨hnil ▸ rfl, rfl⟩
  · -- without one the byte is dropped
    exact ⟨hnil, rfl⟩
  · have hmore : ¬ tofPacketLength ≤ (s.packet ++ [byte]).length := by
      rw [List.length_append, List.length_singleton]
      omega
    dsimp only
    rw [if_neg hmore]
    exact ⟨rfl, rfl⟩
  · have hall : tofPacketLength ≤ (s.packet ++ [byte]).length := by
      rw [List.length_append, List.length_singleton]
      omega
    simp only [if_pos hall]
    rw [Option.bind_some, ← parseToFPacket_untimed _ s.latestData]
    split
    · rename_i out hout
      rw [hout]
      exact ⟨rfl, rfl⟩
    · rename_i hout
      rw [hout]
      exact ⟨rfl, rfl⟩

/-- The loop of one call. -/
theorem taken_eq (n : ℕ) (s : ToF) :
    (processBytes n s).1.packet =
        Mealy.final collect s.packet ((taken n s).map Prod.fst) ∧
      (taken n s).map (fun x => x.2.map untimed) =
        (Mealy.outputs collect s.packet ((taken n s).map Prod.fst)).map
          (fun f => f.bind fun p => parseToFPacket p {}) := by
  induction n generalizing s with
  | zero => exact ⟨rfl, rfl⟩
  | succ n ih =>
    cases hpop : s.rxQueue.pop with
    | none =>
      rw [processBytes_of_none hpop, taken_of_none hpop]
      exact ⟨rfl, rfl⟩
    | some popped =>
      obtain ⟨byte, rxQueue⟩ := popped
      obtain ⟨hpacket, hout⟩ := consume_eq { s with rxQueue := rxQueue } byte
      obtain ⟨hfinal, houts⟩ := ih (consume { s with rxQueue := rxQueue } byte).1
      rw [processBytes_of_some hpop, taken_of_some hpop]
      simp only [List.map_cons, Mealy.final_cons, Mealy.outputs_cons]
      rw [hfinal, houts, hout, hpacket]
      exact ⟨rfl, rfl⟩

/-- **The log of a run** is that of a receiver that puts frames together. -/
theorem log_eq (s : ToF) (events : List Event) :
    (Mealy.final step s events).packet = Mealy.final collect s.packet (popped s events) ∧
      (log s events).map (fun x => x.2.map untimed) =
        (Mealy.outputs collect s.packet (popped s events)).map
          (fun f => f.bind fun p => parseToFPacket p {}) := by
  rw [← map_fst_log]
  induction events generalizing s with
  | nil => exact ⟨rfl, rfl⟩
  | cons e events ih =>
    cases e with
    | rx byte timeUs => exact ih (s.rxHandler byte timeUs)
    | process =>
      obtain ⟨hpacket, hlog⟩ := ih s.processQueue.1
      obtain ⟨hcall, htaken⟩ := taken_eq s.maxBytesPerCall s
      rw [log, List.map_append, List.map_append, Mealy.final_append, Mealy.outputs_append,
        List.map_append, htaken, ← hcall]
      exact ⟨hpacket, congrArg _ hlog⟩

theorem packet_init {capacity maxBytes : ℕ} {s : ToF} (h : init capacity maxBytes = some s) :
    s.packet = [] := by
  rw [init] at h
  split_ifs at h
  cases h
  rfl

/-! ### Whole packets -/

theorem WellFormed.block {packet : List UInt8} (h : WellFormed packet) :
    Block (· = tofPacketHeader) (tofPacketLength - 1) packet where
  length := h.length
  header := by
    obtain ⟨b, bs, rfl⟩ : ∃ b bs, packet = b :: bs :=
      List.exists_cons_of_ne_nil fun hnil => by cases hnil ▸ h.header
    exact ⟨b, bs, rfl, Option.some_inj.mp h.header⟩

/-- **A packet is accepted** when it is collected as it was sent. -/
theorem WellFormed.parse {packet : List UInt8} (h : WellFormed packet) :
    (parseToFPacket packet {}).isSome := by
  obtain ⟨b, bs, rfl, hb⟩ := h.block.header
  have hheader : ¬ (b :: bs).getD 0 0 ≠ tofPacketHeader := not_not.mpr hb
  rw [parseToFPacket, if_neg hheader, if_neg (not_not.mpr h.checkSum)]
  rfl

theorem length_flatten_packets {packets : List (List UInt8)}
    (hpackets : ∀ p ∈ packets, WellFormed p) :
    packets.flatten.length = packets.length * tofPacketLength := by
  have hall : ∀ n ∈ packets.map List.length, n = tofPacketLength := by
    intro n hn
    obtain ⟨p, hp, rfl⟩ := List.mem_map.mp hn
    exact (hpackets p hp).length
  rw [List.length_flatten, List.sum_eq_card_nsmul _ _ hall, List.length_map]
  rfl

section Run

variable {s : ToF} {events : List Event} {old later : List UInt8} {packets : List (List UInt8)}

/-- What the log of a run has at the last byte of a packet. -/
theorem log_at (hpopped : popped s events = old ++ packets.flatten ++ later)
    (hpackets : ∀ p ∈ packets, WellFormed p) {i : ℕ} (hi : i < packets.length) :
    ((log s events)[old.length + (tofPacketLength * i + (tofPacketLength - 1))]?).map
        (fun x => x.2.map untimed) =
      ((Mealy.outputs collect (Mealy.final collect s.packet old) packets.flatten)[
        tofPacketLength * i + (tofPacketLength - 1)]?).map
          (fun f => f.bind fun p => parseToFPacket p {}) := by
  have hlen := length_flatten_packets hpackets
  have hbound : tofPacketLength * i + (tofPacketLength - 1) < packets.flatten.length := by
    rw [hlen, tofPacketLength]
    omega
  rw [← List.getElem?_map, (log_eq s events).2, List.getElem?_map, hpopped, Mealy.outputs_append,
    Mealy.outputs_append, List.getElem?_append_left, List.getElem?_append_right,
    Mealy.length_outputs, Nat.add_sub_cancel_left]
  · rw [Mealy.length_outputs]
    exact Nat.le_add_right _ _
  · rw [List.length_append, Mealy.length_outputs, Mealy.length_outputs]
    omega

/-- **A packet is published** exactly if the module finds it in the bytes. -/
theorem publishes_iff (hpopped : popped s events = old ++ packets.flatten ++ later)
    (hpackets : ∀ p ∈ packets, WellFormed p)
    (hlen : (Mealy.final collect s.packet old).length ≤ tofPacketLength - 1) :
    (∃ i p b r, packets[i]? = some p ∧
        (log s events)[old.length + (tofPacketLength * i + (tofPacketLength - 1))]? =
          some (b, some r) ∧ IsRecordOf p r) ↔
      Finds (· = tofPacketHeader) (tofPacketLength - 1) (Mealy.final collect s.packet old)
        packets := by
  have hblocks : ∀ p ∈ packets, Block (· = tofPacketHeader) (tofPacketLength - 1) p :=
    fun p hp => (hpackets p hp).block
  constructor
  · rintro ⟨i, p, b, r, hp, hlog, hr⟩
    have hat := log_at hpopped hpackets (List.getElem?_eq_some_iff.mp hp).1
    rw [hlog, Option.map_some, Option.map_some] at hat
    obtain ⟨f, hf, hbind⟩ := Option.map_eq_some_iff.mp hat.symm
    obtain ⟨q, rfl, -⟩ := Option.bind_eq_some_iff.mp hbind
    -- a frame that ends with the packet's last byte is the packet, whatever began before it
    have hq := eq_block_of_outputs (by decide) hblocks hlen hp hf
    exact ⟨i, p, hp, hq ▸ hf⟩
  · rintro ⟨i, p, hp, hout⟩
    have hat := log_at hpopped hpackets (List.getElem?_eq_some_iff.mp hp).1
    obtain ⟨d, hd⟩ := Option.isSome_iff_exists.mp (hpackets p (List.mem_of_getElem? hp)).parse
    rw [show (Mealy.outputs collect (Mealy.final collect s.packet old) packets.flatten)[
        tofPacketLength * i + (tofPacketLength - 1)]? = some (some p) from hout, Option.map_some,
      Option.bind_some, hd] at hat
    obtain ⟨⟨b, o⟩, hlog, hmap⟩ := Option.map_eq_some_iff.mp hat
    obtain ⟨r, rfl, hr⟩ := Option.map_eq_some_iff.mp hmap
    exact ⟨i, p, b, r, hp, hlog, hd.trans (congrArg some hr.symm)⟩

end Run

/-- **Resynchronisation.** In every run of the module, whatever it took out of its queue before,
of 32 well-formed packets that it then takes out one behind the other it publishes at least one,
with the packet's last byte, exactly if it had not begun a packet before them, or not each of
the first 31 has a byte 0x57 that it takes for the beginning of the next: none at an earlier
place than in the packet before, and in the first none among the bytes that complete what had
been begun. -/
theorem resynchronises_iff {capacity maxBytes : ℕ} {s : ToF} (h : init capacity maxBytes = some s)
    {events : List Event} {old later : List UInt8} {packets : List (List UInt8)}
    (hpopped : popped s events = old ++ packets.flatten ++ later)
    (hpackets : ∀ p ∈ packets, WellFormed p) (hlen : packets.length = 32) :
    (∃ i p b r, packets[i]? = some p ∧
        (log s events)[old.length + (tofPacketLength * i + (tofPacketLength - 1))]? =
          some (b, some r) ∧ IsRecordOf p r) ↔
      collected old = [] ∨ ¬ Shadowed (· = tofPacketHeader)
        (tofPacketLength - (collected old).length) packets.dropLast := by
  have hstart := packet_init h
  have hcollected : Mealy.final collect s.packet old = collected old := by
    rw [hstart, collected, final_feed (by decide)]
  have hpacket : (Mealy.final collect s.packet old).length ≤ tofPacketLength - 1 :=
    length_final_le (by decide) (by rw [hstart]; exact Nat.zero_le _) old
  have hne : packets ≠ [] := by
    rintro rfl
    cases hlen
  rw [publishes_iff hpopped hpackets hpacket,
    finds_iff (by decide) (fun p hp => (hpackets p hp).block) hpacket, hcollected]
  exact and_iff_right hne

/-! ### A byte at a time -/

/-- Bytes that are taken out of the queue as they come. -/
def oneByOne (bytes : List UInt8) : List Event := bytes.flatMap fun b => [.rx b 0, .process]

theorem stream_oneByOne {capacity maxBytes : ℕ} (hcap : 2 ≤ capacity) (hmax : 0 < maxBytes)
    (bytes : List UInt8) :
    stream capacity maxBytes (oneByOne bytes) = bytes.map fun b => (b, 0) := by
  induction bytes with
  | nil => rfl
  | cons b bytes ih =>
    have hrx : fifoStep capacity maxBytes [] (.rx b 0) = ([(b, 0)], []) := by
      rw [fifoStep, List.nil_append, List.rtake, List.length_singleton,
        show 1 - (capacity - 1) = 0 by omega]
      rfl
    have hprocess : fifoStep capacity maxBytes [(b, 0)] .process = ([], [(b, 0)]) := by
      rw [fifoStep, List.drop_of_length_le hmax, List.take_of_length_le hmax]
    rw [oneByOne, List.flatMap_cons, stream, Mealy.outputs_append, Mealy.outputs_cons,
      Mealy.outputs_cons, Mealy.final_cons, Mealy.final_cons, hrx, hprocess, List.map_cons, ← ih]
    rfl

/-- **Every stream of bytes can be taken out of the queue.** -/
theorem popped_oneByOne {capacity maxBytes : ℕ} (hcap : 2 ≤ capacity) (hmax : 0 < maxBytes)
    {s : ToF} (h : init capacity maxBytes = some s) (bytes : List UInt8) :
    popped s (oneByOne bytes) = bytes := by
  have hcap' : 0 < capacity := by omega
  obtain rfl : start capacity maxBytes hcap' = s := by
    rw [init] at h
    split_ifs at h
    exact Option.some_inj.mp h
  obtain ⟨-, -, -, -, -, hpopped, -⟩ := reflects_run maxBytes hcap' (oneByOne bytes)
  rw [hpopped, stream_oneByOne hcap hmax, List.map_map]
  exact List.map_id bytes

/-- A packet with no second header byte in it. -/
def plainPacket : List UInt8 := 0x57 :: List.replicate 13 0 ++ [1, 0x58]

/-- A packet of zeros, but for the header and the sum. -/
def zeroPacket : List UInt8 := 0x57 :: List.replicate 14 0 ++ [0x57]

theorem resynchronises_plain : ∃ s, init 64 64 = some s ∧
    ((∃ i p b r, (List.replicate 32 plainPacket)[i]? = some p ∧
        (log s (oneByOne (0x57 :: (List.replicate 32 plainPacket).flatten)))[
          [(0x57 : UInt8)].length + (tofPacketLength * i + (tofPacketLength - 1))]? =
          some (b, some r) ∧ IsRecordOf p r) ↔
      collected [0x57] = [] ∨ ¬ Shadowed (· = tofPacketHeader)
        (tofPacketLength - (collected [0x57]).length)
        (List.replicate 32 plainPacket).dropLast) := by
  refine ⟨start 64 64 (by decide), rfl, ?_⟩
  refine @resynchronises_iff 64 64 _ rfl _ _ [] _ ?_ ?_ List.length_replicate
  · rw [@popped_oneByOne 64 64 (by decide) (by decide) _ rfl, List.append_nil]
    rfl
  · intro p hp
    rw [List.eq_of_mem_replicate hp]
    exact ⟨rfl, rfl, by decide +kernel⟩

/-- **After a stray header byte, 32 packets of zeros are never heard**: each ends in the sum
0x57, which the module takes for the beginning of the next. -/
theorem allZeros_never : ∃ s, init 64 64 = some s ∧
    popped s (oneByOne (0x57 :: (List.replicate 32 zeroPacket).flatten)) =
      [0x57] ++ (List.replicate 32 zeroPacket).flatten ∧
    (∀ p ∈ List.replicate 32 zeroPacket, WellFormed p) ∧
    published s (oneByOne (0x57 :: (List.replicate 32 zeroPacket).flatten)) = [] := by
  have hpopped := @popped_oneByOne 64 64 (by decide) (by decide) _ rfl
    (0x57 :: (List.replicate 32 zeroPacket).flatten)
  refine ⟨start 64 64 (by decide), rfl, hpopped, ?_, ?_⟩
  · intro p hp
    rw [List.eq_of_mem_replicate hp]
    exact ⟨rfl, rfl, by decide +kernel⟩
  · rw [← filterMap_snd_log, List.filterMap_eq_nil_iff]
    intro x hx
    have hlog := (log_eq (start 64 64 (by decide))
      (oneByOne (0x57 :: (List.replicate 32 zeroPacket).flatten))).2
    rw [hpopped] at hlog
    have hmem := List.mem_map_of_mem
      (f := fun x : UInt8 × Option ToFData => x.2.map untimed) hx
    rw [hlog] at hmem
    have hnone : ∀ o ∈ (Mealy.outputs collect [] (0x57 :: (List.replicate 32
        zeroPacket).flatten)).map (fun f => f.bind fun p => parseToFPacket p {}), o = none := by
      decide +kernel
    exact Option.map_eq_none_iff.mp (hnone _ hmem)

end ToF

end Ecu

end VehicleStack
