import Mathlib.Tactic.NormNum
import Mathlib.Tactic.Linarith
import VehicleStack.Lib.BigEndian
import VehicleStack.Lib.Framing
import VehicleStack.Ecu.ToF

/-!
# What the time-of-flight module publishes

The reference parser: of the bytes taken out of the queue, skip those before a
header, take the header and the fifteen bytes behind it for a packet, and accept it
if its last byte is the sum of the others (`VehicleStack.Ecu.ToF.packets`). Its
bytes carry the times they arrived at (`VehicleStack.Ecu.ToF.Stamped`), and it reads
them from a queue that is a plain list, which drops its oldest byte when it is full
(`VehicleStack.Ecu.ToF.fifoStep`).

`VehicleStack.Ecu.ToF.published_eq` says that the module publishes exactly these
packets, as records with the fields where they belong and with the time at which
the packet's own header byte arrived, in every interleaving of received bytes and
calls of `ToF_ProcessQueue`. The invariant compares the module with the same module
over a queue of stamped bytes: a cell of the queue that holds a header byte has that
byte's time beside it, whether the byte is still to be taken out or not.
-/

namespace VehicleStack

namespace Ecu

namespace ToF

open Framing

/-! ### The reference -/

/-- A byte and the time it arrived at. -/
abbrev Stamped : Type := UInt8 × UInt64

/-- A queue of at most `capacity - 1` bytes, as a list. -/
def fifoStep (capacity maxBytes : ℕ) (q : List Stamped) : Event → List Stamped × List Stamped
  | .rx byte timeUs => ((q ++ [(byte, timeUs)]).rtake (capacity - 1), [])
  | .process => (q.drop maxBytes, q.take maxBytes)

/-- The bytes taken out of the queue in a run, with their times. -/
def stream (capacity maxBytes : ℕ) (events : List Event) : List Stamped :=
  (Mealy.outputs (fifoStep capacity maxBytes) [] events).flatten

/-- A header byte. -/
def IsHeader (b : Stamped) : Prop := b.1 = 0x57

instance : DecidablePred IsHeader := fun b => inferInstanceAs (Decidable (b.1 = 0x57))

/-- The last byte of a packet is the sum of the fifteen bytes before it. -/
def Accepted (packet : List Stamped) : Prop :=
  ((packet.take 15).map fun b => b.1.toNat).sum % 256 = ((packet.map Prod.fst).getD 15 0).toNat

instance : DecidablePred Accepted := fun _ => inferInstanceAs (Decidable (_ = _))

/-- The packets of a stream of bytes. -/
def packets (s : List Stamped) : List (List Stamped) := (frames IsHeader 15 s).filter Accepted

/-- The number some bytes spell, least significant first. -/
def ofLittleEndian (bs : List UInt8) : ℕ := BigEndian.ofBytes bs.reverse

/-- The signed distance in millimetres: three bytes, least significant first. -/
def distanceMm (packet : List UInt8) : ℤ :=
  Int.bmod (ofLittleEndian [packet.getD 8 0, packet.getD 9 0, packet.getD 10 0]) (2 ^ 24)

/-- The record of a packet. -/
def record (packet : List Stamped) : ToFData :=
  let bytes := packet.map Prod.fst
  { id := bytes.getD 3 0
    systemTimeMs := UInt32.ofNat
      (ofLittleEndian [bytes.getD 4 0, bytes.getD 5 0, bytes.getD 6 0, bytes.getD 7 0])
    distanceM := distanceM (distanceMm bytes)
    distanceStatus := bytes.getD 11 0
    signalStrength := UInt16.ofNat (ofLittleEndian [bytes.getD 12 0, bytes.getD 13 0])
    receivedTimeUs := (packet.headD (0, 0)).2 }

/-! ### The fields of a record -/

/-- A number below a power of two and a multiple of that power do not overlap. -/
theorem or_shiftLeft {a k : ℕ} (h : a < 2 ^ k) (b : ℕ) : a ||| b <<< k = a + b * 2 ^ k := by
  rw [Nat.or_comm, ← Nat.shiftLeft_add_eq_or_of_lt h, Nat.shiftLeft_eq, Nat.add_comm]

theorem ofLittleEndian_four (a b c d : UInt8) : ofLittleEndian [a, b, c, d] =
    a.toNat + b.toNat * 2 ^ 8 + c.toNat * 2 ^ 16 + d.toNat * 2 ^ 24 := by
  simp only [ofLittleEndian, BigEndian.ofBytes, List.reverse_cons, List.reverse_nil,
    List.nil_append, List.cons_append, List.foldl_cons, List.foldl_nil]
  omega

theorem ofLittleEndian_three (a b c : UInt8) : ofLittleEndian [a, b, c] =
    a.toNat + b.toNat * 2 ^ 8 + c.toNat * 2 ^ 16 := by
  simp only [ofLittleEndian, BigEndian.ofBytes, List.reverse_cons, List.reverse_nil,
    List.nil_append, List.cons_append, List.foldl_cons, List.foldl_nil]
  omega

theorem ofLittleEndian_two (a b : UInt8) :
    ofLittleEndian [a, b] = a.toNat + b.toNat * 2 ^ 8 := by
  simp only [ofLittleEndian, BigEndian.ofBytes, List.reverse_cons, List.reverse_nil,
    List.nil_append, List.cons_append, List.foldl_cons, List.foldl_nil]
  omega

/-- Four bytes shifted and ored together. -/
theorem toNat_or_four (a b c d : UInt8) :
    (a.toUInt32 ||| (b.toUInt32 <<< 8) ||| (c.toUInt32 <<< 16) ||| (d.toUInt32 <<< 24)).toNat =
      ofLittleEndian [a, b, c, d] := by
  have ha := a.toNat_lt
  have hb := b.toNat_lt
  have hc := c.toNat_lt
  have hd := d.toNat_lt
  have hshift : ∀ (x : UInt8) (k : ℕ), k ≤ 24 →
      x.toNat <<< (k % 32) % 2 ^ 32 = x.toNat <<< k := by
    intro x k hk
    have hx := x.toNat_lt
    rw [Nat.mod_eq_of_lt (show k < 32 by omega), Nat.shiftLeft_eq, Nat.mod_eq_of_lt]
    calc x.toNat * 2 ^ k < 2 ^ 8 * 2 ^ k := Nat.mul_lt_mul_of_pos_right hx (Nat.two_pow_pos k)
      _ ≤ 2 ^ 8 * 2 ^ 24 := Nat.mul_le_mul_left _ (Nat.pow_le_pow_right (by decide) hk)
      _ = 2 ^ 32 := by norm_num
  rw [ofLittleEndian_four]
  simp only [UInt32.toNat_or, UInt32.toNat_shiftLeft, UInt8.toNat_toUInt32]
  change a.toNat ||| b.toNat <<< (8 % 32) % 2 ^ 32 ||| c.toNat <<< (16 % 32) % 2 ^ 32 |||
    d.toNat <<< (24 % 32) % 2 ^ 32 = _
  have htwo : a.toNat + b.toNat * 2 ^ 8 < 2 ^ 16 := by omega
  have hthree : a.toNat + b.toNat * 2 ^ 8 + c.toNat * 2 ^ 16 < 2 ^ 24 := by omega
  rw [hshift b 8 (by decide), hshift c 16 (by decide), hshift d 24 (by decide),
    or_shiftLeft ha, or_shiftLeft htwo, or_shiftLeft hthree]

theorem toNat_or_two (a b : UInt8) :
    (a.toUInt16 ||| (b.toUInt16 <<< 8)).toNat = ofLittleEndian [a, b] := by
  have ha := a.toNat_lt
  have hb := b.toNat_lt
  rw [ofLittleEndian_two]
  simp only [UInt16.toNat_or, UInt16.toNat_shiftLeft, UInt8.toNat_toUInt16]
  change a.toNat ||| b.toNat <<< (8 % 16) % 2 ^ 16 = _
  have hsmall : b.toNat <<< (8 % 16) % 2 ^ 16 = b.toNat <<< 8 := by
    rw [show (8 % 16 : ℕ) = 8 from rfl, Nat.shiftLeft_eq, Nat.mod_eq_of_lt (by omega)]
  rw [hsmall, or_shiftLeft ha]

theorem toInt_toInt32 (x : UInt32) : x.toInt32.toInt = Int.bmod x.toNat (2 ^ 32) :=
  BitVec.toInt_eq_toNat_bmod x.toBitVec

/-- The upper three bytes of a word, as a signed number, are 256 times what they are
by themselves. -/
theorem toInt_upper (x : UInt32) (n : ℕ) (h : x.toNat = 256 * n) :
    x.toInt32.toInt = 256 * Int.bmod n (2 ^ 24) := by
  rw [toInt_toInt32, h, Int.bmod_def, Int.bmod_def]
  omega

/-- Three bytes shifted up by one and ored together. -/
theorem toNat_or_upper (b c d : UInt8) :
    ((b.toUInt32 <<< 8) ||| (c.toUInt32 <<< 16) ||| (d.toUInt32 <<< 24)).toNat =
      256 * ofLittleEndian [b, c, d] := by
  have hfour := toNat_or_four 0 b c d
  have hzero : (0 : UInt8).toUInt32 ||| (b.toUInt32 <<< 8) = b.toUInt32 <<< 8 := by simp
  rw [hzero, ofLittleEndian_four, UInt8.toNat_zero] at hfour
  rw [hfour, ofLittleEndian_three]
  omega

/-- **The distance is sign-extended** by the shift up and the division down. -/
theorem distRaw_eq (packet : List UInt8) : distRaw packet = distanceMm packet :=
  calc distRaw packet
    _ = (256 * distanceMm packet).tdiv 256 :=
      congrArg (fun z : ℤ => z.tdiv 256) (toInt_upper _ _ (toNat_or_upper _ _ _))
    _ = distanceMm packet := Int.mul_tdiv_cancel_left _ (by decide)

/-- The checksum, computed in bytes. -/
theorem foldl_add_toNat (bs : List UInt8) (a : UInt8) :
    (bs.foldl (· + ·) a).toNat = (a.toNat + (bs.map UInt8.toNat).sum) % 256 := by
  induction bs generalizing a with
  | nil => exact (Nat.mod_eq_of_lt a.toNat_lt).symm
  | cons b bs ih =>
    rw [List.foldl_cons, ih, List.map_cons, List.sum_cons, UInt8.toNat_add]
    omega

theorem verifyCheckSum_iff (packet : List Stamped) :
    verifyCheckSum (packet.map Prod.fst) = true ↔ Accepted packet := by
  have hsum : ((packet.map Prod.fst).take 15).map UInt8.toNat =
      (packet.take 15).map fun b => b.1.toNat := by
    rw [← List.map_take, List.map_map]
    rfl
  rw [verifyCheckSum, decide_eq_true_iff, ← UInt8.toNat_inj, foldl_add_toNat, UInt8.toNat_zero,
    Nat.zero_add, Accepted]
  change ((((packet.map Prod.fst).take 15).map UInt8.toNat).sum % 256 = _) ↔ _
  rw [hsum]
  rfl

/-- **What `parseToFPacket` makes of a packet** that begins with a header: its
record, if the packet is accepted. -/
theorem parseToFPacket_eq {b : Stamped} (bs : List Stamped) (h : IsHeader b) (out : ToFData) :
    (parseToFPacket ((b :: bs).map Prod.fst) out).map
        (fun d => { d with receivedTimeUs := b.2 }) =
      if Accepted (b :: bs) then some (record (b :: bs)) else none := by
  have hheader : ¬ ((b :: bs).map Prod.fst).getD 0 0 ≠ tofPacketHeader := not_not.mpr h
  rw [parseToFPacket, if_neg hheader]
  by_cases hok : Accepted (b :: bs)
  · rw [if_neg (not_not.mpr ((verifyCheckSum_iff _).mpr hok)), if_pos hok, Option.map_some,
      record, distRaw_eq, ← toNat_or_four, ← toNat_or_two, UInt32.ofNat_toNat, UInt16.ofNat_toNat]
    rfl
  · rw [if_pos (fun h => hok ((verifyCheckSum_iff _).mp h)), if_neg hok]
    rfl

/-! ### The invariant -/

/-- The module stands for a queue of stamped bytes, of which `seen` have been taken
out. -/
structure Reflects (s : ToF) (g : Ring Stamped) (seen : List Stamped) : Prop where
  rxQueue : s.rxQueue = g.map Prod.fst
  stamp : ∀ i, IsHeader (g.buffer i) → s.headerTimestampUs i = (g.buffer i).2
  packet : s.packet = (pending IsHeader 15 seen).map Prod.fst
  packetStartTimeUs : ∀ b bs, pending IsHeader 15 seen = b :: bs → s.packetStartTimeUs = b.2

/-- **A byte received** is stamped with its time. -/
theorem Reflects.rxHandler {s : ToF} {g : Ring Stamped} {seen : List Stamped}
    (h : Reflects s g seen) (byte : UInt8) (timeUs : UInt64) :
    Reflects (s.rxHandler byte timeUs) (g.push (byte, timeUs)) seen where
  rxQueue := by
    rw [Ring.map_push, ← h.rxQueue]
    rfl
  stamp := by
    intro i hi
    have htail : s.rxQueue.tail = g.tail := by
      rw [h.rxQueue]
      rfl
    change IsHeader (Function.update g.buffer g.tail (byte, timeUs) i) at hi
    change (if byte = tofPacketHeader then _ else s.headerTimestampUs) i =
      (Function.update g.buffer g.tail (byte, timeUs) i).2
    rw [htail]
    by_cases heq : i = g.tail
    · subst heq
      rw [Function.update_self] at hi ⊢
      rw [if_pos (show byte = tofPacketHeader from hi), Function.update_self]
    · rw [Function.update_of_ne heq] at hi ⊢
      rw [← h.stamp i hi]
      split
      · rw [Function.update_of_ne heq]
      · rfl
  packet := h.packet
  packetStartTimeUs := h.packetStartTimeUs

/-- What a byte taken out of the queue comes to: it is one more byte of the stream for the
reference, and a packet it completes is published as its record. -/
structure Consumes (s : ToF) (g : Ring Stamped) (seen : List Stamped) (b : Stamped) : Prop where
  reflects : Reflects (ToF.consume { s with rxQueue := g.advance.map Prod.fst } b.1).1 g.advance
    (seen ++ [b])
  published : (ToF.consume { s with rxQueue := g.advance.map Prod.fst } b.1).2.toList =
    ((feed IsHeader 15 (pending IsHeader 15 seen) b).2.toList.filter Accepted).map record

section Consume

variable {s : ToF} {g : Ring Stamped} {seen : List Stamped} {b : Stamped}

/-- A byte that comes while no packet has begun. -/
theorem Reflects.consume_idle (h : Reflects s g seen) (hb : g.buffer g.head = b)
    (hnil : pending IsHeader 15 seen = []) : Consumes s g seen b := by
  have hseen : pending IsHeader 15 (seen ++ [b]) = _ := pending_concat (by decide) seen b
  have hpacket := h.packet
  rw [hnil, List.map_nil] at hpacket
  rw [hnil, feed, if_pos rfl] at hseen
  by_cases hb' : IsHeader b
  · rw [if_pos hb'] at hseen
    have hstart : s.headerTimestampUs ((g.advance.head + g.advance.capacity - 1) %
        g.advance.capacity) = b.2 := by
      rw [g.head_of_advance, h.stamp g.head (hb.symm ▸ hb'), hb]
    constructor
    · rw [ToF.consume, if_pos hpacket, if_pos (show b.1 = tofPacketHeader from hb')]
      refine ⟨rfl, h.stamp, by rw [hseen]; rfl, ?_⟩
      intro c cs hc
      rw [hseen] at hc
      obtain ⟨rfl, -⟩ := List.cons.inj hc
      exact hstart
    · rw [ToF.consume, if_pos hpacket, if_pos (show b.1 = tofPacketHeader from hb'), hnil, feed,
        if_pos rfl, if_pos hb']
      rfl
  · rw [if_neg hb'] at hseen
    constructor
    · rw [ToF.consume, if_pos hpacket, if_neg (show ¬ b.1 = tofPacketHeader from hb')]
      refine ⟨rfl, h.stamp, by rw [hseen]; exact hpacket, ?_⟩
      intro c cs hc
      cases hseen.symm.trans hc
    · rw [ToF.consume, if_pos hpacket, if_neg (show ¬ b.1 = tofPacketHeader from hb'), hnil, feed,
        if_pos rfl, if_neg hb']
      rfl

section Packet

variable {x : Stamped} {xs : List Stamped}

/-- The bytes of the packet that has begun, with one more. -/
theorem Reflects.packet_concat (h : Reflects s g seen)
    (hx : pending IsHeader 15 seen = x :: xs) (b : Stamped) :
    s.packet ++ [b.1] = (x :: (xs ++ [b])).map Prod.fst := by
  rw [h.packet, hx, List.map_cons, List.map_cons, List.map_append]
  rfl

theorem Reflects.packet_ne_nil (h : Reflects s g seen)
    (hx : pending IsHeader 15 seen = x :: xs) : s.packet ≠ [] := by
  rw [h.packet, hx]
  exact List.cons_ne_nil _ _

/-- A byte of a packet, but not the last. -/
theorem Reflects.consume_more (h : Reflects s g seen) (hx : pending IsHeader 15 seen = x :: xs)
    (hmore : (xs ++ [b]).length < 15) : Consumes s g seen b := by
  have hseen : pending IsHeader 15 (seen ++ [b]) = _ := pending_concat (by decide) seen b
  have hincomplete : ¬ tofPacketLength ≤ (s.packet ++ [b.1]).length := by
    rw [h.packet_concat hx, List.length_map, List.length_cons, tofPacketLength]
    omega
  rw [hx, feed_cons, if_pos hmore] at hseen
  constructor
  · rw [ToF.consume, if_neg (h.packet_ne_nil hx)]
    simp only [if_neg hincomplete]
    refine ⟨rfl, h.stamp, by rw [hseen, ← h.packet_concat hx], ?_⟩
    intro c cs hc
    rw [hseen] at hc
    obtain ⟨rfl, -⟩ := List.cons.inj hc
    exact h.packetStartTimeUs x xs hx
  · rw [ToF.consume, if_neg (h.packet_ne_nil hx), hx, feed_cons, if_pos hmore]
    simp only [if_neg hincomplete]
    rfl

/-- The last byte of a packet. -/
theorem Reflects.consume_last (h : Reflects s g seen) (hx : pending IsHeader 15 seen = x :: xs)
    (hhead : IsHeader x) (hlast : ¬ (xs ++ [b]).length < 15) :
    Consumes s g seen b := by
  have hseen : pending IsHeader 15 (seen ++ [b]) = _ := pending_concat (by decide) seen b
  have hall := h.packet_concat hx b
  have hcomplete : tofPacketLength ≤ (s.packet ++ [b.1]).length := by
    rw [hall, List.length_map, List.length_cons, tofPacketLength]
    omega
  have hparse := parseToFPacket_eq (xs ++ [b]) hhead s.latestData
  rw [← hall] at hparse
  rw [hx, feed_cons, if_neg hlast] at hseen
  -- whether the packet is good or not, the next one begins
  have hdone : ∀ t : ToF, t.rxQueue = g.advance.map Prod.fst →
      t.headerTimestampUs = s.headerTimestampUs → t.packet = [] →
      Reflects t g.advance (seen ++ [b]) := by
    intro t hq hts hp
    exact ⟨hq, fun i hi => hts ▸ h.stamp i hi, by rw [hp, hseen]; rfl,
      fun c cs hc => by cases hseen.symm.trans hc⟩
  cases hout : parseToFPacket (s.packet ++ [b.1]) s.latestData with
  | none =>
    rw [hout, Option.map_none] at hparse
    have hbad : ¬ Accepted (x :: (xs ++ [b])) := fun hok => by
      rw [if_pos hok] at hparse
      cases hparse
    constructor
    · rw [ToF.consume, if_neg (h.packet_ne_nil hx)]
      simp only [if_pos hcomplete, hout]
      exact hdone _ rfl rfl rfl
    · rw [ToF.consume, if_neg (h.packet_ne_nil hx), hx, feed_cons, if_neg hlast]
      simp only [if_pos hcomplete, hout]
      rw [Option.toList_some, List.filter_cons, if_neg (fun hok => hbad (of_decide_eq_true hok))]
      rfl
  | some out =>
    rw [hout, Option.map_some] at hparse
    have hok : Accepted (x :: (xs ++ [b])) := by
      by_contra hbad
      rw [if_neg hbad] at hparse
      cases hparse
    rw [if_pos hok, Option.some_inj] at hparse
    constructor
    · rw [ToF.consume, if_neg (h.packet_ne_nil hx)]
      simp only [if_pos hcomplete, hout]
      exact hdone _ rfl rfl rfl
    · rw [ToF.consume, if_neg (h.packet_ne_nil hx), hx, feed_cons, if_neg hlast]
      simp only [if_pos hcomplete, hout]
      rw [Option.toList_some, Option.toList_some, List.filter_cons, if_pos (decide_eq_true hok),
        h.packetStartTimeUs x xs hx, hparse]
      rfl

end Packet

/-- **A byte taken out of the queue** is one more byte of the stream for the
reference, and a packet it completes is published as its record. -/
theorem Reflects.consume (h : Reflects s g seen) (hb : g.buffer g.head = b) :
    Consumes s g seen b := by
  rcases pending_eq_nil_or IsHeader 15 seen with hnil | ⟨x, xs, hx, hhead, -⟩
  · exact h.consume_idle hb hnil
  · by_cases hmore : (xs ++ [b]).length < 15
    · exact h.consume_more hx hmore
    · exact h.consume_last hx hhead hmore

end Consume

theorem packets_concat (seen : List Stamped) (b : Stamped) :
    packets (seen ++ [b]) =
      packets seen ++ (feed IsHeader 15 (pending IsHeader 15 seen) b).2.toList.filter Accepted := by
  rw [packets, frames_concat (by decide), List.filter_append]
  rfl

/-- **One call of `ToF_ProcessQueue`**, for up to `n` bytes: it takes the first `n`
bytes out of the queue, and publishes the packets they complete. -/
theorem Reflects.processBytes (n : ℕ) {s : ToF} {g : Ring Stamped} {seen : List Stamped}
    (h : Reflects s g seen) :
    ∃ g', Reflects (s.processBytes n).1 g' (seen ++ g.contents.take n) ∧
      g'.contents = g.contents.drop n ∧ g'.capacity = g.capacity ∧
      (s.processBytes n).1.maxBytesPerCall = s.maxBytesPerCall ∧
      (s.processBytes n).2.popped = (g.contents.take n).map Prod.fst ∧
      (packets (seen ++ g.contents.take n)).map record =
        (packets seen).map record ++ (s.processBytes n).2.published := by
  induction n generalizing s g seen with
  | zero =>
    rw [List.take_zero, List.append_nil]
    exact ⟨g, h, rfl, rfl, rfl, rfl, (List.append_nil _).symm⟩
  | succ n ih =>
    cases hq : g.contents with
    | nil =>
      have hnone : s.rxQueue.pop = none := by
        rw [h.rxQueue]
        exact Ring.pop_of_nil (by rw [Ring.contents_map, hq, List.map_nil])
      rw [processBytes_of_none hnone, List.take_nil, List.append_nil]
      exact ⟨g, h, hq, rfl, rfl, rfl, (List.append_nil _).symm⟩
    | cons b bs =>
      obtain ⟨hrest, hcell⟩ := Ring.contents_advance hq
      have hpop : s.rxQueue.pop = some (b.1, g.advance.map Prod.fst) := by
        rw [h.rxQueue]
        exact Ring.pop_of_cons (by rw [Ring.contents_map, hq, List.map_cons])
      obtain ⟨hconsume, hout⟩ := h.consume hcell
      have hmax := maxBytesPerCall_consume { s with rxQueue := g.advance.map Prod.fst } b.1
      obtain ⟨g', hg', hcontents, hcap, hlimit, hpopped, hpublished⟩ := ih hconsume
      rw [hrest] at hg' hcontents hpopped hpublished
      have hstream : seen ++ (b :: bs).take (n + 1) = seen ++ [b] ++ bs.take n := by
        rw [List.take_succ_cons, List.append_assoc]
        rfl
      rw [processBytes_of_some hpop, hstream]
      refine ⟨g', hg', by rw [hcontents, List.drop_succ_cons], hcap, hlimit.trans hmax, ?_, ?_⟩
      · rw [List.take_succ_cons, List.map_cons, hpopped]
      · rw [hpublished, packets_concat, List.map_append, ← hout, List.append_assoc]

/-! ### Runs -/

theorem stream_concat (capacity maxBytes : ℕ) (events : List Event) (e : Event) :
    stream capacity maxBytes (events ++ [e]) = stream capacity maxBytes events ++
      (fifoStep capacity maxBytes (Mealy.final (fifoStep capacity maxBytes) [] events) e).2 := by
  rw [stream, Mealy.outputs_concat, List.flatten_append, List.flatten_singleton]
  rfl

theorem popped_concat (s : ToF) (events : List Event) (e : Event) :
    popped s (events ++ [e]) =
      popped s events ++ (step (Mealy.final step s events) e).2.popped := by
  rw [popped, Mealy.outputs_concat, List.flatMap_append, List.flatMap_singleton]
  rfl

theorem published_concat (s : ToF) (events : List Event) (e : Event) :
    published s (events ++ [e]) =
      published s events ++ (step (Mealy.final step s events) e).2.published := by
  rw [published, Mealy.outputs_concat, List.flatMap_append, List.flatMap_singleton]
  rfl

/-- **The module stands for the list queue and the reference parser** after every
run. -/
theorem reflects_run {capacity : ℕ} (maxBytes : ℕ) (hcap : 0 < capacity) (events : List Event) :
    ∃ g, Reflects (Mealy.final step (start capacity maxBytes hcap) events) g
        (stream capacity maxBytes events) ∧
      g.contents = Mealy.final (fifoStep capacity maxBytes) [] events ∧
      g.capacity = capacity ∧
      (Mealy.final step (start capacity maxBytes hcap) events).maxBytesPerCall = maxBytes ∧
      popped (start capacity maxBytes hcap) events =
        (stream capacity maxBytes events).map Prod.fst ∧
      published (start capacity maxBytes hcap) events =
        (packets (stream capacity maxBytes events)).map record := by
  induction events using List.reverseRecOn with
  | nil =>
    refine ⟨Ring.init (fun _ => (0, 0)) capacity hcap, ⟨rfl, ?_, ?_, ?_⟩, ?_, rfl, rfl, rfl, ?_⟩
    · intro i hi
      exact absurd (show (0 : UInt8) = 0x57 from hi) (by decide)
    · rw [stream, Mealy.outputs_nil, List.flatten_nil, pending_nil]
      rfl
    · intro b bs hb
      rw [stream, Mealy.outputs_nil, List.flatten_nil, pending_nil] at hb
      cases hb
    · exact Ring.contents_init _ capacity hcap
    · rw [stream, Mealy.outputs_nil, List.flatten_nil, packets, frames_nil]
      rfl
  | append_singleton events e ih =>
    obtain ⟨g, hg, hcontents, hgcap, hmax, hpopped, hpublished⟩ := ih
    rw [Mealy.final_concat, Mealy.final_concat, stream_concat, popped_concat, published_concat,
      hpopped, hpublished, ← hcontents]
    cases e with
    | rx byte timeUs =>
      refine ⟨g.push (byte, timeUs), ?_, ?_, hgcap, hmax, ?_, ?_⟩
      · rw [show (fifoStep capacity maxBytes g.contents (.rx byte timeUs)).2 = [] from rfl,
          List.append_nil]
        exact hg.rxHandler byte timeUs
      · rw [Ring.contents_push, hgcap]
        rfl
      · rw [List.map_append]
        rfl
      · rw [show (fifoStep capacity maxBytes g.contents (.rx byte timeUs)).2 = [] from rfl,
          List.append_nil]
        exact List.append_nil _
    | process =>
      obtain ⟨g', hg', hcontents', hgcap', hmax', hpopped', hpublished'⟩ :=
        hg.processBytes maxBytes
      have hcall : step (Mealy.final step (start capacity maxBytes hcap) events) .process =
          processBytes maxBytes (Mealy.final step (start capacity maxBytes hcap) events) := by
        rw [step, processQueue, hmax]
      rw [hcall]
      refine ⟨g', hg', hcontents', hgcap'.trans hgcap, hmax'.trans hmax, ?_, ?_⟩
      · rw [hpopped', List.map_append]
        rfl
      · exact hpublished'.symm

/-- **Reception of packets, end to end.** In every run of received bytes and calls of
`ToF_ProcessQueue`, with any queue the module accepts, it publishes exactly the
packets of the bytes taken out of the queue, as the reference parser finds them there
however the calls divide them up, each as its record with the time at which the
packet's own header byte arrived. -/
theorem published_eq {capacity : ℕ} (maxBytes : ℕ)
    (hcap : 0 < capacity ∧ capacity ≤ byteQueueMaxBufSize) (events : List Event) :
    ∃ s, init capacity maxBytes = some s ∧
      popped s events = (stream capacity maxBytes events).map Prod.fst ∧
      published s events = (packets (stream capacity maxBytes events)).map record := by
  obtain ⟨-, -, -, -, -, hpopped, hpublished⟩ := reflects_run maxBytes hcap.1 events
  exact ⟨_, dif_pos hcap, hpopped, hpublished⟩

/-- One packet, through a queue that holds a single byte. -/
def onePacket : List Event :=
  ((0x57 : UInt8) :: List.replicate 14 0 ++ [0x57]).flatMap fun b => [.rx b 1000, .process]

theorem published_onePacket :
    ∃ s, init 2 1 = some s ∧
      popped s onePacket = (stream 2 1 onePacket).map Prod.fst ∧
      published s onePacket = (packets (stream 2 1 onePacket)).map record :=
  published_eq 1 (by decide) onePacket

end ToF

end Ecu

end VehicleStack
