import Mathlib.Data.List.Infix
import VehicleStack.Lib.Utf8
import VehicleStack.Ecu.BluetoothReception
import VehicleStack.Realtime.JoystickThread

/-!
# The joystick on the serial line

The handheld controller writes its messages to a serial line as well: two digits for each number, a
null byte behind them, and a line end (`BluetoothHandler.send` of `bluetooth_reference.py`, for the
messages of `controller_reference.py`). At the other end is the Bluetooth receiver of the ECU.

A queue loses nothing as long as no more bytes come between two calls of `Bluetooth_ProcessQueue`
than the queue has room for and a call takes out (`VehicleStack.Ecu.Bluetooth.Paced`). Then what is
published is what the bytes say with the times they came at
(`VehicleStack.Ecu.Bluetooth.published_of_paced`), and for messages of the controller it is these
messages, in order, each with the time of its first byte
(`VehicleStack.Joystick.published_sendings`).
-/

namespace VehicleStack

namespace Ecu

namespace Bluetooth

open Terminated Segments

/-! ### A queue that loses nothing -/

/-- The byte an event brings. -/
def Event.received? : Event → Option Stamped
  | .rx byte timeUs => some (byte, timeUs)
  | _ => none

/-- The bytes that came, at their times. -/
def received (events : List Event) : List Stamped := events.filterMap Event.received?

/-- The bytes that are not line ends. -/
def plain (s : List Stamped) : List Stamped := s.filter fun b => b.1 ≠ 10

/-- The bytes that wait once an event is over, if none is lost. -/
def waitingAfter (n : ℕ) : Event → ℕ
  | .rx byte _ => if byte = 10 then n else n + 1
  | .process => 0
  | .get => n

/-- The bytes that came since the last call of `Bluetooth_ProcessQueue`. -/
def waiting (events : List Event) : ℕ := events.foldl waitingAfter 0

/-- At most `k` bytes come between two calls of `Bluetooth_ProcessQueue`. -/
def Paced (k : ℕ) (events : List Event) : Prop := ∀ before, before <+: events → waiting before ≤ k

theorem received_concat (events : List Event) (e : Event) :
    received (events ++ [e]) = received events ++ e.received?.toList := by
  rw [received, List.filterMap_append]
  cases h : e.received? with
  | none => rw [List.filterMap_cons_none h]; rfl
  | some b => rw [List.filterMap_cons_some h]; rfl

theorem waiting_concat (events : List Event) (e : Event) :
    waiting (events ++ [e]) = waitingAfter (waiting events) e := by
  rw [waiting, List.foldl_append]
  rfl

/-- Two texts are alike for a command: the bytes are the same, and the first one's stamp. -/
structure Alike (t u : List Stamped) : Prop where
  bytes : t.map Prod.fst = u.map Prod.fst
  head : t.headD (0, 0) = u.headD (0, 0)

theorem Alike.record_eq {t u : List Stamped} (h : Alike t u) : record t = record u := by
  rw [record, record, h.bytes, h.head]

/-- What is stamped, and what came, have the same commands so far and texts that are alike. -/
structure Agrees (stamped came : List Stamped) : Prop where
  ended : (texts isTerminator stamped).map record = (texts isTerminator came).map record
  begun : Alike (pending isTerminator stamped) (pending isTerminator came)

theorem Agrees.commands_eq {s t : List Stamped} (h : Agrees s t) : commands s = commands t := by
  have hmap : ∀ l : List (List Stamped), l.filterMap record = (l.map record).filterMap id :=
    fun l => (List.filterMap_map (f := record) (g := id)).symm
  rw [commands, commands, hmap, hmap, h.ended]

/-- A text is open exactly if the byte that arrived last does not end one. -/
theorem lastArrived_eq_zero_iff (s : List Stamped) :
    lastArrived s = 0 ↔ pending isTerminator s = [] := by
  rw [pending_eq_nil_iff, lastArrived]
  cases s.getLast? with
  | none => exact iff_of_true rfl fun b hb => by cases hb
  | some b =>
    constructor
    · intro h c hc
      rw [← Option.mem_some.mp hc]
      exact decide_eq_true h
    · exact fun h => of_decide_eq_true (h b rfl)

/-- **One more byte**: its stamp is its time if it is the first one of a text. -/
theorem Agrees.concat {s t : List Stamped} (h : Agrees s t) (capacity : ℕ) (byte : UInt8)
    (timeUs : UInt64) :
    Agrees (s ++ [(byte, stamp capacity s timeUs)]) (t ++ [(byte, timeUs)]) := by
  by_cases hend : byte = 0
  · have hs : isTerminator (byte, stamp capacity s timeUs) = true := decide_eq_true hend
    have ht : isTerminator (byte, timeUs) = true := decide_eq_true hend
    refine ⟨?_, ?_⟩
    · rw [texts_concat_of_end s hs, texts_concat_of_end t ht, List.map_append, List.map_append,
        h.ended, List.map_singleton, List.map_singleton, h.begun.record_eq]
    · rw [pending_concat_of_end s hs, pending_concat_of_end t ht]
      exact ⟨rfl, rfl⟩
  · have hs : isTerminator (byte, stamp capacity s timeUs) = false := decide_eq_false hend
    have ht : isTerminator (byte, timeUs) = false := decide_eq_false hend
    refine ⟨?_, ?_⟩
    · rw [texts_concat_of_not_end s hs, texts_concat_of_not_end t ht, h.ended]
    · rw [pending_concat_of_not_end s hs, pending_concat_of_not_end t ht]
      refine ⟨?_, ?_⟩
      · rw [List.map_append, List.map_append, h.begun.bytes]
        rfl
      · have hbytes := congrArg List.length h.begun.bytes
        have hhead := h.begun.head
        have hfirst := lastArrived_eq_zero_iff s
        cases hopen : pending isTerminator s with
        | nil =>
          -- the byte is the first one of its text
          rw [hopen, List.length_map, List.length_map, List.length_nil, eq_comm,
            List.length_eq_zero_iff] at hbytes
          rw [hbytes, stamp, if_pos (hfirst.mpr hopen)]
        | cons b bs =>
          cases hopen' : pending isTerminator t with
          | nil =>
            rw [hopen, hopen', List.length_map, List.length_map] at hbytes
            cases hbytes
          | cons c cs =>
            rw [hopen, hopen'] at hhead
            exact hhead

/-- What is known of the reference when no byte was lost. -/
structure Lossless (events : List Event) (r : Reference) (out : List BluetoothData) : Prop where
  agrees : Agrees r.arrived (plain (received events))
  arrived : r.arrived = r.taken ++ r.queue
  queue : r.queue.length = waiting events
  published : out = commands r.taken

/-- The commands the reference has published. -/
def referencePublished (capacity maxBytes : ℕ) (events : List Event) : List BluetoothData :=
  (Mealy.outputs (referenceStep capacity maxBytes) {} events).flatMap Output.published

theorem referencePublished_concat (capacity maxBytes : ℕ) (events : List Event) (e : Event) :
    referencePublished capacity maxBytes (events ++ [e]) =
      referencePublished capacity maxBytes events ++
        (referenceStep capacity maxBytes
          (Mealy.final (referenceStep capacity maxBytes) {} events) e).2.published := by
  rw [referencePublished, Mealy.outputs_concat, List.flatMap_append, List.flatMap_singleton]
  rfl

section Step

variable {capacity maxBytes k : ℕ} {events : List Event} {r : Reference} {out : List BluetoothData}

/-- A byte, for which there is room. -/
theorem Lossless.rx (h : Lossless events r out) {byte : UInt8} {timeUs : UInt64}
    (hroom : waiting (events ++ [.rx byte timeUs]) ≤ capacity - 1) :
    Lossless (events ++ [.rx byte timeUs]) (referenceStep capacity maxBytes r (.rx byte timeUs)).1
      (out ++ (referenceStep capacity maxBytes r (.rx byte timeUs)).2.published) := by
  have hcame : plain (received (events ++ [.rx byte timeUs])) =
      plain (received events) ++ plain [(byte, timeUs)] := by
    rw [received_concat, plain, List.filter_append]
    rfl
  rw [waiting_concat, waitingAfter] at hroom
  rw [referenceStep]
  by_cases hline : byte = 10
  · have hnone : plain [(byte, timeUs)] = [] := List.filter_cons_of_neg (by simp [hline])
    rw [if_pos hline]
    refine ⟨?_, h.arrived, ?_, (List.append_nil _).trans h.published⟩
    · rw [hcame, hnone, List.append_nil]
      exact h.agrees
    · rw [waiting_concat, waitingAfter, if_pos hline]
      exact h.queue
  · have hone : plain [(byte, timeUs)] = [(byte, timeUs)] :=
      List.filter_cons_of_pos (by simp [hline])
    rw [if_neg hline, ← h.queue] at hroom
    have hkept : (r.queue ++ [(byte, stamp capacity r.arrived timeUs)]).rtake (capacity - 1) =
        r.queue ++ [(byte, stamp capacity r.arrived timeUs)] := by
      have hdrop : (r.queue ++ [(byte, stamp capacity r.arrived timeUs)]).length -
          (capacity - 1) = 0 := by
        rw [List.length_append, List.length_singleton]
        omega
      rw [List.rtake, hdrop, List.drop_zero]
    rw [if_neg hline]
    refine ⟨?_, ?_, ?_, (List.append_nil _).trans h.published⟩
    · rw [hcame, hone]
      exact h.agrees.concat capacity byte timeUs
    · show r.arrived ++ _ = r.taken ++ (r.queue ++ _).rtake (capacity - 1)
      rw [hkept, h.arrived, List.append_assoc]
    · show ((r.queue ++ _).rtake (capacity - 1)).length = _
      rw [hkept, waiting_concat, waitingAfter, if_neg hline, List.length_append, h.queue,
        List.length_singleton]

/-- A call that takes out all that waits. -/
theorem Lossless.process (h : Lossless events r out) (hcall : waiting events ≤ maxBytes) :
    Lossless (events ++ [.process]) (referenceStep capacity maxBytes r .process).1
      (out ++ (referenceStep capacity maxBytes r .process).2.published) := by
  have hlen : r.queue.length ≤ maxBytes := h.queue.trans_le hcall
  have hsame : received (events ++ [.process]) = received events := by
    rw [received_concat]
    exact List.append_nil _
  rw [referenceStep]
  simp only [List.take_of_length_le hlen, List.drop_eq_nil_of_le hlen]
  refine ⟨hsame ▸ h.agrees, ?_, ?_, ?_⟩
  · rw [List.append_nil]
    exact h.arrived
  · rw [waiting_concat]
    rfl
  · rw [h.published, commands_append]

/-- Fetching a command leaves the bytes alone. -/
theorem Lossless.get (h : Lossless events r out) :
    Lossless (events ++ [.get]) (referenceStep capacity maxBytes r .get).1
      (out ++ (referenceStep capacity maxBytes r .get).2.published) := by
  have hsame : received (events ++ [.get]) = received events := by
    rw [received_concat]
    exact List.append_nil _
  refine ⟨hsame ▸ h.agrees, h.arrived, ?_, (List.append_nil _).trans h.published⟩
  rw [waiting_concat]
  exact h.queue

/-- **No byte is lost** while at most `k` bytes come between two calls. -/
theorem lossless_of_paced (hroom : k ≤ capacity - 1) (hcall : k ≤ maxBytes)
    (hpaced : Paced k events) :
    Lossless events (Mealy.final (referenceStep capacity maxBytes) {} events)
      (referencePublished capacity maxBytes events) := by
  induction events using List.reverseRecOn with
  | nil => exact ⟨⟨rfl, ⟨rfl, rfl⟩⟩, rfl, rfl, rfl⟩
  | append_singleton events e ih =>
    have hbefore : Paced k events := fun b hb => hpaced b (hb.trans (List.prefix_append _ _))
    have hafter := hpaced _ List.prefix_rfl
    rw [Mealy.final_concat, referencePublished_concat]
    cases e with
    | rx byte timeUs => exact (ih hbefore).rx (hafter.trans hroom)
    | process => exact (ih hbefore).process ((hbefore _ List.prefix_rfl).trans hcall)
    | get => exact (ih hbefore).get

end Step

/-- The commands published in a run. -/
def publishedBy (s : Bluetooth) (events : List Event) : List BluetoothData :=
  (Mealy.outputs step s events).flatMap Output.published

/-- **What a paced line says is published**, once the last bytes have been taken out, with the times
the bytes came at. -/
theorem published_of_paced {capacity maxBytes k : ℕ}
    (hcap : 0 < capacity ∧ capacity ≤ byteQueueMaxBufSize) (hroom : k ≤ capacity - 1)
    (hcall : k ≤ maxBytes) {events : List Event} (hpaced : Paced k events) :
    ∃ s, init capacity maxBytes = some s ∧
      publishedBy s (events ++ [.process]) = commands (plain (received events)) := by
  have hall : Paced k (events ++ [.process]) := by
    intro before hbefore
    rcases List.prefix_concat_iff.mp hbefore with rfl | hbefore
    · rw [waiting_concat]
      exact Nat.zero_le k
    · exact hpaced before hbefore
  obtain ⟨hagrees, harrived, hqueue, hpublished⟩ :=
    lossless_of_paced hroom hcall hall
  have hsame : received (events ++ [.process]) = received events := by
    rw [received_concat]
    exact List.append_nil _
  rw [waiting_concat] at hqueue
  rw [List.length_eq_zero_iff.mp hqueue, List.append_nil] at harrived
  refine ⟨_, init_eq _ hcap, ?_⟩
  rw [publishedBy, Mealy.outputs_eq_of_simulation (p := fun _ => True)
    (fun _ _ e _ h => h.step e) (shows_start maxBytes hcap.1) fun _ _ => trivial]
  rw [← hsame, ← hagrees.commands_eq, harrived, ← hpublished]
  rfl

end Bluetooth

end Ecu

namespace Joystick

open Ecu Ecu.Bluetooth Realtime Terminated Segments

/-! ### What the controller writes -/

/-- `(message + '\n').encode()`. -/
def Message.bytes (m : Message) : List UInt8 := m.datagram.flatMap String.utf8EncodeChar

/-- The command a message is for. -/
def Message.data (m : Message) (timeUs : UInt64) : BluetoothData :=
  match m with
  | .button _ => ⟨.park, 0, 0, timeUs⟩
  | .motor vrx vry => ⟨.move, vrx, vry, timeUs⟩

/-- A message, and the time each of its bytes comes at. -/
abbrev Sending : Type := Message × (ℕ → UInt64)

/-- The bytes of a message, at their times. -/
def Sending.stamped (a : Sending) : List Stamped := a.1.bytes.mapIdx fun i b => (b, a.2 i)

/-- The byte of a digit. -/
def digitByte (k : ℕ) : UInt8 := UInt8.ofNat (48 + k)

theorem digitByte_spec {k : ℕ} (h : k < 10) :
    String.utf8EncodeChar (Nat.digitChar k) = [digitByte k] ∧ isDigit (digitByte k) = true ∧
      digitByte k ≠ 0 ∧ digitByte k ≠ 10 ∧ (digitByte k).toNat = 48 + k := by
  have hall : ∀ k : Fin 10, String.utf8EncodeChar (Nat.digitChar k) = [digitByte k] ∧
      isDigit (digitByte k) = true ∧ digitByte k ≠ 0 ∧ digitByte k ≠ 10 ∧
      (digitByte k).toNat = 48 + (k : ℕ) := by
    decide +kernel
  exact hall ⟨k, h⟩

/-- The two digits of a number below a hundred. -/
def digitBytes (n : ℤ) : List UInt8 := [digitByte (n.toNat / 10), digitByte (n.toNat % 10)]

theorem encode_padded {n : ℤ} (h0 : 0 ≤ n) (h : n < 100) :
    (padded n).flatMap String.utf8EncodeChar = digitBytes n := by
  obtain ⟨htens, -⟩ := digitByte_spec (show n.toNat / 10 < 10 by omega)
  obtain ⟨hunits, -⟩ := digitByte_spec (show n.toNat % 10 < 10 by omega)
  rw [padded_eq h0 h, List.flatMap_cons, List.flatMap_singleton, htens, hunits]
  rfl

/-- What a message says in front of its null byte. -/
def Message.body (m : Message) : List UInt8 :=
  match m with
  | .button swt => 80 :: digitBytes swt
  | .motor vrx vry => 77 :: (digitBytes vrx ++ digitBytes vry)

theorem Message.bytes_eq {m : Message} (h : TwoDigits m) : m.bytes = m.body ++ [0, 10] := by
  have hend : [Char.ofNat 0, '\n'].flatMap String.utf8EncodeChar = [0, 10] := by decide
  cases m with
  | button swt =>
    have hbody : (Message.button swt).datagram =
        'P' :: (padded swt ++ [Char.ofNat 0, '\n']) := by
      rw [datagram, text, List.cons_append, List.cons_append, List.append_assoc]
      rfl
    rw [bytes, hbody, List.flatMap_cons, List.flatMap_append, hend, encode_padded h.1 h.2]
    rfl
  | motor vrx vry =>
    have hbody : (Message.motor vrx vry).datagram =
        'M' :: (padded vrx ++ (padded vry ++ [Char.ofNat 0, '\n'])) := by
      rw [datagram, text]
      simp only [List.cons_append, List.append_assoc, List.nil_append]
    rw [bytes, hbody, List.flatMap_cons, List.flatMap_append, List.flatMap_append, hend,
      encode_padded h.1.1 h.1.2, encode_padded h.2.1 h.2.2]
    rfl

/-- The digits of a number say the number. -/
theorem value_digitBytes {n : ℤ} (h0 : 0 ≤ n) (h : n < 100) :
    (((digitByte (n.toNat / 10)).toNat : ℤ) - 48) * 10 + ((digitByte (n.toNat % 10)).toNat - 48) =
      n := by
  obtain ⟨-, -, -, -, htens⟩ := digitByte_spec (show n.toNat / 10 < 10 by omega)
  obtain ⟨-, -, -, -, hunits⟩ := digitByte_spec (show n.toNat % 10 < 10 by omega)
  rw [htens, hunits]
  omega

/-- **The ECU reads back what the controller writes.** -/
theorem command_body {m : Message} (h : TwoDigits m) (timeUs : UInt64) :
    (command m.body).map (fun c => published c timeUs) = some (m.data timeUs) := by
  cases m with
  | button swt => rfl
  | motor vrx vry =>
    obtain ⟨hx, hy⟩ := h
    obtain ⟨-, ha, -⟩ := digitByte_spec (show vrx.toNat / 10 < 10 by omega)
    obtain ⟨-, hb, -⟩ := digitByte_spec (show vrx.toNat % 10 < 10 by omega)
    obtain ⟨-, hc, -⟩ := digitByte_spec (show vry.toNat / 10 < 10 by omega)
    obtain ⟨-, hd, -⟩ := digitByte_spec (show vry.toNat % 10 < 10 by omega)
    have hdigits : fourDigits (digitBytes vrx ++ digitBytes vry) = some (vrx, vry) := by
      rw [digitBytes, digitBytes, List.cons_append, List.singleton_append, fourDigits,
        if_pos ⟨ha, hb, hc, hd⟩, value_digitBytes hx.1 hx.2, value_digitBytes hy.1 hy.2]
    show Option.map _ (Option.map _ (fourDigits (digitBytes vrx ++ digitBytes vry))) = _
    rw [hdigits]
    rfl

/-- A message is shorter than the buffer, and no byte of it ends a text or a line. -/
theorem body_spec {m : Message} (h : TwoDigits m) :
    m.body.length < 8 ∧ ∀ b ∈ m.body, b ≠ 0 ∧ b ≠ 10 := by
  have hdigits : ∀ n : ℤ, 0 ≤ n → n < 100 → ∀ b ∈ digitBytes n, b ≠ 0 ∧ b ≠ 10 := by
    intro n h0 hn b hb
    obtain ⟨-, -, htens, htens', -⟩ := digitByte_spec (show n.toNat / 10 < 10 by omega)
    obtain ⟨-, -, hunits, hunits', -⟩ := digitByte_spec (show n.toNat % 10 < 10 by omega)
    rcases List.mem_pair.mp hb with rfl | rfl
    · exact ⟨htens, htens'⟩
    · exact ⟨hunits, hunits'⟩
  cases m with
  | button swt =>
    refine ⟨show 3 < 8 by decide, List.forall_mem_cons.mpr ⟨⟨by decide, by decide⟩, ?_⟩⟩
    exact hdigits swt h.1 h.2
  | motor vrx vry =>
    refine ⟨show 5 < 8 by decide, List.forall_mem_cons.mpr ⟨⟨by decide, by decide⟩, ?_⟩⟩
    intro b hb
    rcases List.mem_append.mp hb with hx | hy
    · exact hdigits vrx h.1.1 h.1.2 b hx
    · exact hdigits vry h.2.1 h.2.2 b hy

/-- A message's bytes with their times: the body, the null byte, and a line end that is dropped. -/
theorem plain_stamped {a : Sending} (h : TwoDigits a.1) :
    plain a.stamped =
      (a.1.body.mapIdx fun i b => (b, a.2 i)) ++ [(0, a.2 a.1.body.length)] := by
  have hbody : plain (a.1.body.mapIdx fun i b => (b, a.2 i)) =
      a.1.body.mapIdx fun i b => (b, a.2 i) := by
    refine List.filter_eq_self.mpr fun b hb => decide_eq_true ?_
    obtain ⟨i, hi, rfl⟩ := List.mem_mapIdx.mp hb
    exact ((body_spec h).2 _ (List.getElem_mem hi)).2
  rw [Sending.stamped, Message.bytes_eq h, List.mapIdx_append, plain, List.filter_append, ← plain,
    hbody]
  simp

/-- The record of a message's text. -/
theorem record_sending {a : Sending} (h : TwoDigits a.1) :
    record (plain a.stamped).dropLast = some (a.1.data (a.2 0)) := by
  have hbytes : (a.1.body.mapIdx fun i b => (b, a.2 i)).map Prod.fst = a.1.body := by
    refine List.ext_getElem? fun i => ?_
    rw [List.getElem?_map, List.getElem?_mapIdx]
    cases a.1.body[i]? <;> rfl
  have hhead : ((a.1.body.mapIdx fun i b => (b, a.2 i)).headD (0, 0)).2 = a.2 0 := by
    obtain ⟨m, times⟩ := a
    cases m with
    | button swt => rfl
    | motor vrx vry => rfl
  rw [plain_stamped h, List.dropLast_concat, record, hbytes, hhead,
    leftover_of_length_lt (body_spec h).1]
  exact command_body h _

/-- **From the joystick to the commands.** Messages of the controller come over the serial line,
each byte at a time of its own, while the main loop calls `Bluetooth_ProcessQueue` and
`Bluetooth_GetLatestData` at any time, such that no more bytes come between two calls than the
queue holds and a call takes out. Then the commands that are published, once the last bytes have
been taken out, are these messages in order, each with the time of its first byte. -/
theorem published_sendings {capacity maxBytes k : ℕ}
    (hcap : 0 < capacity ∧ capacity ≤ byteQueueMaxBufSize) (hroom : k ≤ capacity - 1)
    (hcall : k ≤ maxBytes) {sendings : List Sending} (htwo : ∀ a ∈ sendings, TwoDigits a.1)
    {events : List Bluetooth.Event} (hpaced : Paced k events)
    (hcame : received events = sendings.flatMap Sending.stamped) :
    ∃ s, Bluetooth.init capacity maxBytes = some s ∧
      publishedBy s (events ++ [.process]) = sendings.map fun a => a.1.data (a.2 0) := by
  obtain ⟨s, hs, hpublished⟩ := published_of_paced hcap hroom hcall hpaced
  refine ⟨s, hs, hpublished.trans ?_⟩
  have hplain : plain (received events) = sendings.flatMap fun a => plain a.stamped := by
    rw [hcame]
    exact List.filter_flatMap ..
  have hwrite : ∀ a ∈ sendings, ∃ t e, plain a.stamped = t ++ [e] ∧ isTerminator e = true ∧
      ∀ b ∈ t, isTerminator b = false := by
    refine fun a ha => ⟨_, _, plain_stamped (htwo a ha), rfl, fun b hb => decide_eq_false ?_⟩
    obtain ⟨i, hi, rfl⟩ := List.mem_mapIdx.mp hb
    exact ((body_spec (htwo a ha)).2 _ (List.getElem_mem hi)).1
  rw [hplain, commands, (texts_flatMap hwrite).1, List.filterMap_map, ← List.filterMap_eq_map]
  exact List.filterMap_congr fun a ha => record_sending (htwo a ha)

/-- A stick position and the button, with a call of `Bluetooth_ProcessQueue` behind each. -/
def twoSendings : List Sending :=
  [(.motor 7 93, fun i => UInt64.ofNat (100 + i)), (.button 1, fun i => UInt64.ofNat (200 + i))]

def twoSendingsRun : List Bluetooth.Event :=
  twoSendings.flatMap fun a => a.stamped.map (fun b => .rx b.1 b.2) ++ [.process]

theorem published_twoSendings :
    ∃ s, Bluetooth.init 64 6 = some s ∧
      publishedBy s (twoSendingsRun ++ [.process]) =
        twoSendings.map fun a => a.1.data (a.2 0) := by
  have htwo : ∀ a ∈ twoSendings, TwoDigits a.1 := by simp [twoSendings, TwoDigits]
  have hwaiting : (twoSendingsRun.inits.all fun before => waiting before ≤ 6) = true := by
    decide +kernel
  have hpaced : Paced 6 twoSendingsRun := fun before hbefore =>
    of_decide_eq_true (List.all_eq_true.mp hwaiting before ((List.mem_inits _ _).mpr hbefore))
  have hcame : received twoSendingsRun = twoSendings.flatMap Sending.stamped := by decide +kernel
  exact published_sendings (by decide) (by decide) (Nat.le_refl 6) htwo hpaced hcame

end Joystick

end VehicleStack
