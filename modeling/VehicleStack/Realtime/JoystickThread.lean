import VehicleStack.Realtime.IpcServer
import VehicleStack.Joystick.Controller

/-!
# The joystick thread

`joystick_thread` takes a datagram for a C string up to its first line end,
parses it with `parse_raw_format` and stores a stick position or switches the
engine. `VehicleStack.Realtime.parseRawFormat_datagram` is the round trip with the
handheld controller's messages: two digits for each coordinate are written, and
two are read.
-/

namespace VehicleStack

namespace Realtime

open Joystick

/-! ### Scanning -/

/-- The value of a decimal digit. -/
def digit? (c : Char) : Option ℤ :=
  if '0' ≤ c ∧ c ≤ '9' then some ((c.toNat : ℤ) - '0'.toNat) else none

/-- The digits a conversion of `sscanf` still takes: at most `width` of them, after the
value so far. It answers the value and the rest of the text. -/
def scanDigits : ℕ → ℤ → List Char → ℤ × List Char
  | 0, acc, s => (acc, s)
  | _ + 1, acc, [] => (acc, [])
  | width + 1, acc, c :: s =>
    match digit? c with
    | some d => scanDigits width (10 * acc + d) s
    | none => (acc, c :: s)

/-- Digits, of which there has to be one. -/
def scanUnsigned : ℕ → List Char → Option (ℤ × List Char)
  | width + 1, c :: s => (digit? c).map fun d => scanDigits width d s
  | _, _ => none

/-- A conversion `%d` of `sscanf` with a field width: white space is skipped, and a sign
counts towards the width. -/
def scanInt (width : ℕ) (s : List Char) : Option (ℤ × List Char) :=
  match s.dropWhile isSpace with
  | '-' :: s => (scanUnsigned (width - 1) s).map fun (v, s) => (-v, s)
  | '+' :: s => scanUnsigned (width - 1) s
  | s => scanUnsigned width s

/-- Two conversions one after the other. -/
def scanTwo (width width' : ℕ) (s : List Char) : Option (ℤ × ℤ) := do
  let (a, s) ← scanInt width s
  let (b, _) ← scanInt width' s
  pure (a, b)

/-! ### The thread -/

/-- `parse_raw_format`: a stick position, a button, or nothing. -/
def parseRawFormat (msg : List Char) : Option Message :=
  if 5 ≤ msg.length ∧ msg.head? = some 'M' then
    ((scanTwo 2 2 msg.tail).orElse fun _ => scanTwo 3 2 msg.tail).map fun (a, b) => .motor a b
  else if 2 ≤ msg.length ∧ msg.head? = some 'P' then
    (scanInt 2 msg.tail).map fun (p, _) => .button p
  else none

/-- The C string `joystick_thread` makes of a datagram: what fits in the buffer, up to
the first line end or null. -/
def received (datagram : List Char) : List Char :=
  (datagram.take 255).takeWhile fun c => !(c = '\r' || c = '\n' || c = Char.ofNat 0)

/-- What `joystick_thread` does with a datagram. -/
def joystickThread (shared : SharedData) (datagram : List Char) (nowMs : ℕ) : SharedData :=
  match parseRawFormat (received datagram) with
  | some (.motor x y) => { shared with joy := { x := x, y := y, tsMs := nowMs } }
  | some (.button btn) => { shared with engineOn := decide (btn = 1) }
  | none => shared

/-- A datagram that is parsed is an event of the realtime process. -/
def joystickEvent (datagram : List Char) (nowMs : ℕ) : Option Event :=
  (parseRawFormat (received datagram)).map fun
    | .motor x y => .motion x y nowMs
    | .button btn => .button btn

/-- **The thread takes the step of its event**, and none for a datagram it cannot parse. -/
theorem joystickThread_event (fl : ℚ → ℚ) (s : System) (datagram : List Char) (nowMs : ℕ) :
    ((joystickEvent datagram nowMs).elim (some s) fun e => systemStep fl s e) =
      some { s with shared := joystickThread s.shared datagram nowMs } := by
  unfold joystickEvent joystickThread
  cases parseRawFormat (received datagram) with
  | none => rfl
  | some m => cases m <;> rfl

/-! ### Reading back what the controller writes -/

/-- The two digits of a number below a hundred. -/
theorem padded_eq {n : ℤ} (h0 : 0 ≤ n) (h : n < 100) :
    padded n = [Nat.digitChar (n.toNat / 10), Nat.digitChar (n.toNat % 10)] := by
  have hall : ∀ k : Fin 100, padded ((k : ℕ) : ℤ) =
      [Nat.digitChar ((k : ℕ) / 10), Nat.digitChar ((k : ℕ) % 10)] := by
    decide +kernel
  obtain ⟨k, rfl⟩ := Int.eq_ofNat_of_zero_le h0
  exact hall ⟨k, by omega⟩

theorem digit?_digitChar {k : ℕ} (h : k < 10) : digit? (Nat.digitChar k) = some (k : ℤ) := by
  have hall : ∀ k : Fin 10, digit? (Nat.digitChar k) = some ((k : ℕ) : ℤ) := by
    decide +kernel
  exact hall ⟨k, h⟩

theorem digitChar_plain {k : ℕ} (h : k < 10) :
    isSpace (Nat.digitChar k) = false ∧ Nat.digitChar k ≠ '-' ∧ Nat.digitChar k ≠ '+' ∧
      Nat.digitChar k ≠ '\r' ∧ Nat.digitChar k ≠ '\n' ∧ Nat.digitChar k ≠ Char.ofNat 0 := by
  have hall : ∀ k : Fin 10,
      isSpace (Nat.digitChar k) = false ∧ Nat.digitChar k ≠ '-' ∧ Nat.digitChar k ≠ '+' ∧
      Nat.digitChar k ≠ '\r' ∧ Nat.digitChar k ≠ '\n' ∧ Nat.digitChar k ≠ Char.ofNat 0 := by
    decide +kernel
  exact hall ⟨k, h⟩

/-- Two digits are read back whatever follows. -/
theorem scanInt_padded {n : ℤ} (h0 : 0 ≤ n) (h : n < 100) (s : List Char) :
    scanInt 2 (padded n ++ s) = some (n, s) := by
  have htens : n.toNat / 10 < 10 := by omega
  have hunits : n.toNat % 10 < 10 := by omega
  obtain ⟨hspace, hminus, hplus, -⟩ := digitChar_plain htens
  have hskip : (padded n ++ s).dropWhile isSpace =
      Nat.digitChar (n.toNat / 10) :: Nat.digitChar (n.toNat % 10) :: s := by
    rw [padded_eq h0 h, List.cons_append, List.dropWhile_cons_of_neg (by simp [hspace])]
    rfl
  unfold scanInt
  rw [hskip]
  split
  · rename_i heq
    exact absurd (List.cons.inj heq).1 hminus
  · rename_i heq
    exact absurd (List.cons.inj heq).1 hplus
  · rw [scanUnsigned, digit?_digitChar htens]
    simp only [Option.map_some, scanDigits, digit?_digitChar hunits]
    have hvalue : 10 * ((n.toNat / 10 : ℕ) : ℤ) + ((n.toNat % 10 : ℕ) : ℤ) = n := by omega
    rw [hvalue]

/-- The characters of a two-digit number end no string. -/
theorem takeWhile_padded {n : ℤ} (h0 : 0 ≤ n) (h : n < 100) (s : List Char) :
    (padded n ++ s).takeWhile (fun c => !(c = '\r' || c = '\n' || c = Char.ofNat 0)) =
      padded n ++ s.takeWhile fun c => !(c = '\r' || c = '\n' || c = Char.ofNat 0) := by
  refine List.takeWhile_append_of_pos fun c hc => ?_
  rw [padded_eq h0 h] at hc
  have hdigit : ∀ k < 10, (!(Nat.digitChar k = '\r' || Nat.digitChar k = '\n' ||
      Nat.digitChar k = Char.ofNat 0)) = true := by
    intro k hk
    obtain ⟨-, -, -, hr, hn, h0⟩ := digitChar_plain hk
    simp [hr, hn, h0]
  simp only [List.mem_cons, List.not_mem_nil, or_false] at hc
  rcases hc with rfl | rfl
  · exact hdigit _ (by omega)
  · exact hdigit _ (by omega)

/-- A message whose numbers have two digits. -/
def TwoDigits : Message → Prop
  | .button swt => 0 ≤ swt ∧ swt < 100
  | .motor vrx vry => (0 ≤ vrx ∧ vrx < 100) ∧ 0 ≤ vry ∧ vry < 100

/-- The string in a message's datagram is the message without its null. -/
theorem received_datagram {m : Message} (h : TwoDigits m) :
    received m.datagram = match m with
      | .button swt => 'P' :: padded swt
      | .motor vrx vry => 'M' :: (padded vrx ++ padded vry) := by
  have hend : [Char.ofNat 0, '\n'].takeWhile
      (fun c => !(c = '\r' || c = '\n' || c = Char.ofNat 0)) = [] := by decide
  cases m with
  | button swt =>
    have hlen : (Message.datagram (.button swt)).length ≤ 255 := by
      simp [Message.datagram, Message.text, padded_eq h.1 h.2]
    rw [received, List.take_of_length_le hlen, Message.datagram, Message.text, List.append_assoc,
      List.cons_append, List.takeWhile_cons_of_pos (by decide), takeWhile_padded h.1 h.2]
    simp only [List.singleton_append, hend, List.append_nil]
  | motor vrx vry =>
    obtain ⟨hx, hy⟩ := h
    have hlen : (Message.datagram (.motor vrx vry)).length ≤ 255 := by
      simp [Message.datagram, Message.text, padded_eq hx.1 hx.2, padded_eq hy.1 hy.2]
    rw [received, List.take_of_length_le hlen, Message.datagram, Message.text, List.append_assoc,
      List.cons_append, List.cons_append, List.append_assoc,
      List.takeWhile_cons_of_pos (by decide), takeWhile_padded hx.1 hx.2,
      takeWhile_padded hy.1 hy.2]
    simp only [List.singleton_append, hend, List.append_nil]

/-- **The thread reads back what the controller writes.** -/
theorem parseRawFormat_datagram {m : Message} (h : TwoDigits m) :
    parseRawFormat (received m.datagram) = some m := by
  rw [received_datagram h]
  cases m with
  | button swt =>
    have hscan := scanInt_padded h.1 h.2 []
    have hlen : ('P' :: padded swt).length = 3 := by
      rw [padded_eq h.1 h.2]
      rfl
    rw [List.append_nil] at hscan
    rw [parseRawFormat, if_neg (by simp [hlen]), if_pos (by simp [hlen]), List.tail_cons, hscan]
    rfl
  | motor vrx vry =>
    obtain ⟨hx, hy⟩ := h
    have hscan := scanInt_padded hx.1 hx.2 (padded vry)
    have hscan' := scanInt_padded hy.1 hy.2 []
    have hlen : ('M' :: (padded vrx ++ padded vry)).length = 5 := by
      rw [padded_eq hx.1 hx.2, padded_eq hy.1 hy.2]
      rfl
    rw [List.append_nil] at hscan'
    have htwo : scanTwo 2 2 (padded vrx ++ padded vry) = some (vrx, vry) := by
      rw [scanTwo, hscan]
      simp only [bind, Option.bind_some, hscan', pure]
    rw [parseRawFormat, if_pos (by simp [hlen]), List.tail_cons, htwo]
    rfl

end Realtime

end VehicleStack
