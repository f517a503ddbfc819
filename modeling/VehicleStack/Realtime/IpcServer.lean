import Mathlib.Data.List.DropRight
import VehicleStack.Lib.Utf8
import VehicleStack.Realtime.Threads

/-!
# The IPC server

`ipc_server.cpp`: a datagram is a line of fields, of which the last `CMD`, the last
`REQ` that is a number and the last `SRC` count. What the fields ask for is done
under the mutex, and the sender is answered
(`VehicleStack.Realtime.ipcReceive`).

A datagram moves a flag only if it parses and its command is the one that sets the
flag (`VehicleStack.Realtime.obeys_ipcReceive`), so after any run of the threads the
doors are as the last such datagram left them
(`VehicleStack.Realtime.doorLocked_run`).
-/

namespace VehicleStack

namespace Realtime

open List Latch

/-! ### Parsing -/

/-- The bytes of a datagram as a C++ string. -/
def cppString (bytes : List UInt8) : List Char := bytes.map fun b => Char.ofNat b.toNat

/-- `isspace`. -/
def isSpace (c : Char) : Bool := c = ' ' ∨ '\t' ≤ c ∧ c ≤ '\r'

/-- `std::strtoull(text, &end, 10)`: the value, what `end` points at, and whether
`errno` is set. -/
def strtoull (text : List Char) : UInt64 × List Char × Bool :=
  let (negative, number) : Bool × List Char :=
    match text.dropWhile isSpace with
    | '-' :: rest => (true, rest)
    | '+' :: rest => (false, rest)
    | rest => (false, rest)
  let digits := number.takeWhile Char.isDigit
  let value := Nat.ofDigitChars 10 digits 0
  -- without a digit nothing is read at all
  if digits = [] then (0, text, false)
  else if 2 ^ 64 ≤ value then (UInt64.ofNat (2 ^ 64 - 1), number.dropWhile Char.isDigit, true)
  else (if negative then -UInt64.ofNat value else UInt64.ofNat value,
    number.dropWhile Char.isDigit, false)

/-- What `parse_message` has made of the tokens so far. -/
structure Parsed where
  cmd : String := ""
  req : UInt64 := 0
  reqFound : Bool := false
  src : String := ""

/-- One token. -/
def parseToken (p : Parsed) : List Char → Parsed
  | 'C' :: 'M' :: 'D' :: '=' :: text => { p with cmd := String.ofList (text.map Char.toUpper) }
  | 'R' :: 'E' :: 'Q' :: '=' :: text =>
    -- `c_str` ends at the first zero
    let (value, rest, overflow) := strtoull (text.takeWhile (· ≠ '\x00'))
    if !overflow ∧ rest = [] then { p with req := value, reqFound := true } else p
  | 'S' :: 'R' :: 'C' :: '=' :: text => { p with src := String.ofList text }
  | _ => p

/-- A character that ends a line. -/
def isEol (c : Char) : Bool := c = '\n' ∨ c = '\r'

/-- `parse_message`. -/
def parseMessage (msg : List Char) : Parsed :=
  ((msg.rdropWhile isEol).splitOn ';').foldl parseToken {}

/-- What `parse_message` returns. -/
def Parsed.ok (p : Parsed) : Bool := p.cmd ≠ "" ∧ p.reqFound

/-! ### A datagram -/

/-- What `ipc_thread` does under the mutex: what the reply has beside the number of the
request, or the reason for refusing it. -/
def ipcOutcome (shared : SharedData) (cmd : String) : Except String String :=
  if !shared.running then .error "stopped"
  else if cmd ∈ ["LOCK", "UNLOCK", "START", "STOP"] then .ok ""
  else if cmd = "GET_ALL" then
    .ok (";LOCKED=" ++ (if shared.doorLocked then "1" else "0") ++
      ";ENGINE=" ++ (if shared.engineOn then "1" else "0"))
  else .error "badcmd"

/-- The text of the reply. -/
def ipcResponse (req : UInt64) : Except String String → String
  | .ok extra => "OK;REQ=" ++ toString req.toNat ++ extra ++ "\n"
  | .error reason => "ERR;" ++ reason ++ ";REQ=" ++ toString req.toNat ++ "\n"

/-- The part of a datagram that is read: `buf` has room for 255 bytes. -/
def parseDatagram (datagram : List UInt8) : Parsed := parseMessage (cppString (datagram.take 255))

/-- `ipc_thread` from the arrival of a datagram on: the shared record afterwards, and
the reply. An empty datagram has none. -/
def ipcReceive (shared : SharedData) (datagram : List UInt8) : SharedData × Option (List UInt8) :=
  if datagram = [] then (shared, none)
  else
    let p := parseDatagram datagram
    if p.ok then
      (ipcCommand shared p.cmd, some (Utf8.encode (ipcResponse p.req (ipcOutcome shared p.cmd))))
    else (shared, some (Utf8.encode (ipcResponse p.req (.error "badmsg"))))

/-! ### What a datagram moves -/

/-- The value a datagram's command gives `door_locked`. -/
def Parsed.doorOrder (p : Parsed) : Option Bool :=
  if !p.ok then none
  else if p.cmd = "LOCK" then some true
  else if p.cmd = "UNLOCK" then some false
  else none

/-- The value a datagram's command gives `engine_on`. -/
def Parsed.engineOrder (p : Parsed) : Option Bool :=
  if !p.ok then none
  else if p.cmd = "START" then some true
  else if p.cmd = "STOP" then some false
  else none

@[simp]
theorem parseDatagram_nil : (parseDatagram []).ok = false := rfl

/-- What is left of the shared record after a datagram, of which no command is lost for
being empty. -/
theorem ipcReceive_fst (shared : SharedData) (datagram : List UInt8) :
    (ipcReceive shared datagram).1 =
      if (parseDatagram datagram).ok then ipcCommand shared (parseDatagram datagram).cmd
      else shared := by
  unfold ipcReceive
  split
  · rename_i hnil
    rw [hnil, parseDatagram_nil]
    rfl
  · dsimp only
    split <;> rfl

theorem running_ipcCommand (shared : SharedData) (cmd : String) :
    (ipcCommand shared cmd).running = shared.running := by
  unfold ipcCommand
  split_ifs <;> rfl

theorem running_ipcReceive (shared : SharedData) (datagram : List UInt8) :
    (ipcReceive shared datagram).1.running = shared.running := by
  rw [ipcReceive_fst]
  split
  · exact running_ipcCommand shared _
  · rfl

/-- The doors are as the datagram orders, else as they were. -/
theorem doorLocked_ipcReceive {shared : SharedData} (hrunning : shared.running = true)
    (datagram : List UInt8) : (ipcReceive shared datagram).1.doorLocked =
      (parseDatagram datagram).doorOrder.getD shared.doorLocked := by
  rw [ipcReceive_fst, Parsed.doorOrder]
  by_cases hok : (parseDatagram datagram).ok
  · rw [if_pos hok, if_neg (by simp [hok]), ipcCommand, if_neg (by simp [hrunning])]
    split_ifs <;> rfl
  · rw [if_neg hok, if_pos (by simp [hok]), Option.getD_none]

/-- The engine is as the datagram orders, else as it was. -/
theorem engineOn_ipcReceive {shared : SharedData} (hrunning : shared.running = true)
    (datagram : List UInt8) : (ipcReceive shared datagram).1.engineOn =
      (parseDatagram datagram).engineOrder.getD shared.engineOn := by
  rw [ipcReceive_fst, Parsed.engineOrder]
  by_cases hok : (parseDatagram datagram).ok
  · rw [if_pos hok, if_neg (by simp [hok]), ipcCommand, if_neg (by simp [hrunning])]
    by_cases hlock : (parseDatagram datagram).cmd = "LOCK"
    · rw [if_pos hlock, hlock]
      rfl
    · rw [if_neg hlock]
      by_cases hunlock : (parseDatagram datagram).cmd = "UNLOCK"
      · rw [if_pos hunlock, hunlock]
        rfl
      · rw [if_neg hunlock]
        split_ifs <;> rfl
  · rw [if_neg hok, if_pos (by simp [hok]), Option.getD_none]

/-- **How a datagram may move the flags**: `door_locked` only as `LOCK` and `UNLOCK`
say, `engine_on` only as `START` and `STOP` say, and nothing if it does not parse or
names another command. -/
structure Obeys (p : Parsed) (s s' : SharedData) : Prop where
  doors : s'.doorLocked ≠ s.doorLocked → p.ok ∧
    (p.cmd = "LOCK" ∧ s'.doorLocked = true ∨ p.cmd = "UNLOCK" ∧ s'.doorLocked = false)
  engine : s'.engineOn ≠ s.engineOn → p.ok ∧
    (p.cmd = "START" ∧ s'.engineOn = true ∨ p.cmd = "STOP" ∧ s'.engineOn = false)
  idle : ¬(p.ok ∧ p.cmd ∈ ["LOCK", "UNLOCK", "START", "STOP"]) →
    s'.doorLocked = s.doorLocked ∧ s'.engineOn = s.engineOn

theorem Parsed.doorOrder_eq_some {p : Parsed} {b : Bool} (h : p.doorOrder = some b) :
    p.ok ∧ (p.cmd = "LOCK" ∧ b = true ∨ p.cmd = "UNLOCK" ∧ b = false) := by
  unfold doorOrder at h
  split_ifs at h with hok hlock hunlock
  · exact ⟨by simpa using hok, Or.inl ⟨hlock, (Option.some_inj.mp h).symm⟩⟩
  · exact ⟨by simpa using hok, Or.inr ⟨hunlock, (Option.some_inj.mp h).symm⟩⟩

theorem Parsed.engineOrder_eq_some {p : Parsed} {b : Bool} (h : p.engineOrder = some b) :
    p.ok ∧ (p.cmd = "START" ∧ b = true ∨ p.cmd = "STOP" ∧ b = false) := by
  unfold engineOrder at h
  split_ifs at h with hok hstart hstop
  · exact ⟨by simpa using hok, Or.inl ⟨hstart, (Option.some_inj.mp h).symm⟩⟩
  · exact ⟨by simpa using hok, Or.inr ⟨hstop, (Option.some_inj.mp h).symm⟩⟩

theorem obeys_ipcReceive {shared : SharedData} (hrunning : shared.running = true)
    (datagram : List UInt8) :
    Obeys (parseDatagram datagram) shared (ipcReceive shared datagram).1 where
  doors := by
    intro hmoved
    rw [doorLocked_ipcReceive hrunning] at hmoved ⊢
    cases horder : (parseDatagram datagram).doorOrder with
    | none =>
      rw [horder] at hmoved
      exact absurd rfl hmoved
    | some b => exact Parsed.doorOrder_eq_some horder
  engine := by
    intro hmoved
    rw [engineOn_ipcReceive hrunning] at hmoved ⊢
    cases horder : (parseDatagram datagram).engineOrder with
    | none =>
      rw [horder] at hmoved
      exact absurd rfl hmoved
    | some b => exact Parsed.engineOrder_eq_some horder
  idle := by
    intro hother
    rw [doorLocked_ipcReceive hrunning, engineOn_ipcReceive hrunning]
    constructor
    · cases horder : (parseDatagram datagram).doorOrder with
      | none => rfl
      | some b =>
        obtain ⟨hok, ⟨hcmd, -⟩ | ⟨hcmd, -⟩⟩ := Parsed.doorOrder_eq_some horder <;>
          exact absurd ⟨hok, by rw [hcmd]; decide⟩ hother
    · cases horder : (parseDatagram datagram).engineOrder with
      | none => rfl
      | some b =>
        obtain ⟨hok, ⟨hcmd, -⟩ | ⟨hcmd, -⟩⟩ := Parsed.engineOrder_eq_some horder <;>
          exact absurd ⟨hok, by rw [hcmd]; decide⟩ hother

/-! ### Datagrams among the other threads -/

/-- What happens to the process: a datagram comes, or a thread other than `ipc_thread`
has its turn. -/
inductive Input where
  | datagram (bytes : List UInt8)
  | turn (e : Event) (other : ∀ cmd, e ≠ .ipc cmd)

/-- The commands of a datagram, as events of the threads. -/
def Input.events : Input → List Event
  | .datagram bytes => if (parseDatagram bytes).ok then [.ipc (parseDatagram bytes).cmd] else []
  | .turn e _ => [e]

/-- The process with its datagrams. -/
def serve (fl : ℚ → ℚ) (s : System) : Input → Option System
  | .datagram bytes => some { s with shared := (ipcReceive s.shared bytes).1 }
  | .turn e _ => systemStep fl s e

/-- A datagram is its command, if it has one. -/
theorem serve_eq_run (fl : ℚ → ℚ) (s : System) (i : Input) :
    serve fl s i = Run.run (systemStep fl) s i.events := by
  cases i with
  | datagram bytes =>
    rw [serve, ipcReceive_fst, Input.events]
    split <;> rfl
  | turn e other => exact (Option.bind_fun_some (systemStep fl s e)).symm

/-- **The process with datagrams is the threads with commands.** -/
theorem run_serve (fl : ℚ → ℚ) (s : System) (is : List Input) :
    Run.run (serve fl) s is = Run.run (systemStep fl) s (is.flatMap Input.events) :=
  Run.run_flatMap (serve_eq_run fl) s is

/-- A thread other than `ipc_thread` leaves the doors and `running` alone. -/
theorem systemStep_other {fl : ℚ → ℚ} {s s' : System} {e : Event} (other : ∀ cmd, e ≠ .ipc cmd)
    (h : systemStep fl s e = some s') :
    s'.shared.doorLocked = s.shared.doorLocked ∧ s'.shared.running = s.shared.running := by
  cases e with
  | ipc cmd => exact absurd rfl (other cmd)
  | button btn =>
    obtain rfl := Option.some_inj.mp h
    exact ⟨rfl, rfl⟩
  | motion x y tsMs =>
    obtain rfl := Option.some_inj.mp h
    exact ⟨rfl, rfl⟩
  | sensor data =>
    obtain rfl := Option.some_inj.mp h
    exact ⟨rfl, rfl⟩
  | controlSnapshot nowMs =>
    cases hc : s.computed with
    | some out => simp [systemStep, hc] at h
    | none =>
      simp only [systemStep, hc, Option.some_inj] at h
      obtain rfl := h
      exact ⟨rfl, rfl⟩
  | controlPublish =>
    obtain ⟨out, -, rfl⟩ := Option.map_eq_some_iff.mp h
    exact ⟨rfl, rfl⟩
  | commSnapshot =>
    cases hs : s.snapshot with
    | some snap => simp [systemStep, hs] at h
    | none =>
      simp only [systemStep, hs, Option.some_inj] at h
      obtain rfl := h
      exact ⟨rfl, rfl⟩
  | commTransmit =>
    obtain ⟨snap, -, rfl⟩ := Option.map_eq_some_iff.mp h
    exact ⟨rfl, rfl⟩

/-- The value the doors are ordered to. -/
def Input.doorOrder : Input → Option Bool
  | .datagram bytes => (parseDatagram bytes).doorOrder
  | .turn _ _ => none

/-- **The doors are as they were last ordered to be**, whatever else was received and
whatever the other threads did, and the process goes on running. -/
theorem doorLocked_run {fl : ℚ → ℚ} {s₀ s : System} {is : List Input}
    (hrunning : s₀.shared.running = true) (hrun : Run.run (serve fl) s₀ is = some s) :
    s.shared.running = true ∧
      s.shared.doorLocked = lastValue s₀.shared.doorLocked (is.filterMap Input.doorOrder) := by
  refine Run.run_induct (P := fun is s => s.shared.running = true ∧
    s.shared.doorLocked = lastValue s₀.shared.doorLocked (is.filterMap Input.doorOrder))
    ⟨hrunning, rfl⟩ ?_ hrun
  rintro is s i s' - ⟨hon, hdoors⟩ hstep
  rw [filterMap_append, lastValue_append, ← hdoors]
  cases i with
  | datagram bytes =>
    obtain rfl := Option.some_inj.mp hstep
    refine ⟨(running_ipcReceive s.shared bytes).trans hon, ?_⟩
    rw [doorLocked_ipcReceive hon, filterMap_cons, Input.doorOrder]
    cases (parseDatagram bytes).doorOrder <;> rfl
  | turn e other =>
    obtain ⟨hkeep, hstill⟩ := systemStep_other other hstep
    exact ⟨hstill.trans hon, hkeep⟩

/-! ### The message of a client -/

/-- Cutting the end of a line off goes no further than a character that stays. -/
theorem rdropWhile_append_cons {p : Char → Bool} {c : Char} (hc : ¬p c) (l r : List Char) :
    (l ++ c :: r).rdropWhile p = l ++ c :: r.rdropWhile p := by
  rw [rdropWhile, reverse_append, reverse_cons, append_assoc, dropWhile_append, rdropWhile]
  split
  · rename_i hnil
    rw [isEmpty_iff.mp hnil, reverse_nil, singleton_append, dropWhile_cons_of_neg hc,
      reverse_cons, reverse_reverse]
  · rw [reverse_append, reverse_append, reverse_reverse, reverse_singleton, append_assoc,
      singleton_append]

/-- Three fields without separators. -/
theorem splitOn_three {a b c : List Char} (ha : ';' ∉ a) (hb : ';' ∉ b) (hc : ';' ∉ c) :
    (a ++ ';' :: (b ++ ';' :: c)).splitOn ';' = [a, b, c] := by
  rw [splitOn_append_cons_self_of_not_mem ha, splitOn_append_cons_self_of_not_mem hb,
    splitOn_eq_singleton hc]

theorem not_isSpace_of_isDigit {c : Char} (h : c.isDigit) : ¬isSpace c := by
  rw [Char.isDigit_iff_toNat] at h
  simp only [isSpace, decide_eq_true_eq, not_or, not_and]
  constructor
  · rintro rfl
    exact absurd h (by decide)
  · intro _ hle
    have hcr : c.toNat ≤ '\r'.toNat := hle
    have hzero : '\r'.toNat < '0'.toNat := by decide
    omega

/-- `strtoull` reads a number back. -/
theorem strtoull_digits {n : ℕ} (hn : n < 2 ^ 64) :
    strtoull (Nat.toDigits 10 n) = (UInt64.ofNat n, [], false) := by
  have hdigits : ∀ c ∈ Nat.toDigits 10 n, c.isDigit :=
    fun c hc => Nat.isDigit_of_mem_toDigits (by decide) (by decide) hc
  have hnil : Nat.toDigits 10 n ≠ [] := Nat.toDigits_ne_nil
  have hvalue : Nat.ofDigitChars 10 (Nat.toDigits 10 n) 0 = n := Nat.ofDigitChars_ten_toDigits
  generalize Nat.toDigits 10 n = digits at hdigits hnil hvalue
  have hall : digits.takeWhile Char.isDigit = digits := takeWhile_eq_self_iff.mpr hdigits
  have hrest : digits.dropWhile Char.isDigit = [] := dropWhile_eq_nil_iff.mpr hdigits
  have hspace : digits.dropWhile isSpace = digits := by
    obtain ⟨c, cs, rfl⟩ := exists_cons_of_ne_nil hnil
    exact dropWhile_cons_of_neg (not_isSpace_of_isDigit (hdigits c mem_cons_self))
  unfold strtoull
  rw [hspace]
  split
  rename_i negative number hsign
  -- a digit is no sign
  have hplain : (negative, number) = (false, digits) := by
    rw [← hsign]
    split
    · exact absurd (hdigits '-' mem_cons_self) (by decide)
    · exact absurd (hdigits '+' mem_cons_self) (by decide)
    · rfl
  obtain ⟨rfl, rfl⟩ := Prod.mk.inj hplain
  dsimp only
  rw [hall, hrest, hvalue, if_neg hnil, if_neg (by omega), if_neg (by decide)]

theorem parseToken_cmd (p : Parsed) (cmd : List Char) :
    parseToken p ("CMD=".toList ++ cmd) = { p with cmd := String.ofList (cmd.map Char.toUpper) } :=
  rfl

theorem parseToken_req (p : Parsed) {n : ℕ} (hn : n < 2 ^ 64) :
    parseToken p ("REQ=".toList ++ Nat.toDigits 10 n) =
      { p with req := UInt64.ofNat n, reqFound := true } := by
  have hzero : (Nat.toDigits 10 n).takeWhile (· ≠ '\x00') = Nat.toDigits 10 n := by
    rw [takeWhile_eq_self_iff]
    intro c hc
    have hdigit : c.isDigit := Nat.isDigit_of_mem_toDigits (by decide) (by decide) hc
    rw [decide_eq_true_eq]
    rintro rfl
    exact absurd hdigit (by decide)
  change (match strtoull ((Nat.toDigits 10 n).takeWhile (· ≠ '\x00')) with
    | (value, rest, overflow) =>
      if !overflow ∧ rest = [] then { p with req := value, reqFound := true } else p) = _
  rw [hzero, strtoull_digits hn]
  rfl

theorem parseToken_src (p : Parsed) (src : List Char) :
    parseToken p ("SRC=".toList ++ src) = { p with src := String.ofList src } :=
  rfl

theorem semicolon_not_mem_digits (n : ℕ) : ';' ∉ Nat.toDigits 10 n := by
  intro h
  have hdigit : ';'.isDigit := Nat.isDigit_of_mem_toDigits (by decide) (by decide) h
  exact absurd hdigit (by decide)

/-- What is parsed of a message with three fields, the last of which may be cut off or
end the line. -/
theorem parseMessage_fields {cmd text : List Char} {n : ℕ} (hn : n < 2 ^ 64)
    (hcmd : ';' ∉ cmd) (htext : ';' ∉ text) :
    parseMessage (("CMD=".toList ++ cmd) ++ ';' :: (("REQ=".toList ++ Nat.toDigits 10 n) ++
      ';' :: ("SRC=".toList ++ text))) =
    { cmd := String.ofList (cmd.map Char.toUpper), req := UInt64.ofNat n, reqFound := true,
      src := String.ofList (text.rdropWhile isEol) } := by
  have htrim : (("CMD=".toList ++ cmd) ++ ';' :: (("REQ=".toList ++ Nat.toDigits 10 n) ++
      ';' :: ("SRC=".toList ++ text))).rdropWhile isEol =
      ("CMD=".toList ++ cmd) ++ ';' :: (("REQ=".toList ++ Nat.toDigits 10 n) ++
        ';' :: ("SRC=".toList ++ text.rdropWhile isEol)) := by
    rw [rdropWhile_append_cons (by decide), rdropWhile_append_cons (by decide)]
    exact congrArg (fun tail => ("CMD=".toList ++ cmd) ++ ';' ::
      (("REQ=".toList ++ Nat.toDigits 10 n) ++ ';' :: tail))
      (rdropWhile_append_cons (by decide) ['S', 'R', 'C'] text)
  have hcut : text.rdropWhile isEol <+: text := rdropWhile_prefix isEol text
  have hlast : ';' ∉ text.rdropWhile isEol := fun h => htext (hcut.subset h)
  have hsplit := splitOn_three (a := "CMD=".toList ++ cmd)
    (b := "REQ=".toList ++ Nat.toDigits 10 n) (c := "SRC=".toList ++ text.rdropWhile isEol)
    (not_mem_append (by decide) hcmd)
    (not_mem_append (by decide) (semicolon_not_mem_digits n))
    (not_mem_append (by decide) hlast)
  rw [parseMessage, htrim, hsplit, foldl_cons, foldl_cons, foldl_cons, foldl_nil, parseToken_cmd,
    parseToken_req _ hn, parseToken_src]

end Realtime

end VehicleStack
