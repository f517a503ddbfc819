import Mathlib.Data.List.Infix
import Mathlib.Data.Nat.Digits.Defs
import VehicleStack.Realtime.IpcServer
import VehicleStack.DigitalKey.CommandHandler
import VehicleStack.DigitalKey.Text

/-!
# The IPC client

`send_cmd` of `ipc_client.py`, and what becomes of its messages at the IPC server of
the realtime process: a message comes back as the command and the number it was made
of (`VehicleStack.DigitalKey.parseDatagram_message`), and the command handler reads
the server's flags off the reply
(`VehicleStack.DigitalKey.extractVehicleState_reply`). Both ends together keep the
contract `VehicleStack.DigitalKey.ipc_contract`.
-/

namespace VehicleStack

namespace DigitalKey

open List Realtime

/-- The message of `send_cmd`. -/
def sendCmdMessage (cmd : String) (req : ℕ) (src : String) : String :=
  "CMD=" ++ cmd ++ ";REQ=" ++ toString req ++ ";SRC=" ++ src ++ "\n"

/-- `send_cmd`, given what the exchange over the socket brings, a reply or an error, and
the text of a `UnicodeDecodeError`. -/
def sendCmd (decodeError : List UInt8 → String)
    (exchange : List UInt8 → Except String (List UInt8)) (req : ℕ) (cmd src : String) :
    Bool × String :=
  match exchange (Utf8.encode (sendCmdMessage cmd req src)) with
  | .error message => (false, "ERR;" ++ message)
  | .ok datagram =>
    let response := datagram.take 256
    match Utf8.decode response with
    | none => (false, "ERR;" ++ decodeError response)
    | some decoded =>
      ("OK;".toList <+: decoded.toList ∧ ("REQ=" ++ toString req).toList <:+: decoded.toList,
        strip decoded)

/-- The exchange with an IPC server in a state: without a reply the client times out. -/
def ipcExchange (shared : SharedData) (datagram : List UInt8) : Except String (List UInt8) :=
  match (ipcReceive shared datagram).2 with
  | none => .error "timed out"
  | some reply => .ok reply

/-- The commands of the contract. -/
def ipcCommands : List String := ["LOCK", "UNLOCK", "START", "STOP", "GET_ALL"]

/-! ### The message at the server -/

theorem cppString_append (a b : List UInt8) : cppString (a ++ b) = cppString a ++ cppString b :=
  map_append

/-- The server reads the ASCII characters of a string as they are. -/
theorem cppString_encode {s : String} (h : ∀ c ∈ s.toList, c.toNat < 128) :
    cppString (Utf8.encode s) = s.toList := by
  rw [Utf8.encode_of_lt h, cppString, map_map]
  conv_rhs => rw [← map_id s.toList]
  refine map_congr_left fun c hc => ?_
  rw [Function.comp_apply, UInt8.toNat_ofNat', Nat.mod_eq_of_lt (by have := h c hc; omega),
    Char.ofNat_toNat, id]

/-- An ASCII character that the server reads is one of the string. -/
theorem mem_of_mem_cppString {s : String} {c : Char} (hc : c.toNat < 128)
    (h : c ∈ cppString (Utf8.encode s)) : c ∈ s.toList := by
  obtain ⟨b, hb, rfl⟩ := mem_map.mp h
  have hbyte : (Char.ofNat b.toNat).toNat = b.toNat := by
    have hlt := b.toNat_lt
    rw [Char.ofNat, dif_pos (Or.inl (by omega))]
    rfl
  rw [hbyte] at hc
  exact Utf8.mem_of_mem_encode hb hc

/-- The part of a message before its source. -/
def messageHead (cmd : String) (req : ℕ) : String :=
  "CMD=" ++ cmd ++ ";REQ=" ++ toString req ++ ";SRC="

theorem toList_messageHead (cmd : String) (req : ℕ) : (messageHead cmd req).toList =
    ("CMD=".toList ++ cmd.toList) ++ ';' :: (("REQ=".toList ++ Nat.toDigits 10 req) ++
      ';' :: "SRC=".toList) := by
  have hnumber : (toString req).toList = Nat.toDigits 10 req := by
    rw [Nat.toString_eq_repr, Nat.toList_repr]
  rw [messageHead, String.toList_append, String.toList_append, String.toList_append,
    String.toList_append, hnumber, append_assoc, append_assoc]
  rfl

/-- What the commands are made of. -/
theorem letters_of_mem_ipcCommands : ∀ cmd ∈ ipcCommands,
    cmd.toList.length ≤ 7 ∧ cmd.toList.all isPlain ∧ ';' ∉ cmd.toList ∧
      cmd.toList.map Char.toUpper = cmd.toList := by
  decide

theorem length_messageHead {cmd : String} {req : ℕ} (hcmd : cmd ∈ ipcCommands)
    (hreq : req < 2 ^ 64) : (messageHead cmd req).toList.length ≤ 255 := by
  have hlen : cmd.toList.length ≤ 7 := (letters_of_mem_ipcCommands cmd hcmd).1
  have hdigits : (Nat.toDigits 10 req).length ≤ 20 :=
    Nat.toDigits_length 10 req 20 (by decide) (by omega)
  have hcmdLit : "CMD=".toList.length = 4 := rfl
  have hreqLit : "REQ=".toList.length = 4 := rfl
  have hsrcLit : "SRC=".toList.length = 4 := rfl
  rw [toList_messageHead, length_append, length_append, length_cons, length_append, length_append,
    length_cons]
  omega

theorem isPlain_messageHead {cmd : String} (req : ℕ) (hcmd : cmd ∈ ipcCommands) :
    (messageHead cmd req).toList.all isPlain := by
  have hletters : cmd.toList.all isPlain := (letters_of_mem_ipcCommands cmd hcmd).2.1
  have hcmdLit : "CMD=".toList.all isPlain := rfl
  have hreqLit : "REQ=".toList.all isPlain := rfl
  have hsrcLit : "SRC=".toList.all isPlain := rfl
  have hsep : isPlain ';' = true := rfl
  rw [toList_messageHead]
  simp only [all_append, all_cons, hletters, hcmdLit, hreqLit, hsrcLit, hsep, isPlain_digits,
    Bool.and_self]

/-- **The message at the server**: its command and its number are those it was made
of, however long its source is. -/
theorem parseDatagram_message {cmd src : String} {req : ℕ} (hcmd : cmd ∈ ipcCommands)
    (hreq : req < 2 ^ 64) (hsrc : ';' ∉ src.toList) :
    ∃ text, parseDatagram (Utf8.encode (sendCmdMessage cmd req src)) =
      { cmd := cmd, req := UInt64.ofNat req, reqFound := true, src := text } := by
  obtain ⟨k, hk⟩ : ∃ k, k = 255 - (messageHead cmd req).toList.length := ⟨_, rfl⟩
  have hmessage : sendCmdMessage cmd req src = messageHead cmd req ++ (src ++ "\n") :=
    String.append_assoc
  have hhead := cppString_encode (lt_of_isPlain (isPlain_messageHead req hcmd))
  have hcut : cppString ((Utf8.encode (sendCmdMessage cmd req src)).take 255) =
      (messageHead cmd req).toList ++ (cppString (Utf8.encode (src ++ "\n"))).take k := by
    rw [cppString, map_take, ← cppString, hmessage, Utf8.encode_append, cppString_append, hhead,
      take_append, take_of_length_le (length_messageHead hcmd hreq), hk]
  have htext : ';' ∉ (cppString (Utf8.encode (src ++ "\n"))).take k := by
    intro h
    have hchar := mem_of_mem_cppString (by decide) (mem_of_mem_take h)
    rw [String.toList_append, mem_append] at hchar
    rcases hchar with hchar | hchar
    · exact hsrc hchar
    · exact absurd hchar (by decide)
  obtain ⟨-, -, hsep, hupper⟩ := letters_of_mem_ipcCommands cmd hcmd
  have hparsed := parseMessage_fields hreq hsep htext
  rw [hupper, String.ofList_toList] at hparsed
  refine ⟨String.ofList (((cppString (Utf8.encode (src ++ "\n"))).take k).rdropWhile isEol), ?_⟩
  rw [parseDatagram, hcut, toList_messageHead, ← hparsed]
  simp only [append_assoc, cons_append]

/-! ### The reply at the client -/

/-- A reply that is accepted: what follows the number is what the outcome says. -/
def replyText (req : ℕ) (extra : String) : String := "OK;REQ=" ++ toString req ++ extra

/-- What the server answers a message: nothing beside the number, or for `GET_ALL` the
two flags. -/
def replyExtra (shared : SharedData) (cmd : String) : String :=
  if cmd = "GET_ALL" then
    ";LOCKED=" ++ (if shared.doorLocked then "1" else "0") ++
      ";ENGINE=" ++ (if shared.engineOn then "1" else "0")
  else ""

theorem ipcOutcome_of_mem {shared : SharedData} (hrunning : shared.running = true) {cmd : String}
    (hcmd : cmd ∈ ipcCommands) : ipcOutcome shared cmd = .ok (replyExtra shared cmd) := by
  simp only [ipcCommands, mem_cons, not_mem_nil, or_false] at hcmd
  rw [ipcOutcome, hrunning]
  rcases hcmd with rfl | rfl | rfl | rfl | rfl <;> rfl

/-- **The server's answer to a message.** -/
theorem ipcReceive_message {shared : SharedData} (hrunning : shared.running = true)
    {cmd src : String} {req : ℕ} (hcmd : cmd ∈ ipcCommands) (hreq : req < 2 ^ 64)
    (hsrc : ';' ∉ src.toList) :
    ipcReceive shared (Utf8.encode (sendCmdMessage cmd req src)) =
      (ipcCommand shared cmd,
        some (Utf8.encode (replyText req (replyExtra shared cmd) ++ "\n"))) := by
  obtain ⟨text, hparsed⟩ := parseDatagram_message hcmd hreq hsrc
  have hnumber : (UInt64.ofNat req).toNat = req := UInt64.toNat_ofNat_of_lt' hreq
  have hne : cmd ≠ "" := by
    rintro rfl
    exact absurd hcmd (by decide)
  have hok : (parseDatagram (Utf8.encode (sendCmdMessage cmd req src))).ok = true := by
    rw [hparsed, Parsed.ok]
    simp [hne]
  have hnil : Utf8.encode (sendCmdMessage cmd req src) ≠ [] := by
    intro h
    rw [h] at hok
    exact absurd hok (by decide)
  rw [ipcReceive, if_neg hnil]
  dsimp only
  rw [if_pos hok, hparsed, ipcOutcome_of_mem hrunning hcmd, ipcResponse, hnumber]
  rfl

theorem mem_replyExtra (shared : SharedData) (cmd : String) : replyExtra shared cmd ∈
    ["", ";LOCKED=0;ENGINE=0", ";LOCKED=0;ENGINE=1", ";LOCKED=1;ENGINE=0",
      ";LOCKED=1;ENGINE=1"] := by
  unfold replyExtra
  split
  · cases shared.doorLocked <;> cases shared.engineOn <;> decide
  · exact mem_cons_self

theorem toList_replyText (req : ℕ) (extra : String) : (replyText req extra).toList =
    "OK;".toList ++ ("REQ=".toList ++ Nat.toDigits 10 req) ++ extra.toList := by
  have hnumber : (toString req).toList = Nat.toDigits 10 req := by
    rw [Nat.toString_eq_repr, Nat.toList_repr]
  rw [replyText, String.toList_append, String.toList_append, hnumber]
  rfl

/-- A reply is short and plain. -/
theorem isPlain_replyText (shared : SharedData) (cmd : String) {req : ℕ} (hreq : req < 2 ^ 64) :
    (replyText req (replyExtra shared cmd)).toList.length ≤ 60 ∧
      (replyText req (replyExtra shared cmd)).toList.all isPlain := by
  have hextras : ∀ extra ∈ ["", ";LOCKED=0;ENGINE=0", ";LOCKED=0;ENGINE=1", ";LOCKED=1;ENGINE=0",
      ";LOCKED=1;ENGINE=1"], extra.toList.length ≤ 18 ∧ extra.toList.all isPlain := by
    decide
  obtain ⟨hlen, hextra⟩ := hextras _ (mem_replyExtra shared cmd)
  have hdigits : (Nat.toDigits 10 req).length ≤ 20 :=
    Nat.toDigits_length 10 req 20 (by decide) (by omega)
  have hok : "OK;".toList.length = 3 ∧ "OK;".toList.all isPlain := ⟨rfl, rfl⟩
  have hnumber : "REQ=".toList.length = 4 ∧ "REQ=".toList.all isPlain := ⟨rfl, rfl⟩
  rw [toList_replyText]
  constructor
  · rw [length_append, length_append, length_append]
    omega
  · simp only [all_append, hok.2, hnumber.2, hextra, isPlain_digits, Bool.and_self]

/-- **`send_cmd` reports what the server answers as ok.** -/
theorem sendCmd_ipcExchange (decodeError : List UInt8 → String) {shared : SharedData}
    (hrunning : shared.running = true) {cmd src : String} {req : ℕ} (hcmd : cmd ∈ ipcCommands)
    (hreq : req < 2 ^ 64) (hsrc : ';' ∉ src.toList) :
    sendCmd decodeError (ipcExchange shared) req cmd src =
      (true, replyText req (replyExtra shared cmd)) := by
  obtain ⟨hlen, hplain⟩ := isPlain_replyText shared cmd hreq
  obtain ⟨reply, hreply⟩ : ∃ reply, reply = replyText req (replyExtra shared cmd) := ⟨_, rfl⟩
  have hexchange : ipcExchange shared (Utf8.encode (sendCmdMessage cmd req src)) =
      .ok (Utf8.encode (reply ++ "\n")) := by
    rw [ipcExchange, ipcReceive_message hrunning hcmd hreq hsrc, hreply]
  have hshort : (Utf8.encode (reply ++ "\n")).length ≤ 256 := by
    rw [Utf8.encode_append, Utf8.encode_of_lt (lt_of_isPlain (hreply ▸ hplain)),
      length_append, length_map, hreply]
    have hend : (Utf8.encode "\n").length = 1 := rfl
    omega
  have hfront : "OK;".toList <+: (reply ++ "\n").toList ∧
      ("REQ=" ++ toString req).toList <:+: (reply ++ "\n").toList := by
    have hnumber : ("REQ=" ++ toString req).toList = "REQ=".toList ++ Nat.toDigits 10 req := by
      rw [String.toList_append, Nat.toString_eq_repr, Nat.toList_repr]
    rw [String.toList_append, hreply, toList_replyText, hnumber]
    constructor
    · rw [append_assoc, append_assoc]
      exact prefix_append _ _
    · rw [append_assoc]
      exact ⟨"OK;".toList, _, rfl⟩
  have hstrip : strip (reply ++ "\n") = reply :=
    strip_append_newline (not_isPySpace_of_isPlain (hreply ▸ hplain))
  rw [sendCmd, hexchange]
  dsimp only
  rw [take_of_length_le hshort, Utf8.decode_encode]
  dsimp only
  rw [decide_eq_true hfront, hstrip, hreply]

/-! ### The vehicle's state at the command handler -/

/-- What surrounds the command handler when the server is in a state: its clock gives
the number of a request. -/
def withServer (env : Platform) (full : Char → String) (decodeError : List UInt8 → String)
    (shared : SharedData) (req : ℕ → ℕ) (src : String) : Platform :=
  { env with
    strip := strip
    upper := upper full
    ipcClient := true
    sendCmd := fun n cmd => .ok (sendCmd decodeError (ipcExchange shared) (req n) cmd src) }

theorem pySplit_semicolon {a b c d : String} (ha : ';' ∉ a.toList) (hb : ';' ∉ b.toList)
    (hc : ';' ∉ c.toList) (hd : ';' ∉ d.toList) :
    pySplit (a ++ ";" ++ b ++ ";" ++ c ++ ";" ++ d) ';' = [a, b, c, d] := by
  have hsep : ";".toList = [';'] := rfl
  rw [pySplit]
  simp only [String.toList_append, hsep, append_assoc, cons_append, nil_append]
  rw [splitOn_append_cons_self_of_not_mem ha, splitOn_append_cons_self_of_not_mem hb,
    splitOn_append_cons_self_of_not_mem hc, splitOn_eq_singleton hd]
  simp only [map_cons, map_nil, String.ofList_toList]

/-- A field of the reply. -/
theorem parseToken_field {env : Platform} {key value : String}
    (parsed : List (String × Json)) (hkey : '=' ∉ key.toList) (hvalue : '=' ∉ value.toList)
    (hstrip : env.strip (key ++ "=" ++ value) = key ++ "=" ++ value)
    (hupper : env.upper key = key) :
    DigitalKey.parseToken env parsed (key ++ "=" ++ value) =
      Json.setMember parsed key (.str value) := by
  have hsep : "=".toList = ['='] := rfl
  have hne : key ++ "=" ++ value ≠ "" := by
    intro h
    have hlist := congrArg String.toList h
    simp [String.toList_append] at hlist
  have hsplit : pySplit (key ++ "=" ++ value) '=' = [key, value] := by
    rw [pySplit]
    simp only [String.toList_append, hsep, append_assoc, cons_append, nil_append]
    rw [splitOn_append_cons_self_of_not_mem hkey, splitOn_eq_singleton hvalue]
    simp only [map_cons, map_nil, String.ofList_toList]
  rw [DigitalKey.parseToken]
  dsimp only
  rw [hstrip, if_neg hne, hsplit]
  dsimp only
  rw [hupper]
  rfl

/-- A token without `=`. -/
theorem parseToken_ok (env : Platform) (full : Char → String) (parsed : List (String × Json))
    (hstrip : env.strip = strip) (hupper : env.upper = upper full)
    (hflags : parsed.lookup "_flags" = none) :
    DigitalKey.parseToken env parsed "OK" =
      Json.setMember parsed "_flags" (.arr [.str "OK"]) := by
  have hok : strip "OK" = "OK" := strip_of_not_isPySpace rfl
  have hword : upper full "OK" = "OK" := rfl
  have hsplit : pySplit "OK" '=' = ["OK"] := by decide
  rw [DigitalKey.parseToken]
  dsimp only
  rw [hstrip, hupper, hok, if_neg (by decide), hsplit, hflags, hword]
  rfl

/-- A flag in a reply. -/
def flagText (b : Bool) : String := if b then "1" else "0"

/-- What the command handler makes of a reply with both flags. -/
def replyFields (raw : String) (req : ℕ) (shared : SharedData) : List (String × Json) :=
  [("rawResponse", .str raw), ("_flags", .arr [.str "OK"]), ("REQ", .str (toString req)),
    ("LOCKED", .str (flagText shared.doorLocked)), ("ENGINE", .str (flagText shared.engineOn))]

/-- The tokens of a reply with both flags. -/
theorem pySplit_reply (req : ℕ) (shared : SharedData) :
    pySplit (replyText req (replyExtra shared "GET_ALL")) ';' =
      ["OK", "REQ" ++ "=" ++ toString req, "LOCKED" ++ "=" ++ flagText shared.doorLocked,
        "ENGINE" ++ "=" ++ flagText shared.engineOn] := by
  have hflag : ∀ b, ';' ∉ (flagText b).toList := by decide
  have hnumber : ';' ∉ ("REQ" ++ "=" ++ toString req).toList := by
    rw [String.toList_append, Nat.toString_eq_repr, Nat.toList_repr]
    exact not_mem_append (by decide) (semicolon_not_mem_digits req)
  have hlocked : ';' ∉ ("LOCKED" ++ "=" ++ flagText shared.doorLocked).toList := by
    rw [String.toList_append]
    exact not_mem_append (by decide) (hflag _)
  have hengine : ';' ∉ ("ENGINE" ++ "=" ++ flagText shared.engineOn).toList := by
    rw [String.toList_append]
    exact not_mem_append (by decide) (hflag _)
  rw [← pySplit_semicolon (by decide) hnumber hlocked hengine]
  congr 1
  rw [← String.toList_inj, replyText, replyExtra, if_pos rfl]
  simp only [String.toList_append, append_assoc, flagText]
  rfl

/-- Reading a reply with both flags. -/
theorem foldl_parseToken_reply (env : Platform) (full : Char → String) (raw : String) (req : ℕ)
    (shared : SharedData) (hstrip : env.strip = strip) (hupper : env.upper = upper full) :
    (pySplit (replyText req (replyExtra shared "GET_ALL")) ';').foldl (DigitalKey.parseToken env)
      [("rawResponse", .str raw)] = replyFields raw req shared := by
  have hspace : ∀ {s : String}, s.toList.any isPySpace = false → env.strip s = s :=
    fun h => (congrFun hstrip _).trans (strip_of_not_isPySpace h)
  have hword : ∀ {s : String}, upper full s = s → env.upper s = s :=
    fun h => (congrFun hupper _).trans h
  have hflagSep : ∀ b, '=' ∉ (flagText b).toList := by decide
  have hflagSpace : ∀ b, (flagText b).toList.any isPySpace = false := by decide
  have hdigitSep : '=' ∉ (toString req).toList := by
    rw [Nat.toString_eq_repr, Nat.toList_repr]
    intro h
    have hdigit : '='.isDigit := Nat.isDigit_of_mem_toDigits (by decide) (by decide) h
    exact absurd hdigit (by decide)
  have hdigitSpace : (toString req).toList.any isPySpace = false := by
    rw [Nat.toString_eq_repr, Nat.toList_repr]
    exact not_isPySpace_of_isPlain (isPlain_digits req)
  have hjoin : ∀ {a b : String}, a.toList.any isPySpace = false → b.toList.any isPySpace = false →
      (a ++ b).toList.any isPySpace = false := by
    intro a b ha hb
    rw [String.toList_append, any_append, ha, hb]
    rfl
  rw [pySplit_reply, foldl_cons, foldl_cons, foldl_cons, foldl_cons, foldl_nil,
    parseToken_ok env full _ hstrip hupper rfl,
    parseToken_field _ (by decide) hdigitSep (hspace (hjoin rfl hdigitSpace)) (hword rfl),
    parseToken_field _ (by decide) (hflagSep _) (hspace (hjoin rfl (hflagSpace _)))
      (hword rfl),
    parseToken_field _ (by decide) (hflagSep _) (hspace (hjoin rfl (hflagSpace _)))
      (hword rfl)]
  rfl

/-- The state of the vehicle that is read off a reply with both flags. -/
theorem extractVehicleState_reply (env : Platform) (raw : String) (req : ℕ)
    (shared : SharedData) (hstrip : env.strip = strip) :
    extractVehicleState env (replyFields raw req shared) =
      [("locked", .bool shared.doorLocked), ("engineOn", .bool shared.engineOn)] := by
  have hplain : ∀ b, (flagText b).toList.any isPySpace = false := by decide
  have hread : ∀ b, env.strip (pyStr env (.str (flagText b))) = flagText b := by
    intro b
    rw [hstrip]
    exact strip_of_not_isPySpace (hplain b)
  have hflag : ∀ b, decide (flagText b ∈ ["1", "true", "TRUE"]) = b := by decide
  have hlocked : (replyFields raw req shared).lookup "LOCKED" =
      some (.str (flagText shared.doorLocked)) := rfl
  have hengine : (replyFields raw req shared).lookup "ENGINE" =
      some (.str (flagText shared.engineOn)) := rfl
  rw [extractVehicleState]
  dsimp only
  rw [hlocked, hengine]
  simp only [hread, hflag]
  rfl

/-! ### The contract -/

/-- **What becomes of a message** at a server in a state: it is parsed back, it is
answered with a reply that `send_cmd` reports as ok, and for `GET_ALL` the command
handler reads the server's two flags off that reply. -/
structure Answered (env : Platform) (full : Char → String) (decodeError : List UInt8 → String)
    (shared : SharedData) (cmd : String) (req : ℕ) (src : String) : Prop where
  parsed : (parseDatagram (Utf8.encode (sendCmdMessage cmd req src))).ok = true ∧
    (parseDatagram (Utf8.encode (sendCmdMessage cmd req src))).cmd = cmd ∧
    (parseDatagram (Utf8.encode (sendCmdMessage cmd req src))).req.toNat = req
  replied : (ipcReceive shared (Utf8.encode (sendCmdMessage cmd req src))).2.isSome
  reported : (sendCmd decodeError (ipcExchange shared) req cmd src).1 = true
  state : cmd = "GET_ALL" → ∀ keyId w, ∃ reply w',
    Effect.exec (dispatchIpcCommand (withServer env full decodeError shared (fun _ => req) src)
      cmd keyId) w = (.ok (true, reply), w') ∧
    extractVehicleState (withServer env full decodeError shared (fun _ => req) src) reply =
      [("locked", .bool shared.doorLocked), ("engineOn", .bool shared.engineOn)]

/-- What `_dispatch_ipc_command` returns when the server is in a state. -/
theorem exec_dispatchIpcCommand_getAll (env : Platform) (full : Char → String)
    (decodeError : List UInt8 → String) {shared : SharedData} (hrunning : shared.running = true)
    {req : ℕ} (hreq : req < 2 ^ 64) {src : String} (hsrc : ';' ∉ src.toList) (keyId : String)
    (w : World) : ∃ w', Effect.exec (dispatchIpcCommand
      (withServer env full decodeError shared (fun _ => req) src) "GET_ALL" keyId) w =
        (.ok (true, replyFields (replyText req (replyExtra shared "GET_ALL")) req shared), w') := by
  obtain ⟨env', henv⟩ : ∃ env', env' = withServer env full decodeError shared (fun _ => req) src :=
    ⟨_, rfl⟩
  have hipc : env'.ipcClient = true := by rw [henv]; rfl
  have hsend : ∀ n, env'.sendCmd n "GET_ALL" =
      .ok (true, replyText req (replyExtra shared "GET_ALL")) := by
    intro n
    have hsent : env'.sendCmd n "GET_ALL" =
        .ok (sendCmd decodeError (ipcExchange shared) req "GET_ALL" src) := by rw [henv]; rfl
    rw [hsent, sendCmd_ipcExchange decodeError hrunning (by decide) hreq hsrc]
  have hstrip : env'.strip = strip := by rw [henv]; rfl
  have hupper : env'.upper = upper full := by rw [henv]; rfl
  have htext : env'.strip (replyText req (replyExtra shared "GET_ALL")) =
      replyText req (replyExtra shared "GET_ALL") := by
    rw [hstrip]
    exact strip_of_not_isPySpace
      (not_isPySpace_of_isPlain (isPlain_replyText shared "GET_ALL" hreq).2)
  rw [← henv, dispatchIpcCommand, hipc, if_neg (by decide)]
  refine ⟨{ w with tick := w.tick + 1, trace := w.trace ++ [.dispatched "GET_ALL" keyId] }, ?_⟩
  rw [Effect.exec_bind_of_ok (Py.exec_emit w _), Effect.exec_bind_of_ok (Py.exec_ask _ _), hsend]
  dsimp only
  rw [if_pos rfl, htext, foldl_parseToken_reply env' full _ req shared hstrip hupper]
  rfl

theorem answered (env : Platform) (full : Char → String) (decodeError : List UInt8 → String)
    {shared : SharedData} (hrunning : shared.running = true) {cmd : String}
    (hcmd : cmd ∈ ipcCommands) {req : ℕ} (hreq : req < 2 ^ 64) {src : String}
    (hsrc : ';' ∉ src.toList) : Answered env full decodeError shared cmd req src where
  parsed := by
    obtain ⟨text, hparsed⟩ := parseDatagram_message hcmd hreq hsrc
    have hne : cmd ≠ "" := by
      rintro rfl
      exact absurd hcmd (by decide)
    rw [hparsed]
    exact ⟨by simp [Parsed.ok, hne], rfl, UInt64.toNat_ofNat_of_lt' hreq⟩
  replied := by
    rw [ipcReceive_message hrunning hcmd hreq hsrc]
    rfl
  reported := by
    rw [sendCmd_ipcExchange decodeError hrunning hcmd hreq hsrc]
  state := by
    rintro rfl keyId w
    obtain ⟨w', hw'⟩ :=
      exec_dispatchIpcCommand_getAll env full decodeError hrunning hreq hsrc keyId w
    exact ⟨_, w', hw', extractVehicleState_reply _ _ req shared rfl⟩

/-- **The contract of both ends.** In every state that a running process reaches by
datagrams of any content and turns of its other threads, the next datagram moves the
flags only as its command says, and a message of `send_cmd` is understood, answered
and reported as ok, with the two flags in what `GET_ALL` is answered. -/
theorem ipc_contract (fl : ℚ → ℚ) (env : Platform) (full : Char → String)
    (decodeError : List UInt8 → String) {s₀ s : System} {is : List Input}
    (hrunning : s₀.shared.running = true) (hrun : Run.run (serve fl) s₀ is = some s) :
    (∀ bytes s', serve fl s (.datagram bytes) = some s' →
      Obeys (parseDatagram bytes) s.shared s'.shared) ∧
    ∀ cmd ∈ ipcCommands, ∀ req < 2 ^ 64, ∀ src : String,
      ';' ∉ src.toList → '\r' ∉ src.toList → '\n' ∉ src.toList →
      Answered env full decodeError s.shared cmd req src := by
  obtain ⟨hon, -⟩ := doorLocked_run hrunning hrun
  constructor
  · intro bytes s' hstep
    obtain rfl := Option.some_inj.mp hstep
    exact obeys_ipcReceive hon bytes
  · intro cmd hcmd req hreq src hsrc _ _
    exact answered env full decodeError hon hcmd hreq hsrc

theorem ipc_contract_locked : Answered Platform.plain (fun _ => "") (fun _ => "")
    { doorLocked := true } "GET_ALL" 7 "DK" :=
  (@ipc_contract id Platform.plain (fun _ => "") (fun _ => "") {}
    { shared := { doorLocked := true } }
    [.datagram (Utf8.encode "CMD=stop;CMD=lock;REQ=12;SRC=DK\n"), .datagram [0xff, 0x00]]
    rfl rfl).2 "GET_ALL" (by decide) 7 (by decide) "DK" (by decide) (by decide) (by decide)

end DigitalKey

end VehicleStack
