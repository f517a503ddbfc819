import VehicleStack.Lib.Dict
import VehicleStack.Lib.Effect
import VehicleStack.DigitalKey.Json

/-!
# The state of the digital key process and what surrounds it

`VehicleStack.DigitalKey.World` is what the handlers of the digital key process
read and write: the `KeyStore`, the `PairingManager` and the file each of them
keeps, and a trace of what happened
(`VehicleStack.DigitalKey.Event`). The handlers are programs over it
(`VehicleStack.DigitalKey.Py`): what they did before an exception stays done.

`PkiSessionState` and `PkiHandshakeContext` objects are shared between several
fields and changed in place, so they live in a `VehicleStack.DigitalKey.Heap` and
the fields hold references.

Everything outside the repository is `VehicleStack.DigitalKey.Platform`:
Python's built-in conversions, the `cryptography` package, and the answers of the
world, which may be different each time, so that each answer is a function of how
many were asked for before. Nothing is assumed of it. Times of the file system,
locks, observers that only log, and the export of the PIN session for the display
are left out.
-/

namespace VehicleStack

namespace DigitalKey

/-! ### Surroundings -/

/-- How a write to a file ends. -/
inductive WriteResult where
  | written
  /-- `OSError` when the file is opened; it is as it was. -/
  | refused (message : String)
  /-- `OSError` after the file was emptied. -/
  | truncated (message : String)
  deriving DecidableEq

/-- The parts of Python, of its packages and of the world that the handlers use. -/
structure Platform where
  /-- `str.upper`, `str.lower`, `str.strip`. -/
  upper : String → String
  lower : String → String
  strip : String → String
  /-- `str` of a float, a list or a dictionary. -/
  repr : Json → String
  /-- `int` of a string. -/
  intOfStr : String → Except PyError ℤ
  /-- `float` of a value. -/
  floatOf : Json → Except PyError UInt64
  /-- `base64.b64decode` of a string, lenient and with `validate=True`. -/
  b64decode : String → Except PyError Bytes
  b64decodeStrict : String → Except PyError Bytes
  b64encode : Bytes → String
  /-- `str.encode("utf-8")`. -/
  encode : String → Bytes
  /-- `json.loads(data.decode("utf-8"))`. -/
  loads : Bytes → Except PyError Json
  /-- `json.dumps(value)`. -/
  dumps : Json → String
  /-- The same with `separators=(",", ":")` and `ensure_ascii=False`. -/
  dumpsCompact : Json → String
  /-- Hash functions. -/
  md5 : Bytes → Bytes
  sha256 : Bytes → Bytes
  /-- Public keys. -/
  PublicKey : Type
  loadPemPublicKey : String → Except PyError PublicKey
  loadDerPublicKey : Bytes → Except PyError PublicKey
  /-- `EllipticCurvePublicKey.from_encoded_point` on P-256. -/
  fromEncodedPoint : Bytes → Except PyError PublicKey
  publicPem : PublicKey → String
  /-- `verify(signature, message, ECDSA(SHA256()))`. -/
  verify : PublicKey → Bytes → Bytes → Except PyError Unit
  /-- The vehicle's private key and a public key, exchanged. -/
  exchange : PublicKey → Except PyError Bytes
  /-- HKDF with SHA-256, 32 bytes: salt, info, secret. -/
  hkdf : Bytes → Bytes → Bytes → Bytes
  /-- AES-GCM: key, nonce, data. -/
  gcmEncrypt : Bytes → Bytes → Bytes → Except PyError Bytes
  gcmDecrypt : Bytes → Bytes → Bytes → Except PyError Bytes
  /-- AES-CBC: key, initial vector, data. -/
  cbcDecrypt : Bytes → Bytes → Bytes → Except PyError Bytes
  /-- X.509 certificates. -/
  Certificate : Type
  loadPemCertificate : String → Except PyError Certificate
  loadDerCertificate : Bytes → Except PyError Certificate
  certificatePem : Certificate → String
  certificatePublicPem : Certificate → Except PyError String
  /-- What `CertificateProvider.get_certificate_payload` gives, if there is one. -/
  certificateProvider : Option (ℕ → Except PyError (List (String × Json)))
  /-- Whether there is an API client, and the list its `fetch_keys` gives. -/
  apiClient : Bool
  fetchKeys : ℕ → Except PyError (List Json)
  /-- Whether `ipc_client` could be imported, and what its `send_cmd` gives. -/
  ipcClient : Bool
  sendCmd : ℕ → String → Except PyError (Bool × String)
  /-- `load_vehicle_keys`: the vehicle's public key in PEM. -/
  loadVehicleKeys : ℕ → Except PyError String
  /-- A signature under the vehicle's private key. -/
  sign : ℕ → Bytes → Except PyError Bytes
  /-- `time.time()`, and as whole milliseconds. -/
  time : ℕ → UInt64
  timeMs : ℕ → ℤ
  urandom : ℕ → ℕ → Bytes
  uuid4 : ℕ → String
  writeText : ℕ → WriteResult
  /-- Whether a file that exists can be removed. -/
  unlink : ℕ → Bool
  /-- `SUPPRESS_SESSION_SEED_ACK`. -/
  suppressSeedAck : Bool

/-- A platform on which nothing fails and no server is known: text is taken as it
is, and every answer is the same each time. Runs on given payloads use it. -/
def Platform.plain : Platform where
  upper s := s
  lower s := s
  strip s := s
  repr _ := ""
  intOfStr _ := .error (valueError "invalid literal for int() with base 10")
  floatOf _ := .error (valueError "could not convert string to float")
  b64decode s := .ok (s.toList.map fun c => UInt8.ofNat c.toNat)
  b64decodeStrict s := .ok (s.toList.map fun c => UInt8.ofNat c.toNat)
  b64encode bytes := String.ofList (bytes.map fun b => Char.ofNat b.toNat)
  encode s := s.toList.map fun c => UInt8.ofNat c.toNat
  loads _ := .ok .null
  dumps _ := ""
  dumpsCompact _ := ""
  md5 _ := List.replicate 16 0
  sha256 _ := List.replicate 32 0
  PublicKey := String
  loadPemPublicKey s := .ok s
  loadDerPublicKey _ := .ok ""
  fromEncodedPoint _ := .ok ""
  publicPem key := key
  verify _ _ _ := .error ⟨.invalidSignature, ""⟩
  exchange _ := .ok []
  hkdf _ _ _ := List.replicate 32 0
  gcmEncrypt _ _ data := .ok data
  gcmDecrypt _ _ data := .ok data
  cbcDecrypt _ _ data := .ok data
  Certificate := String
  loadPemCertificate s := .ok s
  loadDerCertificate _ := .ok ""
  certificatePem certificate := certificate
  certificatePublicPem certificate := .ok certificate
  certificateProvider := none
  apiClient := false
  fetchKeys _ := .ok []
  ipcClient := true
  sendCmd _ _ := .ok (true, "OK")
  loadVehicleKeys _ := .ok "vehicle key"
  sign _ _ := .ok []
  time _ := 0
  timeMs _ := 0
  urandom _ n := List.replicate n 0
  uuid4 _ := "uuid"
  writeText _ := .written
  unlink _ := true
  suppressSeedAck := false

/-! ### Objects -/

/-- Objects that are referred to. -/
structure Heap (α : Type) where
  cells : List α := []

namespace Heap

variable {α : Type}

/-- The object a reference is to. -/
def read [Inhabited α] (h : Heap α) (ref : ℕ) : α := h.cells.getD ref default

/-- Changing an object in place. -/
def modify (h : Heap α) (ref : ℕ) (f : α → α) : Heap α := ⟨h.cells.modify ref f⟩

/-- A new object, and the reference to it. -/
def alloc (h : Heap α) (a : α) : ℕ × Heap α := (h.cells.length, ⟨h.cells ++ [a]⟩)

theorem length_modify (h : Heap α) (ref : ℕ) (f : α → α) :
    (h.modify ref f).cells.length = h.cells.length :=
  List.length_modify ..

variable [Inhabited α] {h : Heap α}

theorem read_modify_self {ref : ℕ} (f : α → α) (hlt : ref < h.cells.length) :
    (h.modify ref f).read ref = f (h.read ref) := by
  simp [read, modify, List.getD_eq_getElem?_getD, hlt]

theorem read_modify_of_ne {ref other : ℕ} (f : α → α) (hne : other ≠ ref) :
    (h.modify other f).read ref = h.read ref := by
  simp [read, modify, List.getD_eq_getElem?_getD, hne]

/-- An object is changed, or there is none. -/
theorem read_modify_eq_or (h : Heap α) (ref : ℕ) (f : α → α) :
    (h.modify ref f).read ref = f (h.read ref) ∨ (h.modify ref f).read ref = h.read ref := by
  rcases Nat.lt_or_ge ref h.cells.length with hlt | hge
  · exact Or.inl (read_modify_self f hlt)
  · exact Or.inr (by simp [read, modify, List.getD_eq_getElem?_getD, hge])

/-- What a change leaves alone in every object it leaves alone in this one. -/
theorem apply_read_modify {β : Type} (g : α → β) {f : α → α} (hf : ∀ a, g (f a) = g a)
    (ref : ℕ) : g ((h.modify ref f).read ref) = g (h.read ref) := by
  rcases h.read_modify_eq_or ref f with hread | hread
  · rw [hread, hf]
  · rw [hread]

theorem read_alloc_new (a : α) : (h.alloc a).2.read (h.alloc a).1 = a := by
  simp [read, alloc, List.getD_eq_getElem?_getD]

theorem read_alloc_old {ref : ℕ} (a : α) (hlt : ref < h.cells.length) :
    (h.alloc a).2.read ref = h.read ref := by
  simp [read, alloc, List.getD_eq_getElem?_getD, List.getElem?_append_left hlt]

end Heap

/-- `PkiSessionState`. -/
structure PkiSessionState where
  sessionId : String
  pairingToken : String
  userPublicKeyPem : String
  vehiclePublicKeyPem : String
  vehicleNonce : Bytes
  sessionKey : Bytes
  userCertificatePem : Json := .null
  handshakePublicKeyPem : Option String := none
  certificatePublicKeyPem : Option String := none
  establishedAt : UInt64
  clientNonce : Option Bytes := none
  signatureVerified : Bool := false
  deriving Inhabited

/-- `PkiHandshakeContext`. -/
structure PkiHandshakeContext where
  sessionId : String
  pairingToken : Json
  userPublicKey : String
  userCertificate : Option String
  vehiclePublicKey : String
  vehicleNonce : Bytes
  clientNonce : Json := .null
  certificatePublicKey : Option String := none
  deriving Inhabited

/-- `PinSessionState`, but for the time of its last change. -/
structure PinSessionState where
  sessionId : String
  pin : String := ""
  expiresAt : Json := .null
  attemptsRemaining : Json := .null
  pairingToken : Json := .null
  ownerCandidateUserId : Json := .null
  status : String := "PENDING"
  active : Bool := true
  lastStatusPayload : List (String × Json) := []
  vehicleNonceB64 : Option String := none
  deriving Inhabited

/-! ### State -/

/-- What a file of this process holds. -/
inductive FileText where
  | missing
  /-- Emptied by a write that failed. -/
  | empty
  /-- The members of one JSON object. -/
  | object (members : List (String × Json))

/-- `KeyStore`: for each key the value it was given as, and its payload. -/
structure KeyStore where
  keys : Dict DictKey (Json × Json) := .empty
  file : FileText := .missing

/-- `PairingManager`. -/
structure PairingManager where
  sessions : Heap PkiSessionState := {}
  contexts : Heap PkiHandshakeContext := {}
  pkiState : Option ℕ := none
  pkiSessions : Dict String ℕ := .empty
  handshakeContexts : Dict String ℕ := .empty
  pendingHandshake : Option ℕ := none
  lastSessionId : Option String := none
  /-- The session id of `_active_session`. -/
  activeSession : Option String := none
  lastChallenge : Option (List (String × Json)) := none
  pinSessionState : Option PinSessionState := none
  cachedPkiPayload : Option (List (String × Json)) := none
  pkiFile : FileText := .missing
  /-- Whether the file that enables pairing is there. -/
  pairingFlag : Bool := false
  /-- Whether the thread that polls the PIN status runs. -/
  pinPoller : Bool := false

/-- Which handler put a key into the store. -/
inductive Source where
  /-- `_handle_pairing_key_storage`. -/
  | pairingResult
  /-- `store_pki_certificate`. -/
  | certExchange
  /-- `_maybe_store_key_from_certificate`. -/
  | pkiCertificate
  deriving DecidableEq

/-- What is recorded of a run. -/
inductive Event where
  /-- A command was sent over IPC, for a key. -/
  | dispatched (command keyId : String)
  /-- `finalize_session_state` accepted a signature under a key, for a session. -/
  | signatureAccepted (sessionId keyPem : String)
  /-- A key was put into the store. -/
  | stored (source : Source) (key : DictKey)
  /-- The keys of the server replaced the store; these were not in it. -/
  | synced (fresh : List String)
  deriving DecidableEq

/-- The state of the process, how many answers of the world were used, and the trace. -/
structure World where
  store : KeyStore := {}
  pairing : PairingManager := {}
  tick : ℕ := 0
  trace : List Event := []

/-- A program of the digital key process. -/
abbrev Py (α : Type) := Effect PyError World α

namespace Py

/-- Raising what a pure computation raises. -/
def ofExcept {α : Type} : Except PyError α → Py α
  | .ok a => pure a
  | .error e => throw e

/-- `if condition: x`. -/
def when (condition : Bool) (x : Py Unit) : Py Unit := if condition then x else pure ()

/-- An answer of the world. -/
def ask {α : Type} (answer : ℕ → α) : Py α := do
  let w ← get
  modify fun w => { w with tick := w.tick + 1 }
  pure (answer w.tick)

/-- Recording an event. -/
def emit (e : Event) : Py Unit := modify fun w => { w with trace := w.trace ++ [e] }

/-- A value of the pairing manager. -/
def pairing {α : Type} (f : PairingManager → α) : Py α := do
  let w ← get
  pure (f w.pairing)

/-- Changing the pairing manager. -/
def setPairing (f : PairingManager → PairingManager) : Py Unit :=
  modify fun w => { w with pairing := f w.pairing }

/-- The session object a reference is to. -/
def session (ref : ℕ) : Py PkiSessionState := pairing fun p => p.sessions.read ref

/-- Changing a session object. -/
def setSession (ref : ℕ) (f : PkiSessionState → PkiSessionState) : Py Unit :=
  setPairing fun p => { p with sessions := p.sessions.modify ref f }

/-- A new session object. -/
def newSession (s : PkiSessionState) : Py ℕ := do
  let ref ← pairing fun p => (p.sessions.alloc s).1
  setPairing fun p => { p with sessions := (p.sessions.alloc s).2 }
  pure ref

/-- The handshake context a reference is to. -/
def context (ref : ℕ) : Py PkiHandshakeContext := pairing fun p => p.contexts.read ref

/-- Changing a handshake context. -/
def setContext (ref : ℕ) (f : PkiHandshakeContext → PkiHandshakeContext) : Py Unit :=
  setPairing fun p => { p with contexts := p.contexts.modify ref f }

/-- A new handshake context. -/
def newContext (c : PkiHandshakeContext) : Py ℕ := do
  let ref ← pairing fun p => (p.contexts.alloc c).1
  setPairing fun p => { p with contexts := (p.contexts.alloc c).2 }
  pure ref

section exec

variable {α : Type} (w : World)

theorem exec_ofExcept_ok (a : α) : Effect.exec (ofExcept (.ok a)) w = (.ok a, w) := rfl

theorem exec_ofExcept_error (e : PyError) :
    Effect.exec (ofExcept (.error e) : Py α) w = (.error e, w) := rfl

theorem exec_ask (answer : ℕ → α) :
    Effect.exec (ask answer) w = (.ok (answer w.tick), { w with tick := w.tick + 1 }) := rfl

theorem exec_emit (e : Event) :
    Effect.exec (emit e) w = (.ok ⟨⟩, { w with trace := w.trace ++ [e] }) := rfl

theorem exec_pairing (f : PairingManager → α) :
    Effect.exec (pairing f) w = (.ok (f w.pairing), w) := rfl

theorem exec_setPairing (f : PairingManager → PairingManager) :
    Effect.exec (setPairing f) w = (.ok ⟨⟩, { w with pairing := f w.pairing }) := rfl

theorem exec_newSession (s : PkiSessionState) :
    Effect.exec (newSession s) w = (.ok (w.pairing.sessions.alloc s).1,
      { w with pairing := { w.pairing with sessions := (w.pairing.sessions.alloc s).2 } }) := rfl

end exec

end Py

/-! ### Python's conversions -/

variable (env : Platform)

/-- `str(value)`. -/
def pyStr : Json → String
  | .null => "None"
  | .bool b => if b then "True" else "False"
  | .int z => toString z
  | .str s => s
  | j => env.repr j

/-- `int(value)`. -/
def pyInt : Json → Except PyError ℤ
  | .bool b => .ok (if b then 1 else 0)
  | .int z => .ok z
  | .float bits =>
    match truncateDouble bits with
    | some (z, _) => .ok z
    | none =>
      if bits &&& 0xFFFFFFFFFFFFF = 0 then
        .error ⟨.overflowError, "cannot convert float infinity to integer"⟩
      else .error (valueError "cannot convert float NaN to integer")
  | .str s => env.intOfStr s
  | j => .error ⟨.typeError, "int() argument must be a string, a bytes-like object or a real " ++
      "number, not '" ++ j.typeName ++ "'"⟩

/-- `base64.b64decode(value)`. -/
def pyB64decode : Json → Except PyError Bytes
  | .str s => env.b64decode s
  | j => .error ⟨.typeError, "argument should be a bytes-like object or ASCII string, not '" ++
      j.typeName ++ "'"⟩

/-- `text.split(separator)`. -/
def pySplit (text : String) (separator : Char) : List String :=
  (text.toList.splitOn separator).map String.ofList

/-- `value.strip()`. -/
def pyStrip : Json → Except PyError String
  | .str s => .ok (env.strip s)
  | j => .error ⟨.attributeError, "'" ++ j.typeName ++ "' object has no attribute 'strip'"⟩

end DigitalKey

end VehicleStack
