import VehicleStack.DigitalKey.Base64
import VehicleStack.DigitalKey.Backed
import VehicleStack.DigitalKey.Challenge

/-!
# A session across a restart

`_export_pki_session_state` writes the current session to a file, and a pairing manager
that is started finds it there (`_load_cached_pki_session`). What it finds is less than
what was written: it asks for a key of 32 bytes, while a seed may bring 16 or 24, it
refuses a session without a user key, which a seed before the handshake makes, and it
takes the user key for a handshake key that is not there. Which sessions come back as
they were is `VehicleStack.DigitalKey.Restorable`, and
`VehicleStack.DigitalKey.restored_iff_restorable` is the main result.
-/

namespace VehicleStack

namespace DigitalKey

open Effect

/-! ### Loading -/

/-- `float(value)`; a float is one already. -/
def pyFloat (env : Platform) : Json → Except PyError UInt64
  | .float bits => .ok bits
  | j => env.floatOf j

/-- The session that the members of the file describe. -/
def readCachedSession (env : Platform) (data : List (String × Json)) : Py PkiSessionState := do
  let given ← Py.ofExcept
    (match data.lookup "sessionId" with
      | some given => .ok given
      -- `KeyError`
      | none => .error ⟨.other, "'sessionId'"⟩)
  let sessionId := pyStr env given
  let field : String → Json := fun name => (data.lookup name).getD .null
  let pairingToken := field "pairingToken"
  let userPublicKey := field "userPublicKey"
  let handshakePublicKey := (field "handshakePublicKey").or userPublicKey
  let certificatePublicKey := field "certificatePublicKey"
  let vehiclePublicKey := field "vehiclePublicKey"
  let vehicleNonceB64 := field "vehicleNonce"
  let sessionKeyB64 := field "sessionKey"
  if ¬([.str sessionId, pairingToken, userPublicKey, vehiclePublicKey, vehicleNonceB64,
      sessionKeyB64].all Json.truthy) then
    throw (valueError "Cached PKI session missing required fields")
  else do
    let vehicleNonce ← Py.ofExcept (pyB64decode env vehicleNonceB64)
    let sessionKey ← Py.ofExcept (pyB64decode env sessionKeyB64)
    if sessionKey.length ≠ 32 then throw (valueError "Cached session key must be 32 bytes")
    else do
      let now ← Py.ask env.time
      let establishedAt ← Py.ofExcept
        (pyFloat env ((data.lookup "establishedAt").getD (.float now)))
      let clientNonceB64 := field "clientNonce"
      let clientNonce ← Py.ofExcept
        (if clientNonceB64.truthy then (pyB64decode env clientNonceB64).map some else .ok none)
      pure
        { sessionId := sessionId
          pairingToken := pyStr env pairingToken
          userPublicKeyPem := pyStr env userPublicKey
          vehiclePublicKeyPem := pyStr env vehiclePublicKey
          vehicleNonce := vehicleNonce
          sessionKey := sessionKey
          userCertificatePem := field "userCertificate"
          handshakePublicKeyPem :=
            if handshakePublicKey.truthy then some (pyStr env handshakePublicKey) else none
          certificatePublicKeyPem :=
            if certificatePublicKey.truthy then some (pyStr env certificatePublicKey) else none
          establishedAt := establishedAt
          clientNonce := clientNonce
          signatureVerified := (field "signatureVerified").truthy }

/-- `"Cached PKI session missing required fields" in message`. -/
def missingRequiredFields (message : String) : Bool :=
  message.toList.tails.any fun rest =>
    "Cached PKI session missing required fields".toList.isPrefixOf rest

/-- What becomes of a file that cannot be used: it is removed if fields are missing. -/
def discardCachedSession (env : Platform) (e : PyError) : Py Unit := do
  Py.when (missingRequiredFields e.message) do
    let removed ← Py.ask env.unlink
    if removed then Py.setPairing fun p => { p with pkiFile := .missing }
    else throw ⟨.osError, "the session cache cannot be removed"⟩
  Py.setPairing fun p => { p with cachedPkiPayload := none }

/-- `_load_cached_pki_session`. -/
def loadCachedPkiSession (env : Platform) : Py Unit := do
  match ← Py.pairing PairingManager.pkiFile with
  | .missing => pure ()
  -- what is empty is no JSON
  | .empty => Py.setPairing fun p => { p with cachedPkiPayload := none }
  | .object data => do
    Py.setPairing fun p => { p with cachedPkiPayload := some data }
    tryCatch
      (do
        let state ← readCachedSession env data
        let ref ← Py.newSession state
        Py.setPairing fun p =>
          { p with
            pkiState := some ref
            pkiSessions := p.pkiSessions.set state.sessionId ref
            lastSessionId := some state.sessionId })
      (discardCachedSession env)

/-- A new pairing manager on the files of another, before it has read them. -/
def World.newManager (w : World) : World :=
  { w with pairing := { pkiFile := w.pairing.pkiFile, pairingFlag := w.pairing.pairingFlag } }

/-- The world once a new pairing manager has been started. -/
def restarted (env : Platform) (w : World) : World :=
  (exec (loadCachedPkiSession env) w.newManager).2

/-- After a restart the manager holds a session as it was. -/
def Restored (env : Platform) (w : World) (s : PkiSessionState) : Prop :=
  pkiSessionState (restarted env w) s.sessionId = some s

/-! ### What comes back -/

/-- Nothing that the file has to tell is missing or empty, and the key has 32 bytes. -/
structure Restorable (s : PkiSessionState) : Prop where
  sessionId : s.sessionId ≠ ""
  pairingToken : s.pairingToken ≠ ""
  userPublicKeyPem : s.userPublicKeyPem ≠ ""
  vehiclePublicKeyPem : s.vehiclePublicKeyPem ≠ ""
  vehicleNonce : s.vehicleNonce ≠ []
  sessionKey : s.sessionKey.length = 32
  handshakePublicKeyPem : ∃ key, s.handshakePublicKeyPem = some key ∧ key ≠ ""
  certificatePublicKeyPem : s.certificatePublicKeyPem ≠ some ""
  clientNonce : s.clientNonce ≠ some []

/-- What is needed for a session to come back at all. -/
structure Loadable (s : PkiSessionState) : Prop where
  sessionId : s.sessionId ≠ ""
  pairingToken : s.pairingToken ≠ ""
  userPublicKeyPem : s.userPublicKeyPem ≠ ""
  vehiclePublicKeyPem : s.vehiclePublicKeyPem ≠ ""
  vehicleNonce : s.vehicleNonce ≠ []
  sessionKey : s.sessionKey.length = 32

/-- The session that comes back then. -/
def PkiSessionState.reloaded (s : PkiSessionState) : PkiSessionState :=
  { s with
    handshakePublicKeyPem :=
      some ((present s.handshakePublicKeyPem).headD s.userPublicKeyPem)
    certificatePublicKeyPem := (present s.certificatePublicKeyPem).head?
    clientNonce := s.clientNonce.filter fun nonce => !nonce.isEmpty }

theorem restorable_iff {s : PkiSessionState} : Restorable s ↔ Loadable s ∧ s.reloaded = s := by
  constructor
  · rintro ⟨hid, htoken, huser, hvehicle, hnonce, hkey, ⟨key, hhandshake, hne⟩, hcertificate,
      hclient⟩
    refine ⟨⟨hid, htoken, huser, hvehicle, hnonce, hkey⟩, ?_⟩
    have hhandshake' : some ((present s.handshakePublicKeyPem).headD s.userPublicKeyPem) =
        s.handshakePublicKeyPem := by
      rw [hhandshake, present, if_neg hne, List.headD_cons]
    have hcertificate' : (present s.certificatePublicKeyPem).head? = s.certificatePublicKeyPem := by
      rcases hc : s.certificatePublicKeyPem with _ | key
      · rfl
      · rw [present, if_neg fun h => hcertificate (hc.trans (congrArg some h)), List.head?_cons]
    have hclient' : (s.clientNonce.filter fun nonce => !nonce.isEmpty) = s.clientNonce := by
      rcases hc : s.clientNonce with _ | _ | ⟨b, bs⟩
      · rfl
      · exact absurd hc hclient
      · rfl
    rw [PkiSessionState.reloaded, hhandshake', hcertificate', hclient']
  · rintro ⟨⟨hid, htoken, huser, hvehicle, hnonce, hkey⟩, hsame⟩
    have hhandshake := congrArg PkiSessionState.handshakePublicKeyPem hsame
    have hcertificate := congrArg PkiSessionState.certificatePublicKeyPem hsame
    have hclient := congrArg PkiSessionState.clientNonce hsame
    dsimp only [PkiSessionState.reloaded] at hhandshake hcertificate hclient
    refine ⟨hid, htoken, huser, hvehicle, hnonce, hkey, ⟨_, hhandshake.symm, ?_⟩, ?_, ?_⟩
    · rcases hc : present s.handshakePublicKeyPem with _ | ⟨key, keys⟩
      · exact huser
      · exact (mem_present.mp (hc ▸ List.mem_cons_self)).2
    · intro h
      rw [h] at hcertificate
      cases hcertificate
    · intro h
      rw [h] at hclient
      cases hclient

/-! ### Reading back what was exported -/

variable {env : Platform}

theorem truthy_b64encode (data : Bytes) : (Json.str (b64encode data)).truthy = true ↔
    data ≠ [] := by
  rw [Json.truthy, decide_eq_true_iff, Ne, b64encode_eq_empty]

/-- The members of the file, as they are read. -/
theorem lookup_exportedSession (s : PkiSessionState) :
    (exportedSession env s).lookup "sessionId" = some (.str s.sessionId) ∧
    (exportedSession env s).lookup "pairingToken" = some (.str s.pairingToken) ∧
    (exportedSession env s).lookup "userPublicKey" = some (.str s.userPublicKeyPem) ∧
    (exportedSession env s).lookup "handshakePublicKey" =
      some (.ofOption s.handshakePublicKeyPem) ∧
    (exportedSession env s).lookup "certificatePublicKey" =
      some (.ofOption s.certificatePublicKeyPem) ∧
    (exportedSession env s).lookup "userCertificate" = some s.userCertificatePem ∧
    (exportedSession env s).lookup "vehiclePublicKey" = some (.str s.vehiclePublicKeyPem) ∧
    (exportedSession env s).lookup "vehicleNonce" = some (.str (env.b64encode s.vehicleNonce)) ∧
    (exportedSession env s).lookup "sessionKey" = some (.str (env.b64encode s.sessionKey)) ∧
    (exportedSession env s).lookup "signatureVerified" = some (.bool s.signatureVerified) ∧
    (exportedSession env s).lookup "establishedAt" = some (.float s.establishedAt) :=
  ⟨rfl, rfl, rfl, rfl, rfl, rfl, rfl, rfl, rfl, rfl, rfl⟩

/-- A client nonce without bytes is not written. -/
theorem lookup_clientNonce (s : PkiSessionState) :
    (exportedSession env s).lookup "clientNonce" =
      (s.clientNonce.filter fun nonce => !nonce.isEmpty).map fun nonce =>
        .str (env.b64encode nonce) := by
  rcases hc : s.clientNonce with _ | _ | ⟨b, bs⟩ <;> rw [exportedSession, hc] <;> rfl

theorem clientNonce_readBack (s : PkiSessionState) :
    (if (((exportedSession env.withBase64 s).lookup "clientNonce").getD .null).truthy then
      (pyB64decode env.withBase64
        (((exportedSession env.withBase64 s).lookup "clientNonce").getD .null)).map some
    else .ok none) = .ok (s.clientNonce.filter fun nonce => !nonce.isEmpty) := by
  rw [lookup_clientNonce]
  rcases s.clientNonce with _ | _ | ⟨b, bs⟩
  · rfl
  · rfl
  · have htruthy : (Json.str (b64encode (b :: bs))).truthy = true :=
      (truthy_b64encode _).mpr (List.cons_ne_nil b bs)
    have hread : pyB64decode env.withBase64 (.str (b64encode (b :: bs))) = .ok (b :: bs) :=
      b64decode_b64encode _
    exact (if_pos htruthy).trans (congrArg (Except.map some) hread)

/-- A public key that may be missing, as it is read. -/
theorem optionalKey_readBack (key : Option String) :
    (if (Json.ofOption key).truthy then some (pyStr env (.ofOption key)) else none) =
      (present key).head? := by
  rcases key with _ | key
  · rfl
  · by_cases h : key = ""
    · subst h
      rfl
    · have htruthy : (Json.str key).truthy = true := decide_eq_true h
      rw [present, if_neg h, Json.ofOption, if_pos htruthy]
      rfl

/-- The handshake key, for which the user key stands in. -/
theorem handshakeKey_readBack (key : Option String) {userKey : String} (huser : userKey ≠ "") :
    (if ((Json.ofOption key).or (.str userKey)).truthy then
      some (pyStr env ((Json.ofOption key).or (.str userKey))) else none) =
      some ((present key).headD userKey) := by
  have huserTruthy : (Json.str userKey).truthy = true := decide_eq_true huser
  rcases key with _ | key
  · exact if_pos huserTruthy
  · by_cases h : key = ""
    · subst h
      exact if_pos huserTruthy
    · have htruthy : (Json.str key).truthy = true := decide_eq_true h
      rw [present, if_neg h, Json.ofOption, Json.or, if_pos htruthy, if_pos htruthy]
      rfl

/-- Whether the fields that are required are there. -/
theorem required_exportedSession (s : PkiSessionState) :
    [Json.str s.sessionId, .str s.pairingToken, .str s.userPublicKeyPem,
      .str s.vehiclePublicKeyPem, .str (b64encode s.vehicleNonce),
      .str (b64encode s.sessionKey)].all Json.truthy = true ↔
    s.sessionId ≠ "" ∧ s.pairingToken ≠ "" ∧ s.userPublicKeyPem ≠ "" ∧
      s.vehiclePublicKeyPem ≠ "" ∧ s.vehicleNonce ≠ [] ∧ s.sessionKey ≠ [] := by
  simp only [List.all_cons, List.all_nil, Bool.and_true, Bool.and_eq_true, truthy_b64encode]
  simp [Json.truthy]

/-- **What the file gives back**: the session, but for what is filled in or left out; and an
error if the session is not loadable. -/
theorem exec_readCachedSession (s : PkiSessionState) (w : World) :
    (Loadable s → exec (readCachedSession env.withBase64 (exportedSession env.withBase64 s)) w =
      (.ok s.reloaded, { w with tick := w.tick + 1 })) ∧
    (¬ Loadable s → ∃ e,
      exec (readCachedSession env.withBase64 (exportedSession env.withBase64 s)) w =
        (.error e, w)) := by
  obtain ⟨hid, htoken, huser, hhandshake, hcertificate, huserCertificate, hvehicle, hnonce, hkey,
    hverified, hestablished⟩ := @lookup_exportedSession env.withBase64 s
  have hnonceRead : pyB64decode env.withBase64 (.str (b64encode s.vehicleNonce)) =
      .ok s.vehicleNonce := b64decode_b64encode _
  have hkeyRead : pyB64decode env.withBase64 (.str (b64encode s.sessionKey)) =
      .ok s.sessionKey := b64decode_b64encode _
  have hencode : env.withBase64.b64encode = b64encode := rfl
  have hstr : ∀ text, pyStr env.withBase64 (.str text) = text := fun _ => rfl
  rw [hencode] at hnonce hkey
  rw [readCachedSession, hid, exec_bind_of_ok (Py.exec_ofExcept_ok w _)]
  simp only [htoken, huser, hhandshake, hcertificate, huserCertificate, hvehicle, hnonce, hkey,
    hverified, hestablished, Option.getD_some, hstr]
  by_cases hrequired : s.sessionId ≠ "" ∧ s.pairingToken ≠ "" ∧ s.userPublicKeyPem ≠ "" ∧
      s.vehiclePublicKeyPem ≠ "" ∧ s.vehicleNonce ≠ [] ∧ s.sessionKey ≠ []
  · have hall := (required_exportedSession s).mpr hrequired
    rw [if_neg (not_not.mpr hall), hnonceRead, hkeyRead,
      exec_bind_of_ok (Py.exec_ofExcept_ok w _), exec_bind_of_ok (Py.exec_ofExcept_ok w _)]
    by_cases hlength : s.sessionKey.length = 32
    · have hloadable : Loadable s :=
        ⟨hrequired.1, hrequired.2.1, hrequired.2.2.1, hrequired.2.2.2.1, hrequired.2.2.2.2.1,
          hlength⟩
      refine ⟨fun _ => ?_, fun h => absurd hloadable h⟩
      rw [if_neg (not_not.mpr hlength), exec_bind_of_ok (Py.exec_ask w _), pyFloat,
        exec_bind_of_ok (Py.exec_ofExcept_ok _ _), clientNonce_readBack,
        exec_bind_of_ok (Py.exec_ofExcept_ok _ _), optionalKey_readBack,
        handshakeKey_readBack _ hrequired.2.2.1]
      rfl
    · refine ⟨fun h => absurd h.sessionKey hlength, fun _ => ?_⟩
      rw [if_pos hlength]
      exact ⟨_, rfl⟩
  · refine ⟨fun h => ?_, fun _ => ?_⟩
    · refine absurd ⟨h.sessionId, h.pairingToken, h.userPublicKeyPem, h.vehiclePublicKeyPem,
        h.vehicleNonce, fun hnil => ?_⟩ hrequired
      have hlength := h.sessionKey
      rw [hnil] at hlength
      cases hlength
    · rw [if_pos fun h => hrequired ((required_exportedSession s).mp h)]
      exact ⟨_, rfl⟩

/-- Giving up a file leaves a manager without sessions as it is. -/
theorem forgotten_discardCachedSession (e : PyError) :
    Keeps (Preserves Forgotten) (discardCachedSession env e) := by
  have hset : ∀ {f : PairingManager → PairingManager}, (∀ p, (f p).pkiState = p.pkiState) →
      (∀ p, (f p).pkiSessions = p.pkiSessions) → Keeps (Preserves Forgotten) (Py.setPairing f) :=
    fun hstate hsessions w h => ⟨(hstate _).trans h.pkiState, (hsessions _).trans h.pkiSessions⟩
  refine keeps_bind (Py.keeps_when
    (keeps_bind (fun w h => ⟨h.pkiState, h.pkiSessions⟩) fun removed =>
    keeps_ite ?_ (keeps_throw _))) fun _ => ?_
  · exact hset (fun _ => rfl) fun _ => rfl
  · exact hset (fun _ => rfl) fun _ => rfl

theorem exec_loadCachedPkiSession {w : World} {data : List (String × Json)}
    (hfile : w.pairing.pkiFile = .object data) :
    exec (loadCachedPkiSession env) w =
      exec (tryCatch
        (do
          let state ← readCachedSession env data
          let ref ← Py.newSession state
          Py.setPairing fun p =>
            { p with
              pkiState := some ref
              pkiSessions := p.pkiSessions.set state.sessionId ref
              lastSessionId := some state.sessionId })
        (discardCachedSession env))
        { w with pairing := { w.pairing with cachedPkiPayload := some data } } := by
  rw [loadCachedPkiSession, exec_bind_of_ok (Py.exec_pairing w _), hfile]
  dsimp only
  rw [exec_bind_of_ok (Py.exec_setPairing w _)]

/-- A loadable session comes back. -/
theorem pkiSessionState_restarted {w : World} {s : PkiSessionState}
    (hfile : w.pairing.pkiFile = .object (exportedSession env.withBase64 s)) (h : Loadable s) :
    pkiSessionState (restarted env.withBase64 w) s.sessionId = some s.reloaded := by
  rw [pkiSessionState_eq h.sessionId, restarted,
    exec_loadCachedPkiSession (w := w.newManager) hfile, exec_tryCatch,
    exec_bind_of_ok ((exec_readCachedSession s _).1 h),
    exec_bind_of_ok (Py.exec_newSession _ _), Py.exec_setPairing]
  have hid : s.reloaded.sessionId = s.sessionId := rfl
  simp only [hid, Dict.get_set, if_true, Option.map_some, Heap.read_alloc_new]

/-- Any other one does not. -/
theorem pkiSessionState_restarted_of_not {w : World} {s : PkiSessionState}
    (hfile : w.pairing.pkiFile = .object (exportedSession env.withBase64 s)) (h : ¬ Loadable s)
    (sessionId : String) : pkiSessionState (restarted env.withBase64 w) sessionId = none := by
  have hforgotten : Forgotten (restarted env.withBase64 w) := by
    rw [restarted, exec_loadCachedPkiSession (w := w.newManager) hfile, exec_tryCatch]
    obtain ⟨e, he⟩ := (@exec_readCachedSession env s
      { w.newManager with
        pairing :=
          { w.newManager.pairing with
            cachedPkiPayload := some (exportedSession env.withBase64 s) } }).2 h
    rw [exec_bind_of_error he]
    exact forgotten_discardCachedSession e _ ⟨rfl, rfl⟩
  rw [pkiSessionState, exec_getPkiSessionState_of_empty hforgotten.pkiState hforgotten.pkiSessions]
  rfl

/-- **Which sessions survive**, given that the file tells of one. -/
theorem restored_iff_of_file {w : World} {s : PkiSessionState}
    (hfile : w.pairing.pkiFile = .object (exportedSession env.withBase64 s)) :
    Restored env.withBase64 w s ↔ Restorable s := by
  rw [Restored, restorable_iff]
  by_cases h : Loadable s
  · rw [pkiSessionState_restarted hfile h, Option.some_inj, and_iff_right h]
  · rw [pkiSessionState_restarted_of_not hfile h]
    exact ⟨nofun, fun hs => absurd hs.1 h⟩

/-! ### What the file tells of, in every run -/

/-- What the file tells of, if it is not empty, is a session. -/
def SessionFile (env : Platform) (w : World) : Prop :=
  ∀ members, w.pairing.pkiFile = .object members → ∃ s, members = exportedSession env s

theorem sessionFile_of_eq {w w' : World} (h : w'.pairing.pkiFile = w.pairing.pkiFile)
    (hw : SessionFile env w) : SessionFile env w' :=
  fun members hmembers => hw members (h ▸ hmembers)

/-- **An export that succeeds**: the file tells of the current session. -/
theorem pkiFile_exportPkiSessionState {w : World} {ref : ℕ}
    (hcurrent : w.pairing.pkiState = some ref)
    (hwritten : env.writeText w.tick = .written) :
    (exec (exportPkiSessionState env) w).2.pairing.pkiFile =
      .object (exportedSession env (w.pairing.sessions.read ref)) := by
  rw [exportPkiSessionState, exec_bind_of_ok (Py.exec_pairing w _), hcurrent]
  dsimp only
  rw [Py.session, exec_bind_of_ok (Py.exec_pairing w _), exec_bind_of_ok (Py.exec_ask w _),
    hwritten]
  rfl

theorem sessionFile_exportPkiSessionState :
    Keeps (Preserves (SessionFile env)) (exportPkiSessionState env) := by
  have hask : ∀ {β : Type} (answer : ℕ → β), Keeps (Preserves (SessionFile env)) (Py.ask answer) :=
    fun _ _ => sessionFile_of_eq rfl
  refine keeps_bind (Py.keeps_pairing _) fun current => ?_
  cases current with
  | none =>
    refine keeps_bind (hask _) fun removed => fun w hw => ?_
    intro members hmembers
    cases removed with
    | true => cases hmembers
    | false => exact hw members hmembers
  | some ref =>
    refine keeps_bind (Py.keeps_session ref) fun state => keeps_bind (hask _) fun result => ?_
    cases result with
    | written =>
      rintro w - members ⟨⟩
      exact ⟨state, rfl⟩
    | refused message => exact keeps_pure _
    | truncated message =>
      rintro w - members ⟨⟩

/-- **The file tells of sessions only**, in every run. -/
theorem routine_sessionFile : Routine env (Preserves (SessionFile env)) where
  step _ h := sessionFile_of_eq h.pkiFile
  keeps_exportPkiSessionState := sessionFile_exportPkiSessionState
  put _ _ _ _ _ := sessionFile_of_eq rfl
  sync _ _ _ := sessionFile_of_eq rfl
  write _ _ := sessionFile_of_eq rfl

/-- **Which sessions survive a restart.** Whenever the current session is written to the file,
a manager that is started then holds it as it was exactly if it is restorable. After any run
the file tells of no session or of one for which the same holds. -/
theorem restored_iff_restorable (env : Platform) (api : PairingApi) (recursionLimit : ℕ) :
    (∀ (w : World) (ref : ℕ), w.pairing.pkiState = some ref → env.writeText w.tick = .written →
      (Restored env.withBase64 (exec (exportPkiSessionState env.withBase64) w).2
        (w.pairing.sessions.read ref) ↔ Restorable (w.pairing.sessions.read ref))) ∧
    ∀ (activities : List Activity) (members : List (String × Json)),
      (performAll env.withBase64 api recursionLimit {} activities).pairing.pkiFile =
        .object members →
      ∃ s, members = exportedSession env.withBase64 s ∧
        (Restored env.withBase64 (performAll env.withBase64 api recursionLimit {} activities) s ↔
          Restorable s) := by
  constructor
  · intro w ref hcurrent hwritten
    exact restored_iff_of_file (pkiFile_exportPkiSessionState hcurrent hwritten)
  · intro activities members hmembers
    have hstart : SessionFile env.withBase64 ({} : World) := by
      rintro members ⟨⟩
    obtain ⟨s, rfl⟩ := routine_sessionFile.rel_performAll api recursionLimit
      (fun _ => sessionFile_of_eq rfl) {} activities hstart members hmembers
    exact ⟨s, rfl, restored_iff_of_file hmembers⟩

/-! ### A session with a key of 16 bytes -/

/-- The telephone completes the handshake, and the seed brings an AES-128 key. -/
def shortKeySeeded : List Activity :=
  [.write (.command (.obj [("type", .str "handshake"),
      ("sessionId", .str "s"),
      ("clientPublicKey", .str "user key"),
      ("pairingToken", .str "token")])),
    .write (.command (.obj [("type", .str "session_seed"),
      ("sessionId", .str "s"),
      ("sessionKey", .str "00112233445566778899aabbccddeeff")]))]

/-- What is current then. -/
def shortKeySession : PkiSessionState :=
  { sessionId := "s"
    pairingToken := "token"
    userPublicKeyPem := "user key"
    handshakePublicKeyPem := some "user key"
    vehiclePublicKeyPem := "vehicle key"
    vehicleNonce := List.replicate 16 0
    sessionKey := [0x00, 0x11, 0x22, 0x33, 0x44, 0x55, 0x66, 0x77, 0x88, 0x99, 0xaa, 0xbb, 0xcc,
      0xdd, 0xee, 0xff]
    establishedAt := 0
    signatureVerified := true }

theorem shortKey_exported :
    currentSession (performAll Platform.plain.withBase64 twoTelephones 1 {} shortKeySeeded) =
      some shortKeySession ∧
    (performAll Platform.plain.withBase64 twoTelephones 1 {} shortKeySeeded).pairing.pkiFile =
      .object (exportedSession Platform.plain.withBase64 shortKeySession) :=
  ⟨rfl, rfl⟩

/-- A session that was seeded with a key of 16 bytes is gone after a restart. -/
theorem shortKey_notRestored : ¬∀ (env : Platform) (api : PairingApi) (recursionLimit : ℕ)
    (activities : List Activity) (s : PkiSessionState),
    currentSession (performAll env.withBase64 api recursionLimit {} activities) = some s →
      (performAll env.withBase64 api recursionLimit {} activities).pairing.pkiFile =
        .object (exportedSession env.withBase64 s) →
      Restored env.withBase64 (performAll env.withBase64 api recursionLimit {} activities) s := by
  intro h
  obtain ⟨hcurrent, hfile⟩ := shortKey_exported
  have hrestored := h .plain twoTelephones 1 shortKeySeeded shortKeySession hcurrent hfile
  have hlength := ((restored_iff_of_file hfile).mp hrestored).sessionKey
  exact absurd hlength (by decide)

end DigitalKey

end VehicleStack
