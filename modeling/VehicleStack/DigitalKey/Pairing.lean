import VehicleStack.DigitalKey.KeyStore
import VehicleStack.DigitalKey.Pki

/-!
# The pairing manager

`pairing.py`, as far as writes of the telephone reach it: pairing results, the PKI
handshake, the certificate exchange, session seeds, the recovery of a session from
a certificate, and the synchronisation of keys with the server.

`_pki_state` and the entries of `_pki_sessions` are references to the same
objects, and so are `_pending_handshake` and the entries of
`_handshake_contexts`.
-/

namespace VehicleStack

namespace DigitalKey

variable (env : Platform)

/-! ### Small parts -/

/-- The answer of a handler that reports its outcome. -/
abbrev Answer := Bool × Json

/-- An answer with status `"ERROR"`, and what it says besides. -/
def errorStatus (members : List (String × Json)) : Py Answer := do
  let now ← Py.ask env.timeMs
  pure (false, .obj ([("status", .str "ERROR")] ++ members ++ [("timestamp", .int now)]))

/-- `_stop_pin_status_poller`. -/
def stopPinStatusPoller : Py Unit := Py.setPairing fun p => { p with pinPoller := false }

/-- `_disable_pairing_flag`: a file that cannot be removed stays. -/
def disablePairingFlag : Py Unit := do
  let removed ← Py.ask env.unlink
  Py.setPairing fun p => { p with pairingFlag := p.pairingFlag && !removed }

/-- What `_export_pki_session_state` writes. -/
def exportedSession (s : PkiSessionState) : List (String × Json) :=
  [("sessionId", .str s.sessionId),
    ("pairingToken", .str s.pairingToken),
    ("userPublicKey", .str s.userPublicKeyPem),
    ("handshakePublicKey", .ofOption s.handshakePublicKeyPem),
    ("certificatePublicKey", .ofOption s.certificatePublicKeyPem),
    ("userCertificate", s.userCertificatePem),
    ("vehiclePublicKey", .str s.vehiclePublicKeyPem),
    ("vehicleNonce", .str (env.b64encode s.vehicleNonce)),
    ("sessionKey", .str (env.b64encode s.sessionKey)),
    ("signatureVerified", .bool s.signatureVerified),
    ("establishedAt", .float s.establishedAt)] ++
    (match s.clientNonce with
      | some (b :: bs) => [("clientNonce", .str (env.b64encode (b :: bs)))]
      | _ => [])

/-- `_export_pki_session_state`. Without a current session every session is
forgotten, the file too if it can be removed. -/
def exportPkiSessionState : Py Unit := do
  match ← Py.pairing PairingManager.pkiState with
  | none => do
    let removed ← Py.ask env.unlink
    Py.setPairing fun p =>
      { p with
        cachedPkiPayload := none
        pkiSessions := .empty
        pkiFile := if removed then .missing else p.pkiFile }
  | some ref => do
    let state ← Py.session ref
    let payload := exportedSession env state
    match ← Py.ask env.writeText with
    | .written =>
      Py.setPairing fun p => { p with pkiFile := .object payload, cachedPkiPayload := some payload }
    | .refused _ => pure ()
    | .truncated _ => Py.setPairing fun p => { p with pkiFile := .empty }

/-- `get_pki_session_state`. -/
def getPkiSessionState (sessionId : String) : Py (Option ℕ) :=
  Py.pairing fun p =>
    if sessionId ≠ "" then p.pkiSessions.get? sessionId
    else
      match p.pkiState with
      | some ref => some ref
      | none =>
        match (present p.lastSessionId).head?.bind p.pkiSessions.get? with
        | some ref => some ref
        | none => p.pkiSessions.entries.head?.map Prod.snd

/-! ### Keys from the server -/

/-- The entries of the server's list that have a key id. -/
def syncMapping (entries : List Json) : Except PyError (Dict String Json) :=
  entries.foldlM (fun mapping entry =>
    if entry.isDict then do
      let keyId ← entry.getFirst ["keyId", "id"]
      .ok (if keyId.isNone then mapping else mapping.set (pyStr env keyId) entry)
    else .ok mapping) .empty

/-- `sync_keys_from_server`, which never fails because of the server. -/
def syncKeysFromServer : Py Bool := do
  if env.apiClient then
    match ← Py.ask env.fetchKeys with
    | .error e => if e.kind = .pairingApiError then pure false else throw e
    | .ok entries => do
      let mapping ← Py.ofExcept (syncMapping env entries)
      -- an empty answer leaves the store as it is
      if mapping.entries.isEmpty then pure false
      else do
        replaceAll env mapping
        pure true
  else pure false

/-! ### Pairing results -/

/-- `_handle_pairing_handshake`. Only a `ValueError` of the verification is
answered. -/
def handlePairingHandshake (sessionId : String) (payload : Json) : Py Answer := do
  match ← Py.pairing fun p => p.pkiSessions.get? sessionId with
  | none =>
    errorStatus env [("message", .str "PKI session state unavailable"),
      ("sessionId", .str sessionId)]
  | some ref => do
    let state ← Py.session ref
    if state.sessionId ≠ sessionId then
      errorStatus env [("message", .str "PKI session state unavailable"),
        ("sessionId", .str sessionId)]
    else do
      let clientNonce ← Py.ofExcept (payload.get "clientNonce")
      let signature ← Py.ofExcept (payload.get "signature")
      let verified ← tryCatch
        (do finalizeSessionState env ref clientNonce signature none; pure none)
        (fun e => if e.kind = .valueError then pure (some e) else throw e)
      match verified with
      | some e =>
        errorStatus env [("message", .str e.message), ("sessionId", .str sessionId)]
      | none => do
        let state ← Py.session ref
        Py.setPairing fun p =>
          { p with
            pinSessionState := p.pinSessionState.map fun pin =>
              if pin.sessionId = sessionId then
                { pin with
                  active := false
                  status := "HANDSHAKE_ACK"
                  vehicleNonceB64 := some (env.b64encode state.vehicleNonce)
                  lastStatusPayload :=
                    match state.clientNonce with
                    | some (b :: bs) =>
                      Json.setMember pin.lastStatusPayload "clientNonce"
                        (.str (env.b64encode (b :: bs)))
                    | _ => pin.lastStatusPayload }
              else pin }
        stopPinStatusPoller
        -- the source exports the session twice
        exportPkiSessionState env
        exportPkiSessionState env
        let state ← Py.session ref
        let now ← Py.ask env.timeMs
        pure (true, .obj ([("status", .str "OK"),
          ("message", .str "Handshake acknowledged"),
          ("sessionId", .str sessionId),
          ("vehicleNonce", .str (env.b64encode state.vehicleNonce)),
          ("signatureVerified", .bool state.signatureVerified),
          ("timestamp", .int now)] ++
          (if state.pairingToken = "" then [] else [("pairingToken", .str state.pairingToken)])))

/-- `_handle_pairing_key_storage`. The key is stored whatever the state of the
session, and the server is asked for its keys afterwards. -/
def handlePairingKeyStorage (sessionId : String) (payload : Json) : Py Answer := do
  let given ← Py.ofExcept (payload.get "keyId")
  let keyId := pyStr env (given.or (.str ""))
  if keyId = "" then
    errorStatus env [("sessionId", .str sessionId),
      ("message", .str "Missing keyId in pairing result payload")]
  else do
    let failed ← tryCatch
      (do upsertKey env .pairingResult (.str keyId) payload; pure none)
      (fun e => pure (some e))
    match failed with
    -- the store in memory may have the key all the same
    | some e =>
      errorStatus env [("sessionId", .str sessionId),
        ("message", .str ("Failed to store key: " ++ e.message))]
    | none => do
      Py.setPairing fun p =>
        { p with
          pinSessionState := p.pinSessionState.map fun pin =>
            if pin.sessionId = sessionId then
              { pin with status := "KEY_STORED", active := false }
            else pin }
      disablePairingFlag env
      stopPinStatusPoller
      let _ ← syncKeysFromServer env
      let now ← Py.ask env.timeMs
      pure (true, .obj [("status", .str "OK"),
        ("message", .str "Key stored"),
        ("sessionId", .str sessionId),
        ("keyId", .str keyId),
        ("timestamp", .int now)])

/-- The session a pairing result without one is taken to be about. -/
def PairingManager.fallbackSession (p : PairingManager) : String :=
  match present p.lastSessionId with
  | s :: _ => s
  | [] => p.activeSession.getD ""

/-- `handle_pairing_result`. -/
def handlePairingResult (payload : Json) : Py Answer := do
  let given ← Py.ofExcept (payload.get "sessionId")
  let fallback ← Py.pairing PairingManager.fallbackSession
  let stated := pyStr env (given.or (.str ""))
  let sessionId := if stated = "" then fallback else stated
  if sessionId = "" then
    errorStatus env [("message", .str "Missing sessionId in pairing result payload")]
  else if payload.has "clientNonce" || payload.has "signature" then
    handlePairingHandshake env sessionId payload
  else if payload.has "keyId" then handlePairingKeyStorage env sessionId payload
  else
    errorStatus env [("message", .str "Unsupported pairing result payload format"),
      ("sessionId", .str sessionId)]

/-! ### The PKI handshake -/

/-- A public key in PEM if it can be read, else as it was given. -/
def normalizedPublicKey (material : String) : String :=
  match present (coercePublicKeyPem env material).toOption with
  | pem :: _ => pem
  | [] => material

/-- The session a handshake without one is taken to be about. -/
def handshakeSession (sessionId : String) : Py String := do
  if sessionId ≠ "" then pure sessionId
  else
    match ← Py.pairing PairingManager.pendingHandshake with
    | some ref => do
      let context ← Py.context ref
      pure context.sessionId
    | none =>
      match ← Py.pairing fun p => present p.lastSessionId with
      | s :: _ => pure s
      | [] => Py.ask env.uuid4

/-- The handshake context of a session, made or brought up to date. -/
def updateHandshakeContext (sessionId userPublicKey vehiclePublicKey : String)
    (pairingToken clientNonceB64 : Json) : Py ℕ := do
  let vehicleNonce ← Py.ask fun n => env.urandom n 16
  match ← Py.pairing fun p => p.handshakeContexts.get? sessionId with
  | none =>
    Py.newContext
      { sessionId := sessionId
        pairingToken := pairingToken
        userPublicKey := userPublicKey
        userCertificate := none
        vehiclePublicKey := vehiclePublicKey
        vehicleNonce := vehicleNonce
        clientNonce := clientNonceB64 }
  | some ref => do
    -- a context that is there already keeps its vehicle nonce
    Py.setContext ref fun c =>
      { c with
        pairingToken := pairingToken.or c.pairingToken
        userPublicKey := userPublicKey
        clientNonce := clientNonceB64.or c.clientNonce
        vehiclePublicKey := vehiclePublicKey }
    pure ref

/-- The client nonce of a handshake, remembered; one that cannot be decoded is only
logged. -/
def rememberClientNonce (ref : ℕ) (nonceB64 : Json) : Py Unit :=
  match pyB64decode env nonceB64 with
  | .ok nonce => Py.setSession ref fun s => { s with clientNonce := some nonce }
  | .error e => if e.kind = .valueError then pure () else throw e

/-- What a handshake changes in a session that exists already. -/
def applyHandshake (sessionId : String) (contextRef : ℕ) : Py Unit := do
  match ← Py.pairing fun p => p.pkiSessions.get? sessionId with
  | none => pure ()
  | some ref => do
    let context ← Py.context contextRef
    Py.when (context.userPublicKey ≠ "") <|
      Py.setSession ref fun s =>
        { s with
          userPublicKeyPem := context.userPublicKey
          handshakePublicKeyPem := some context.userPublicKey }
    Py.when context.clientNonce.truthy (rememberClientNonce env ref context.clientNonce)
    Py.setPairing fun p =>
      { p with pkiState := some ref, pkiSessions := p.pkiSessions.set sessionId ref }
    exportPkiSessionState env

/-- `begin_pki_handshake`, for a public key given as a string. -/
def beginPkiHandshake (sessionId clientPublicKey : String)
    (pairingToken clientNonceB64 protocolVersion : Json) : Py Json := do
  if clientPublicKey = "" then throw (valueError "Missing clientPublicKey for handshake")
  else do
    let userPublicKey := normalizedPublicKey env clientPublicKey
    let sessionId ← handshakeSession env sessionId
    let vehicleKeys ← Py.ask env.loadVehicleKeys
    let vehiclePublicKey ← Py.ofExcept
      (vehicleKeys.mapError fun e => valueError ("Vehicle keys unavailable: " ++ e.message))
    let contextRef ← updateHandshakeContext env sessionId userPublicKey vehiclePublicKey
      pairingToken clientNonceB64
    Py.setPairing fun p =>
      { p with
        handshakeContexts := p.handshakeContexts.set sessionId contextRef
        pendingHandshake := some contextRef
        lastSessionId := some sessionId }
    applyHandshake env sessionId contextRef
    let context ← Py.context contextRef
    let nonceB64 := env.b64encode context.vehicleNonce
    pure (.obj ([("type", .str "handshake_ack"),
      ("success", .bool true),
      ("sessionId", .str sessionId),
      ("vehiclePublicKey", .str vehiclePublicKey),
      ("vehicleNonce", .str nonceB64),
      ("serverNonce", .str nonceB64),
      ("sessionSupported", .bool true)] ++
      (if protocolVersion.truthy then [("version", protocolVersion)] else []) ++
      (if pairingToken.truthy then [("pairingToken", pairingToken)] else []) ++
      (if clientNonceB64.truthy then [("clientNonce", clientNonceB64)] else [])))

/-! ### Certificates -/

/-- `"BEGIN CERTIFICATE" in text`. -/
def hasCertificateHeader (text : String) : Bool :=
  text.toList.tails.any fun rest => "BEGIN CERTIFICATE".toList.isPrefixOf rest

/-- A candidate for a certificate: a string that is not blank. -/
def certificateCandidate : Json → List String
  | .str s => present (some (env.strip s))
  | _ => []

/-- The candidates a certificate payload has, in the order they are tried. -/
def certificateCandidates (payload : Json) : Except PyError (List String) := do
  let pem ← payload.get "pem"
  let raw ← payload.get "certificate"
  let nested ←
    match raw with
    | .str _ => .ok (certificateCandidate env raw)
    | .obj _ => do
      let fields ← ["pem", "data", "value", "body", "certificate"].mapM raw.get
      .ok (fields.flatMap (certificateCandidate env))
    | _ => .ok []
  let candidates := certificateCandidate env pem ++ nested
  if candidates = [] then do
    let der ← payload.get "der"
    .ok (certificateCandidate env der)
  else .ok candidates

/-- A candidate, read as a certificate. -/
def loadCertificate (candidate : String) : Option env.Certificate :=
  (if hasCertificateHeader candidate then env.loadPemCertificate candidate
    else env.b64decodeStrict candidate >>= env.loadDerCertificate).toOption

/-- `_extract_certificate_material`: the public key and the certificate. -/
def extractCertificateMaterial (payload : Json) : Except PyError (String × Option String) := do
  if !payload.isDict then .error (valueError "certificate payload must be an object")
  else
    let candidates ← certificateCandidates env payload
    match candidates.findSome? (loadCertificate env) with
    | some certificate => do
      let publicKeyPem ← env.certificatePublicPem certificate
      .ok (publicKeyPem, some (env.certificatePem certificate))
    | none =>
      let field ← payload.getFirst ["publicKey", "public_key"]
      match certificateCandidate env field with
      | publicKey :: _ => .ok (normalizedPublicKey env publicKey, none)
      | [] =>
        .error (valueError "certificate payload missing usable certificate or public key data")

/-- The key id a certificate payload names, itself or in its subject. -/
def certificateKeyId (payload : Json) : Except PyError Json := do
  let keyId ← payload.getFirst ["keyId", "id"]
  let subject ← payload.get "subject"
  if !keyId.truthy ∧ subject.isDict then subject.getFirst ["keyId", "id"] else .ok keyId

/-- What a certificate exchange stores under its key id. -/
def exchangedKeyPayload (payload : Json) (publicKeyPem : String) (certificatePem : Option String)
    (now : ℤ) : Except PyError (List (String × Json)) := do
  let fields ← ["permissions", "userId", "vehicleId"].mapM fun name => do
    let value ← payload.get name
    .ok (if payload.has name then [(name, value)] else [])
  .ok ((if publicKeyPem = "" then [] else [("publicKey", .str publicKeyPem)]) ++
    (present certificatePem).map (fun pem => ("certificate", .str pem)) ++
    fields.flatten ++ [("updatedAt", .int now)])

/-- What a certificate exchange changes in a session that exists already. -/
def applyCertificate (sessionId publicKeyPem : String) (certificatePem : Option String) :
    Py Unit := do
  match ← Py.pairing fun p => p.pkiSessions.get? sessionId with
  | none => pure ()
  | some ref => do
    Py.when (publicKeyPem ≠ "") <|
      Py.setSession ref fun s =>
        if s.userPublicKeyPem = "" then
          { s with userPublicKeyPem := publicKeyPem, handshakePublicKeyPem := some publicKeyPem }
        else { s with certificatePublicKeyPem := some publicKeyPem }
    Py.when (present certificatePem ≠ []) <|
      Py.setSession ref fun s => { s with userCertificatePem := .ofOption certificatePem }
    Py.setPairing fun p =>
      { p with
        pkiSessions := p.pkiSessions.set sessionId ref
        pkiState := some ref
        lastSessionId := some sessionId }
    exportPkiSessionState env

/-- `store_pki_certificate`. The key id is stored as the payload has it, a string or
not, and no signature has been asked for. -/
def storePkiCertificate (sessionId : String) (payload : Json) : Py Json := do
  if sessionId = "" then throw (valueError "Missing sessionId for cert_exchange")
  else
    match ← Py.pairing fun p => p.handshakeContexts.get? sessionId with
    | none => throw (valueError ("Handshake context not found for session " ++ sessionId))
    | some contextRef => do
      let (publicKeyPem, certificatePem) ← Py.ofExcept
        ((extractCertificateMaterial env payload).mapError fun e =>
          if e.kind = .valueError then valueError ("Invalid certificate payload: " ++ e.message)
          else e)
      Py.setContext contextRef fun c =>
        { c with
          userCertificate :=
            if present certificatePem = [] then c.userCertificate else certificatePem
          certificatePublicKey :=
            if publicKeyPem = "" then c.certificatePublicKey else some publicKeyPem }
      let keyId ← Py.ofExcept (certificateKeyId payload)
      let now ← Py.ask env.timeMs
      let keyPayload ← Py.ofExcept (exchangedKeyPayload payload publicKeyPem certificatePem now)
      -- a key that cannot be stored is only logged
      Py.when keyId.truthy
        (tryCatch (upsertKey env .certExchange keyId (.obj keyPayload)) fun _ => pure ())
      Py.setPairing fun p =>
        { p with
          handshakeContexts := p.handshakeContexts.set sessionId contextRef
          pendingHandshake := some contextRef }
      applyCertificate env sessionId publicKeyPem certificatePem
      pure (.obj [("type", .str "cert_exchange_ack"),
        ("success", .bool true),
        ("sessionId", .str sessionId)])

/-! ### Session seeds -/

/-- The handshake context a seed is for: that of the session, the pending one if it
is of the session, or a new one. -/
def seedContext (sessionId : String) (pairingToken clientNonceB64 : Json) : Py ℕ := do
  match ← Py.pairing fun p => p.handshakeContexts.get? sessionId with
  | some ref => pure ref
  | none => do
    let pending ← Py.pairing fun p =>
      p.pendingHandshake.filter fun ref => (p.contexts.read ref).sessionId = sessionId
    match pending with
    | some ref => pure ref
    | none => do
      let vehicleKeys ← Py.ask env.loadVehicleKeys
      let vehiclePublicKey ← Py.ofExcept vehicleKeys
      let vehicleNonce ← Py.ask fun n => env.urandom n 16
      let ref ← Py.newContext
        { sessionId := sessionId
          pairingToken := pairingToken
          userPublicKey := ""
          userCertificate := none
          vehiclePublicKey := vehiclePublicKey
          vehicleNonce := vehicleNonce
          clientNonce := clientNonceB64 }
      Py.setPairing fun p =>
        { p with
          handshakeContexts := p.handshakeContexts.set sessionId ref
          pendingHandshake := some ref }
      pure ref

/-- A nonce that is only used if it can be decoded; what is no string raises. -/
def optionalNonce (nonceB64 : Json) : Except PyError (Option Bytes) :=
  if nonceB64.truthy then
    match pyB64decode env nonceB64 with
    | .ok nonce => .ok (some nonce)
    | .error e => if e.kind = .valueError then .ok none else .error e
  else .ok none

/-- The pairing token of a seeded session: from the seed, from its context, or from
the session that was exported last. -/
def seedPairingToken (pairingToken : Json) (context : PkiHandshakeContext)
    (cached : Option (List (String × Json))) : String :=
  let candidate := pairingToken.or context.pairingToken
  let candidate :=
    if candidate.isNone then ((cached.bind fun c => c.lookup "pairingToken").getD .null)
    else candidate
  if candidate.isNone then "" else pyStr env candidate

/-- `seed_pki_session`. The session counts as verified. -/
def seedPkiSession (sessionId sessionKeyB64 : String)
    (pairingToken clientNonceB64 serverNonceB64 expiresAt : Json) : Py Json := do
  if sessionId = "" then throw (valueError "Missing sessionId for session_seed")
  else if sessionKeyB64 = "" then throw (valueError "Missing sessionKey for session_seed")
  else
    let sessionKey := normalizeSessionKey env sessionKeyB64
    if sessionKey.length ∉ [16, 24, 32] then
      throw (valueError "Session key must be 16, 24, or 32 bytes after normalization")
    else do
      let contextRef ← seedContext env sessionId pairingToken clientNonceB64
      let context ← Py.context contextRef
      let cached ← Py.pairing PairingManager.cachedPkiPayload
      let now ← Py.ask env.time
      let clientNonce ← Py.ofExcept (optionalNonce env (clientNonceB64.or context.clientNonce))
      let serverNonce ← Py.ofExcept (optionalNonce env serverNonceB64)
      -- the source keeps the end of the session's life in this field
      let establishedAt ← Py.ofExcept
        (if expiresAt.isNone then .ok now
          else
            match env.floatOf expiresAt with
            | .ok t => .ok t
            | .error e => if e.kind = .typeError ∨ e.kind = .valueError then .ok now else .error e)
      let vehicleNonce := serverNonce.getD context.vehicleNonce
      let ref ← Py.newSession
        { sessionId := sessionId
          pairingToken := seedPairingToken env pairingToken context cached
          userPublicKeyPem := context.userPublicKey
          handshakePublicKeyPem := (present (some context.userPublicKey)).head?
          certificatePublicKeyPem := context.certificatePublicKey
          userCertificatePem := .ofOption context.userCertificate
          vehiclePublicKeyPem := context.vehiclePublicKey
          vehicleNonce := vehicleNonce
          sessionKey := sessionKey
          establishedAt := establishedAt
          clientNonce := clientNonce
          signatureVerified := true }
      Py.setPairing fun p =>
        { p with
          pkiState := some ref
          pkiSessions := p.pkiSessions.set sessionId ref
          pendingHandshake := p.pendingHandshake.filter fun r =>
            (p.contexts.read r).sessionId ≠ sessionId
          lastSessionId := some sessionId
          handshakeContexts := p.handshakeContexts.erase sessionId }
      exportPkiSessionState env
      if env.suppressSeedAck then pure .null
      else
        pure (.obj [("type", .str "session_seed_ack"),
          ("success", .bool true),
          ("sessionId", .str sessionId),
          ("serverNonce", .str (env.b64encode vehicleNonce))])

/-! ### Recovering a session -/

/-- The public key and the certificate a recovery finds; an unusable certificate is as
good as none. -/
def recoveryExtracted (payload : Json) : Except PyError (Option String × Option String) :=
  match extractCertificateMaterial env payload with
  | .ok (publicKeyPem, certificatePem) => .ok (some publicKeyPem, certificatePem)
  | .error e => if e.kind = .valueError then .ok (none, none) else .error e

/-- The public key a recovery uses, from the certificate or as the payload has it. -/
def recoveryPublicKey (extracted : Option String) (payload : Json) :
    Except PyError (Option String) := do
  let field ← payload.getFirst ["publicKey", "public_key"]
  let chosen := (Json.ofOption extracted).or field
  let chosen ←
    if chosen.isDict then do
      let inner ← chosen.getFirst ["pem", "data"]
      .ok (inner.or (.str (env.dumps chosen)))
    else .ok chosen
  .ok ((certificateCandidate env chosen).head?.map (normalizedPublicKey env))

/-- Pairing token, vehicle public key and vehicle nonce. -/
structure RecoveryMaterial where
  pairingToken : Json
  vehiclePublicKey : Option String
  vehicleNonce : Option Bytes

/-- What a recovery starts from: a session, else the PIN session, and what is missing
then from the session that was exported last. -/
def recoveryMaterial (template : Option PkiSessionState) (pin : Option PinSessionState)
    (cached : Option (List (String × Json))) : RecoveryMaterial :=
  let fromSession : RecoveryMaterial :=
    match template with
    | some s => ⟨.str s.pairingToken, some s.vehiclePublicKeyPem, some s.vehicleNonce⟩
    | none => ⟨.null, none, none⟩
  let fromPin : RecoveryMaterial :=
    match fromSession.pairingToken.isNone, pin with
    | true, some pin =>
      { fromSession with
        pairingToken := pin.pairingToken
        vehicleNonce :=
          match present pin.vehicleNonceB64 with
          | nonceB64 :: _ => (env.b64decode nonceB64).toOption
          | [] => fromSession.vehicleNonce }
    | _, _ => fromSession
  match fromPin.pairingToken.isNone || fromPin.vehicleNonce.isNone, cached with
  | true, some c =>
    { pairingToken := fromPin.pairingToken.or ((c.lookup "pairingToken").getD .null)
      vehiclePublicKey :=
        match present fromPin.vehiclePublicKey with
        | key :: _ => some key
        | [] => ((c.lookup "vehiclePublicKey").filter Json.truthy).map (pyStr env)
      vehicleNonce :=
        match fromPin.vehicleNonce with
        | some nonce => some nonce
        | none =>
          let nonceB64 := (c.lookup "vehicleNonce").getD .null
          if nonceB64.truthy then (pyB64decode env nonceB64).toOption else none }
  | _, _ => fromPin

/-- The certificate of a recovered session: as it was read, or as the payload has
it. -/
def recoveryCertificate (certificatePem : Option String) (payload : Json) :
    Except PyError Json := do
  let field ← payload.getFirst ["pem", "certificate"]
  .ok ((Json.ofOption certificatePem).or field)

/-- Whether a recovered session starts out verified: as the session it replaces, or
as the one that was exported last. -/
def recoveredVerified (template : Option PkiSessionState)
    (cached : Option (List (String × Json))) : Bool :=
  (template.any fun s => s.signatureVerified) ||
    (cached.any fun c => ((c.lookup "signatureVerified").getD .null).truthy)

/-- What a recovered session takes over. -/
def PkiSessionState.recovered (new : PkiSessionState) (template : Option PkiSessionState)
    (vehiclePublicKey : Option String) (verified : Bool) : PkiSessionState :=
  let new :=
    match present vehiclePublicKey with
    | key :: _ => { new with vehiclePublicKeyPem := key }
    | [] => new
  let new :=
    match present (template.bind PkiSessionState.handshakePublicKeyPem) with
    | key :: _ => { new with handshakePublicKeyPem := some key, userPublicKeyPem := key }
    | [] => new
  let new :=
    match present (template.bind PkiSessionState.certificatePublicKeyPem) with
    | key :: _ => { new with certificatePublicKeyPem := some key }
    | [] => new
  { new with signatureVerified := verified }

/-- `recover_pki_session`, with `mark_verified=False`. -/
def recoverPkiSession (sessionId : String) (payload : Json) : Py (Option ℕ) := do
  let material ← Py.ofExcept (recoveryExtracted env payload)
  match ← Py.ofExcept (recoveryPublicKey env material.1 payload) with
  | none => pure none
  | some remotePublicKey => do
    -- the session itself, else the one that is current
    let templateRef ← Py.pairing fun p =>
      match p.pkiSessions.get? sessionId with
      | some ref => some ref
      | none => p.pkiState
    let template ← Py.pairing fun p => templateRef.map p.sessions.read
    let pin ← Py.pairing PairingManager.pinSessionState
    let cached ← Py.pairing PairingManager.cachedPkiPayload
    let found := recoveryMaterial env template pin cached
    match found.pairingToken.isNone, found.vehicleNonce with
    | false, some vehicleNonce => do
      let vehicleKeys ← Py.ask env.loadVehicleKeys
      let vehiclePublicKey := found.vehiclePublicKey.or vehicleKeys.toOption
      let certificate ← Py.ofExcept (recoveryCertificate material.2 payload)
      let derived ← tryCatch
        (do
          let s ← deriveSessionKey env sessionId (pyStr env found.pairingToken) vehicleNonce
            remotePublicKey certificate
          pure (some s))
        (fun _ => pure none)
      match derived with
      | none => pure none
      | some s => do
        let ref ← Py.newSession
          (s.recovered template vehiclePublicKey (recoveredVerified template cached))
        Py.setPairing fun p =>
          { p with
            pkiState := some ref
            pkiSessions := p.pkiSessions.set sessionId ref
            lastSessionId := some sessionId }
        exportPkiSessionState env
        pure (some ref)
    | _, _ => pure none

end DigitalKey

end VehicleStack
