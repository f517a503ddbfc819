import VehicleStack.DigitalKey.Pairing

/-!
# PIN sessions

The part of `pairing.py` that the pairing API takes part in: a challenge, for which a
PIN is requested, and the status of a PIN, which a thread of the process asks for
again and again and which a session key is made from when the PIN was verified.

What the API answers is `VehicleStack.DigitalKey.PairingApi`. A cancellation that is
sent to it changes nothing here, whatever the answer is, and is left out, as are the
export of the PIN session and its observers.
-/

namespace VehicleStack

namespace DigitalKey

/-- `PairingSession`, but for the payload it was made from. -/
structure PairingSession where
  sessionId : String
  pin : String
  expiresAt : Json := .null
  attemptsRemaining : Json := .null
  pairingToken : Json := .null
  ownerCandidateUserId : Json := .null

/-- `PinStatus`. -/
structure PinStatus where
  sessionId : String
  state : String
  expiresAt : Json := .null
  attemptsRemaining : Json := .null
  pairingToken : Json := .null
  ownerCandidateUserId : Json := .null
  userPublicKey : Json := .null
  userCertificate : Json := .null
  raw : List (String × Json) := []

/-- The pairing API, and the settings of the manager. -/
structure PairingApi where
  deviceId : String
  headerVehicleId : String
  ownerCandidateUserId : Json
  /-- `SKIP_PIN_REQUEST`. -/
  skipPinRequest : Bool
  /-- Whether `PIN_STATUS_POLL_INTERVAL` is positive. -/
  pollsStatus : Bool
  /-- `request_pin` for a payload; an error comes with the status of the HTTP response it
  was caused by, if there was one. -/
  requestPin : ℕ → Json → Except (PyError × Option ℕ) PairingSession

variable (env : Platform) (api : PairingApi)

/-! ### Challenges -/

/-- `_is_pairing_allowed`. -/
def isPairingAllowed : Py Bool := do
  let w ← get
  pure (w.store.keys.entries.isEmpty || w.pairing.pairingFlag)

/-- `_build_pin_payload`; an empty payload is not sent. -/
def buildPinPayload : Json :=
  let members := (if api.deviceId = "" then [] else [("deviceId", .str api.deviceId)]) ++
    (if api.ownerCandidateUserId.truthy then [("ownerCandidateUserId", api.ownerCandidateUserId)]
      else [])
  if members.isEmpty then .null else .obj members

/-- `text in message`. -/
def contains (message text : String) : Bool :=
  message.toList.tails.any fun rest => text.toList.isPrefixOf rest

/-- `_pin_request_recoverable`. -/
def pinRequestRecoverable (e : PyError) (statusCode : Option ℕ) : Bool :=
  let message := env.lower e.message
  statusCode = some 400 || contains message "400" || contains message "already" ||
    contains message "duplicate"

/-- The vehicle's public key, if it can be loaded. -/
def vehiclePublicKeyMember : Py (List (String × Json)) := do
  let vehicleKeys ← Py.ask env.loadVehicleKeys
  match present vehicleKeys.toOption with
  | key :: _ => pure [("vehiclePublicKey", .str key)]
  | [] => pure []

/-- `_start_pin_status_poller`. -/
def startPinStatusPoller : Py Unit :=
  Py.when api.pollsStatus (Py.setPairing fun p => { p with pinPoller := true })

/-- `_initialize_pin_session`. There is no current session then, so exporting it makes
the manager forget every session. -/
def initializePinSession (session : PairingSession) : Py Unit := do
  stopPinStatusPoller
  Py.setPairing fun p =>
    { p with
      pinSessionState := some
        { sessionId := session.sessionId
          pin := session.pin
          expiresAt := session.expiresAt
          attemptsRemaining := session.attemptsRemaining
          pairingToken := session.pairingToken
          ownerCandidateUserId := session.ownerCandidateUserId }
      pkiState := none
      pkiSessions := p.pkiSessions.erase session.sessionId }
  exportPkiSessionState env
  startPinStatusPoller api

/-- The members of a challenge for a new PIN session. -/
def challengeMembers (session : PairingSession) (nonce : String) (issuedAt : ℤ) :
    List (String × Json) :=
  [("deviceId", .str api.deviceId),
    ("vehicleId", .str api.headerVehicleId),
    ("sessionId", .str session.sessionId),
    ("nonce", .str nonce),
    ("issuedAt", .int issuedAt),
    ("expiresAt", session.expiresAt)] ++
    (if session.pairingToken.truthy then [("pairingToken", session.pairingToken)] else []) ++
    (if session.attemptsRemaining.isNone then []
      else [("attemptsRemaining", session.attemptsRemaining)]) ++
    (if session.ownerCandidateUserId.isNone then []
      else [("ownerCandidateUserId", session.ownerCandidateUserId)])

/-- What a challenge takes from a session that there is already. -/
def withSession (challenge : List (String × Json)) (state : PkiSessionState) :
    List (String × Json) :=
  Json.setMember (Json.setMember challenge "vehicleNonce" (.str (env.b64encode state.vehicleNonce)))
    "pairingToken" (.str state.pairingToken)

/-- A challenge that was made is the last one from then on. -/
def issueChallenge (challenge : List (String × Json)) : Py Json := do
  Py.setPairing fun p => { p with lastChallenge := some challenge }
  pure (.obj challenge)

/-- `_build_cached_challenge`. -/
def buildCachedChallenge (nonce : String) (issuedAt : ℤ) : Py (List (String × Json)) := do
  match ← getPkiSessionState "" with
  | some ref => do
    let state ← Py.session ref
    let vehiclePublicKey ← vehiclePublicKeyMember env
    pure ([("deviceId", .str api.deviceId),
      ("sessionId", .str state.sessionId),
      ("issuedAt", .int issuedAt),
      ("nonce", .str nonce)] ++
      (if state.pairingToken = "" then [] else [("pairingToken", .str state.pairingToken)]) ++
      (if state.vehicleNonce = [] then []
        else [("vehicleNonce", .str (env.b64encode state.vehicleNonce))]) ++ vehiclePublicKey)
  | none => do
    match ← Py.pairing PairingManager.lastChallenge with
    | some (member :: members) =>
      let cached := member :: members
      let cached := if (cached.lookup "issuedAt").isSome then cached
        else cached ++ [("issuedAt", .int issuedAt)]
      pure (if (cached.lookup "nonce").isSome then cached else cached ++ [("nonce", .str nonce)])
    | _ =>
      pure [("status", .str "DISABLED"),
        ("message", .str "PIN request skipped; use existing registration"),
        ("deviceId", .str api.deviceId),
        ("issuedAt", .int issuedAt)]

/-- `_build_error_challenge`: the last challenge again, if there was one. -/
def buildErrorChallenge (message : String) (issuedAt : ℤ) : Py Json := do
  match ← Py.pairing PairingManager.lastChallenge with
  | some (member :: members) => pure (.obj (member :: members))
  | _ =>
    pure (.obj [("deviceId", .str api.deviceId),
      ("status", .str "ERROR"),
      ("message", .str message),
      ("issuedAt", .int issuedAt)])

/-- What `build_challenge` does once it has a PIN session. -/
def challengeFor (session : PairingSession) (nonce : String) (issuedAt : ℤ) : Py Json := do
  Py.setPairing fun p => { p with activeSession := some session.sessionId }
  initializePinSession env api session
  let vehiclePublicKey ← vehiclePublicKeyMember env
  let challenge := challengeMembers api session nonce issuedAt ++ vehiclePublicKey
  match ← getPkiSessionState session.sessionId with
  | some ref => do
    let state ← Py.session ref
    issueChallenge (withSession env challenge state)
  | none => issueChallenge challenge

/-- `build_challenge`. -/
def buildChallenge : Py Json := do
  if ← isPairingAllowed then
    let nonceBytes ← Py.ask fun n => env.urandom n 16
    let nonce := env.b64encode nonceBytes
    let issuedAt ← Py.ask env.timeMs
    if api.skipPinRequest then
      let challenge ← buildCachedChallenge env api nonce issuedAt
      issueChallenge challenge
    else
      match ← Py.ask fun n => api.requestPin n (buildPinPayload api) with
      | .ok session => challengeFor env api session nonce issuedAt
      | .error (e, statusCode) =>
        if e.kind ≠ .pairingApiError then
          buildErrorChallenge api "Unexpected error requesting PIN" issuedAt
        else if pinRequestRecoverable env e statusCode then
          let challenge ← buildCachedChallenge env api nonce issuedAt
          issueChallenge challenge
        else buildErrorChallenge api e.message issuedAt
  else
    let now ← Py.ask env.timeMs
    pure (.obj [("status", .str "DISABLED"),
      ("message", .str "Pairing not enabled"),
      ("deviceId", .str api.deviceId),
      ("issuedAt", .int now)])

/-! ### The status of a PIN -/

/-- `PIN_STATUS_SUCCESS_STATES`. -/
def pinStatusSuccessStates : List String :=
  ["VERIFIED", "APPROVED", "COMPLETED", "ACTIVE", "SUCCESS"]

/-- `PIN_STATUS_TERMINAL_STATES`. -/
def pinStatusTerminalStates : List String :=
  ["CANCELLED", "EXPIRED", "FAILED", "DENIED", "TIMEOUT"]

/-- `update_from_status`. -/
def PinSessionState.updateFromStatus (pin : PinSessionState) (status : PinStatus) :
    PinSessionState :=
  { pin with
    status := if status.state = "" then pin.status else status.state
    expiresAt := status.expiresAt.or pin.expiresAt
    attemptsRemaining := status.attemptsRemaining
    pairingToken := status.pairingToken.or pin.pairingToken
    ownerCandidateUserId := status.ownerCandidateUserId.or pin.ownerCandidateUserId
    lastStatusPayload := status.raw }

/-- The PIN session changed, if it is the one of a status. -/
def PairingManager.modifyPin (p : PairingManager) (sessionId : String)
    (f : PinSessionState → PinSessionState) : PairingManager :=
  { p with
    pinSessionState := p.pinSessionState.map fun pin =>
      if pin.sessionId = sessionId then f pin else pin }

/-- `_handle_pin_verified`. A session key that cannot be derived is only logged. -/
def handlePinVerified (status : PinStatus) : Py Unit := do
  if !status.userPublicKey.truthy then pure ()
  else do
    let pin ← Py.pairing PairingManager.pinSessionState
    let pairingToken := status.pairingToken.or ((pin.map PinSessionState.pairingToken).getD .null)
    if !pairingToken.truthy then pure ()
    else do
      let vehicleNonce ← Py.ask fun n => env.urandom n 16
      let derived ← tryCatch
        (do
          let s ← deriveSessionKey env status.sessionId (pyStr env pairingToken) vehicleNonce
            (pyStr env status.userPublicKey) status.userCertificate
          pure (some s))
        (fun _ => pure none)
      match derived with
      | none => pure ()
      | some s => do
        let ref ← Py.newSession s
        Py.setPairing fun p =>
          { p with
            pkiState := some ref
            pkiSessions := p.pkiSessions.set s.sessionId ref
            lastSessionId := some s.sessionId }
        Py.setPairing fun p => p.modifyPin status.sessionId fun pin =>
          { pin with
            pairingToken := .str s.pairingToken
            vehicleNonceB64 := some (env.b64encode s.vehicleNonce)
            active := false
            status := if status.state = "" then "VERIFIED" else status.state }
        stopPinStatusPoller

/-- `_handle_pin_terminal`. -/
def handlePinTerminal (status : PinStatus) : Py Unit := do
  match ← Py.pairing PairingManager.pinSessionState with
  | none => pure ()
  | some pin =>
    if pin.sessionId ≠ status.sessionId then pure ()
    else do
      Py.setPairing fun p => p.modifyPin status.sessionId fun pin =>
        { pin with active := false, status := status.state, lastStatusPayload := status.raw }
      stopPinStatusPoller

/-- `_handle_pin_status_update`. Whether the PIN session is still active is not
asked. -/
def handlePinStatusUpdate (status : PinStatus) : Py Unit := do
  match ← Py.pairing PairingManager.pinSessionState with
  | none => pure ()
  | some pin =>
    if pin.sessionId ≠ status.sessionId then pure ()
    else do
      Py.setPairing fun p => p.modifyPin status.sessionId fun pin => pin.updateFromStatus status
      if status.state ∈ pinStatusSuccessStates then handlePinVerified env status
      else if status.state ∈ pinStatusTerminalStates then handlePinTerminal status
      else pure ()

/-- The status that `_pin_status_poll_loop` makes up for a PIN session that has
expired. -/
def expiredStatus (pin : PinSessionState) : PinStatus :=
  { sessionId := pin.sessionId
    state := "EXPIRED"
    expiresAt := pin.expiresAt
    attemptsRemaining := pin.attemptsRemaining
    pairingToken := pin.pairingToken
    ownerCandidateUserId := pin.ownerCandidateUserId
    raw := [("status", .str "EXPIRED"), ("source", .str "local-expiry")] }

end DigitalKey

end VehicleStack
