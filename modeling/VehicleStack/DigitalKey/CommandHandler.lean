import VehicleStack.DigitalKey.Pairing

/-!
# The command handler

`command_handler.py`: what a write to the command characteristic does. A payload
either names a vehicle command or has a type, and a typed payload may carry an
encrypted one inside, which is handled the same way again. How deep that goes is
bounded by Python's recursion limit; the limit is a parameter of
`VehicleStack.DigitalKey.handleTypedRequest`, and beyond it a `RecursionError` is
raised, which the handlers around it catch like any other exception.

A vehicle command other than `GET_ALL` looks its key up in the store, and asks the
server for its keys once if it is not there. That lookup is the only check made
before the command is sent over IPC.

The handler has a pairing manager, as the BLE server gives it one, so the branches
for a handler without are left out.
-/

namespace VehicleStack

namespace DigitalKey

variable (env : Platform)

/-- `VEHICLE_COMMANDS`. -/
def vehicleCommands : List String := ["UNLOCK", "LOCK", "START", "GET_ALL"]

/-! ### IPC -/

/-- One token of a reply: a field, or a flag. -/
def parseToken (parsed : List (String × Json)) (token : String) : List (String × Json) :=
  let token := env.strip token
  if token = "" then parsed
  else
    match pySplit token '=' with
    | key :: value :: rest =>
      Json.setMember parsed (env.upper key) (.str ("=".intercalate (value :: rest)))
    | _ =>
      let flags := match parsed.lookup "_flags" with | some (.arr flags) => flags | _ => []
      Json.setMember parsed "_flags" (.arr (flags ++ [.str (env.upper token)]))

/-- `_dispatch_ipc_command`. The key the command was given for is recorded with it. -/
def dispatchIpcCommand (command keyId : String) : Py (Bool × List (String × Json)) := do
  if !env.ipcClient then
    throw ⟨.runtimeError, "Realtime IPC client unavailable (ipc_client module missing)"⟩
  else do
    Py.emit (.dispatched command keyId)
    match ← Py.ask fun n => env.sendCmd n command with
    | .error e => pure (false, [("error", .str ("ipc_exception:" ++ e.message))])
    | .ok (ok, resp) =>
      if ok then
        pure (true, (pySplit (env.strip resp) ';').foldl (parseToken env)
          [("rawResponse", .str resp)])
      else pure (false, [("rawResponse", .str resp), ("error", .str resp)])

/-- `_extract_vehicle_state`. -/
def extractVehicleState (parsed : List (String × Json)) : List (String × Json) :=
  let isOn : Json → Bool := fun v => env.strip (pyStr env v) ∈ ["1", "true", "TRUE"]
  let field : String → String → List (String × Json) := fun name member =>
    match parsed.lookup name with
    | none | some .null => []
    | some v => [(member, .bool (isOn v))]
  field "LOCKED" "locked" ++ field "ENGINE" "engineOn"

/-! ### Vehicle commands -/

/-- Whether the key is in the store, with a payload that is not empty. -/
def knowsKey (keyId : String) : Py Bool := do
  let w ← get
  pure ((w.store.getKey keyId).any Json.truthy)

/-- The key has to be in the store, if need be after the server was asked for its
keys. -/
def requireKey (keyId : String) : Py Unit := do
  if ← knowsKey keyId then pure ()
  else do
    let synced ← syncKeysFromServer env
    if ← knowsKey keyId then pure ()
    else
      throw (valueError
        (if synced then "Unknown keyId after sync: " ++ keyId else "Unknown keyId: " ++ keyId))

/-- The check of a command that needs a key: the time stamp and the key. -/
def checkKey (keyId : String) (payload : Json) : Py ℤ := do
  let given ← Py.ofExcept (payload.getD "timestamp" (.int 0))
  let timestamp ← Py.ofExcept
    ((pyInt env given).mapError fun e =>
      if e.kind = .typeError ∨ e.kind = .valueError then valueError "Invalid timestamp" else e)
  if keyId = "" then throw (valueError "Missing keyId")
  else do
    requireKey env keyId
    if timestamp = 0 then throw (valueError "Missing timestamp") else pure timestamp

/-- The time stamp a command is processed under; `GET_ALL` needs no key. -/
def commandTimestamp (command keyId : String) (payload : Json) : Py ℤ :=
  if command ≠ "GET_ALL" then checkKey env keyId payload else Py.ask env.timeMs

/-- The state of the vehicle after a command, asked for if the reply does not have
it. -/
def vehicleStateAfter (command keyId : String) (reply : List (String × Json)) :
    Py (List (String × Json)) := do
  let state := extractVehicleState env reply
  if command ≠ "GET_ALL" ∧ state = [] then
    let (ok, status) ← dispatchIpcCommand env "GET_ALL" keyId
    pure (if ok then extractVehicleState env status else state)
  else pure state

/-- Sending a command, and what is answered then. -/
def dispatchCommand (command keyId : String) (timestamp : ℤ) : Py Answer := do
  let (actionOk, reply) ← dispatchIpcCommand env command keyId
  let raw := (reply.lookup "rawResponse").getD .null
  if !actionOk then do
    let detail := (((reply.lookup "error").getD .null).or raw).or (.str "ipc_failed")
    let now ← Py.ask env.timeMs
    pure (false, .obj [("success", .bool false),
      ("command", .str command),
      ("timestamp", .int now),
      ("error", detail)])
  else do
    let state ← vehicleStateAfter env command keyId reply
    let now ← Py.ask env.timeMs
    let stateMember := if state = [] then [] else [("vehicleState", Json.obj state)]
    pure (true, .obj ([("success", .bool true),
      ("command", .str command),
      ("timestamp", .int now),
      ("data", .obj ([("commandProcessedAt", .int timestamp)] ++ stateMember))] ++ stateMember ++
      (if raw.truthy then [("metadata", .obj [("ipcRaw", raw)])] else [])))

/-- `_handle_vehicle_command`. -/
def handleVehicleCommand (command : String) (payload : Json) : Py Answer := do
  let given ← Py.ofExcept (payload.getD "keyId" (.str ""))
  let keyId := pyStr env given
  let timestamp ← commandTimestamp env command keyId payload
  dispatchCommand env command keyId timestamp

/-! ### Encrypted commands -/

/-- A decrypted payload, decoded. -/
def decodeInner (what : String) (plaintext : Bytes) : Py Json :=
  match env.loads plaintext with
  | .ok inner => pure inner
  | .error e =>
    if e.kind = .valueError then
      throw (valueError ("Failed to decode " ++ what ++ " payload: " ++ e.message))
    else throw e

/-- `_handle_secure_command`, given what handles the payload inside. -/
def handleSecureCommand (inner : Json → Py Answer) (payload : Json) : Py Answer := do
  let given ← Py.ofExcept (payload.get "sessionId")
  let sessionId := pyStr env (given.or (.str ""))
  if sessionId = "" then throw (valueError "Missing sessionId for secure command payload")
  else do
    let encryptedPayload ← Py.ofExcept (payload.get "encryptedPayload")
    if !encryptedPayload.truthy then
      throw (valueError "Missing encryptedPayload for secure command payload")
    else
      match ← getPkiSessionState sessionId with
      | none => throw (valueError ("No PKI session material for session " ++ sessionId))
      | some ref => do
        let state ← Py.session ref
        if !state.signatureVerified then
          throw (valueError "PKI session not verified by client signature")
        else do
          let nonce ← Py.ofExcept (payload.get "nonce")
          let plaintext ← Py.ofExcept
            (decryptPayload env state.sessionKey (pyStr env encryptedPayload) nonce)
          let innerPayload ← decodeInner env "secure command" plaintext
          let (ok, response) ← inner innerPayload
          -- the payload inside may have changed the session
          let state ← Py.session ref
          -- a nonce in the request asks for one beside the answer
          let envelope ← encryptPayload env state.sessionKey (env.encode (env.dumps response))
            (!payload.has "nonce")
          let now ← Py.ask env.timeMs
          pure (ok, .obj (envelope ++ [("type", .str "secure_command"),
            ("sessionId", .str sessionId),
            ("success", .bool ok),
            ("timestamp", .int now)]))

/-- `_maybe_store_key_from_certificate`. A key that cannot be stored is only
logged. -/
def maybeStoreKeyFromCertificate (certificate : Json) : Py Unit := do
  let given ← Py.ofExcept (certificateKeyId certificate)
  Py.when given.truthy do
    let keyId := pyStr env given
    let known ← knowsKey keyId
    Py.when (!known) do
      let permissions ← Py.ofExcept (certificate.get "permissions")
      let userId ← Py.ofExcept (certificate.get "userId")
      let vehicleId ← Py.ofExcept (certificate.get "vehicleId")
      let now ← Py.ask env.timeMs
      tryCatch
        (upsertKey env .pkiCertificate (.str keyId) (.obj [("keyId", .str keyId),
          ("certificate", certificate),
          ("permissions", permissions),
          ("userId", userId),
          ("vehicleId", vehicleId),
          ("updatedAt", .int now)]))
        (fun _ => pure ())

/-- `_refresh_certificate_material`. -/
def refreshCertificateMaterial (ref : ℕ) (certificate : Json) : Py Unit :=
  Py.when certificate.truthy do
    let material ← Py.ofExcept (certificate.getFirst ["publicKey", "public_key"])
    let pem ← Py.ofExcept (certificate.get "pem")
    let raw ← Py.ofExcept (certificate.get "certificate")
    let certificatePem :=
      if pem.isNone then
        match raw with
        | .str text => if hasCertificateHeader text then raw else .null
        | _ => .null
      else pem
    let publicKey := ((certificateCandidate env material).head?.bind fun key =>
      (coercePublicKeyPem env key).toOption).getD ""
    Py.when (publicKey ≠ "") <|
      Py.setSession ref fun s =>
        if s.userPublicKeyPem ≠ "" ∧ env.strip s.userPublicKeyPem ≠ env.strip publicKey then
          { s with certificatePublicKeyPem := some publicKey }
        else { s with userPublicKeyPem := publicKey, handshakePublicKeyPem := some publicKey }
    Py.when certificatePem.truthy <|
      Py.setSession ref fun s => { s with userCertificatePem := certificatePem }

/-- What `_handle_pki_command` does once it has a session: the signature, if there is
one, the payload inside, and the signed answer. -/
def runPkiCommand (inner : Json → Py Answer) (sessionId version : String) (ref : ℕ)
    (payload : Json) : Py Answer := do
  let nonceB64 ← Py.ofExcept (payload.getFirst ["nonce", "clientNonce"])
  let signatureB64 ← Py.ofExcept (payload.get "signature")
  -- a payload without a signature passes
  finalizeSessionState env ref nonceB64 signatureB64 (some payload)
  let encryptedPayload ← Py.ofExcept (payload.getFirst ["encryptedPayload", "encrypted_payload"])
  if !encryptedPayload.truthy then throw (valueError "pki_command missing encryptedPayload")
  else do
    let state ← Py.session ref
    let nonce ← Py.ofExcept (payload.get "nonce")
    let plaintext ← Py.ofExcept
      (decryptPayload env state.sessionKey (pyStr env encryptedPayload) nonce)
    let innerPayload ← decodeInner env "pki_command" plaintext
    let (ok, response) ← inner innerPayload
    let state ← Py.session ref
    let envelope ← encryptPayload env state.sessionKey (env.encode (env.dumps response)) true
    let now ← Py.ask env.timeMs
    let encrypted := pyStr env ((envelope.lookup "encryptedPayload").getD .null)
    let signature ← signVehicleResponse env sessionId encrypted now none
    pure (ok, .obj [("version", .str version),
      ("type", .str "pki_response"),
      ("sessionId", .str sessionId),
      ("success", .bool ok),
      ("encryptedPayload", .str encrypted),
      ("timestamp", .int now),
      ("signature", .str signature)])

/-- The session of a command: the one there is, else a recovered one. -/
def commandSession (sessionId : String) (certificate : Json) : Py (Option ℕ) := do
  match ← getPkiSessionState sessionId with
  | some ref => pure (some ref)
  | none => recoverPkiSession env sessionId certificate

/-- `_handle_pki_command`, given what handles the payload inside. The key of the
certificate is stored, and the session changed, before any signature is looked
at. -/
def handlePkiCommand (inner : Json → Py Answer) (payload : Json) : Py Answer := do
  let given ← Py.ofExcept (payload.getFirst ["sessionId", "session_id"])
  let sessionId := pyStr env (given.or (.str ""))
  if sessionId = "" then throw (valueError "Missing sessionId for pki_command")
  else do
    -- a missing certificate is as good as an empty one
    let stated ← Py.ofExcept (payload.get "certificate")
    let certificate := stated.or (.obj [])
    Py.when certificate.truthy (maybeStoreKeyFromCertificate env certificate)
    match ← commandSession env sessionId certificate with
    | none => throw (valueError ("No PKI session material for session " ++ sessionId))
    | some ref => do
      refreshCertificateMaterial env ref certificate
      let givenVersion ← Py.ofExcept (payload.get "version")
      let version := pyStr env (givenVersion.or (.str "2.0-PKI"))
      tryCatch (runPkiCommand env inner sessionId version ref payload) fun e => do
        let now ← Py.ask env.timeMs
        pure (false, .obj [("version", .str version),
          ("type", .str "pki_response"),
          ("sessionId", .str sessionId),
          ("success", .bool false),
          ("timestamp", .int now),
          ("error", .str e.message)])

/-! ### Typed requests -/

/-- `cert_request`. -/
def handleCertRequest (payload : Json) : Py Answer := do
  match env.certificateProvider with
  | none => throw (valueError "Certificate provider is unavailable")
  | some provider => do
    let provided ← Py.ask provider
    let members ← Py.ofExcept provided
    let now ← Py.ask env.timeMs
    let response := Json.setMember members "success" (.bool true)
    let response :=
      if (response.lookup "type").isSome then response
      else response ++ [("type", .str "cert_response")]
    let response := Json.setMember response "timestamp" (.int now)
    let requestId ← Py.ofExcept (payload.get "requestId")
    -- the line that logs the version raises for a certificate that is no object
    let _ ← Py.ofExcept (((response.lookup "certificate").getD (.obj [])).get "version")
    pure (true, .obj
      (if payload.has "requestId" then Json.setMember response "requestId" requestId
        else response))

/-- `_handle_pki_handshake`. -/
def handlePkiHandshake (payload : Json) : Py Answer := do
  let sessionId ← Py.ofExcept (payload.getFirst ["sessionId", "session_id"])
  let clientPublicKey ← Py.ofExcept (payload.getFirst
    ["clientPublicKey", "client_public_key", "userPublicKey", "user_public_key"])
  let pairingToken ← Py.ofExcept (payload.getFirst ["pairingToken", "pairing_token"])
  let clientNonce ← Py.ofExcept (payload.getFirst ["clientNonce", "client_nonce"])
  let version ← Py.ofExcept (payload.getFirst ["version", "protocolVersion"])
  let response ← beginPkiHandshake env (pyStr env (sessionId.or (.str "")))
    (pyStr env (clientPublicKey.or (.str ""))) pairingToken clientNonce version
  pure (true, response)

/-- `_handle_pki_cert_exchange`. -/
def handlePkiCertExchange (payload : Json) : Py Answer := do
  let sessionId ← Py.ofExcept (payload.getFirst ["sessionId", "session_id"])
  let certificate ← Py.ofExcept (payload.get "certificate")
  if !certificate.isDict then
    throw (valueError "cert_exchange payload missing certificate object")
  else do
    let response ← storePkiCertificate env (pyStr env (sessionId.or (.str ""))) certificate
    pure (true, response)

/-- A field of a session seed: of its `session` member, else of the payload under
either spelling. -/
def seedField (session payload : Json) (name snakeName : String) : Except PyError Json := do
  let inSession ← session.get name
  let inPayload ← payload.getFirst [name, snakeName]
  .ok (inSession.or inPayload)

/-- `_handle_pki_session_seed`. -/
def handlePkiSessionSeed (payload : Json) : Py Answer := do
  let given ← Py.ofExcept (payload.get "session")
  let session := given.or (.obj [])
  let sessionId ← Py.ofExcept (seedField session payload "sessionId" "session_id")
  let sessionKey ← Py.ofExcept (seedField session payload "sessionKey" "session_key")
  let pairingToken ← Py.ofExcept (seedField session payload "pairingToken" "pairing_token")
  let clientNonce ← Py.ofExcept (seedField session payload "clientNonce" "client_nonce")
  let serverNonce ← Py.ofExcept (seedField session payload "serverNonce" "server_nonce")
  let expiresAt ← Py.ofExcept (seedField session payload "expiresAt" "expires_at")
  let response ← seedPkiSession env (pyStr env (sessionId.or (.str "")))
    (pyStr env (sessionKey.or (.str ""))) pairingToken clientNonce serverNonce expiresAt
  pure (true, response)

/-- `_handle_inner_secure_command`, given what handles typed requests. -/
def handleInnerSecureCommand (typed : String → Json → Py Answer) (payload : Json) :
    Py Answer := do
  let given ← Py.ofExcept (payload.getD "type" (.str ""))
  let innerType := env.lower (pyStr env given)
  if innerType ≠ "" ∧ innerType ≠ "secure_command" then typed innerType payload
  else do
    -- a secure command inside another payload is read as a vehicle command
    let stated ← Py.ofExcept (payload.getD "command" (.str ""))
    let command := env.upper (pyStr env stated)
    if command ∈ vehicleCommands then handleVehicleCommand env command payload
    else throw (valueError ("Unsupported secure command payload: " ++ pyStr env payload))

/-- `_handle_typed_request`, with so many levels of nesting left. -/
def handleTypedRequest : ℕ → String → Json → Py Answer
  | 0, _, _ => throw ⟨.recursionError, "maximum recursion depth exceeded"⟩
  | depth + 1, requestType, payload =>
    let inner := handleInnerSecureCommand env (handleTypedRequest depth)
    if requestType = "cert_request" then handleCertRequest env payload
    else if requestType = "get_all" then handleVehicleCommand env "GET_ALL" payload
    else if requestType = "secure_command" then handleSecureCommand env inner payload
    else if requestType = "pki_command" then handlePkiCommand env inner payload
    else if requestType = "handshake" then handlePkiHandshake env payload
    else if requestType = "cert_exchange" then handlePkiCertExchange env payload
    else if requestType = "session_seed" then handlePkiSessionSeed env payload
    else throw (valueError ("Unsupported request type: " ++ requestType))

/-- `process`. -/
def process (recursionLimit : ℕ) (payload : Json) : Py Answer :=
  tryCatch
    (do
      let given ← Py.ofExcept (payload.getD "type" (.str ""))
      let requestType := env.lower (pyStr env given)
      if requestType ≠ "" then handleTypedRequest env recursionLimit requestType payload
      else do
        let stated ← Py.ofExcept (payload.getD "command" (.str ""))
        let command := env.upper (pyStr env stated)
        if command ∈ vehicleCommands then handleVehicleCommand env command payload
        else throw (valueError ("Unsupported command: " ++ command)))
    fun e => do
      let command ← Py.ofExcept (payload.get "command")
      let requestType ← Py.ofExcept (payload.get "type")
      let now ← Py.ask env.timeMs
      pure (false, .obj [("success", .bool false),
        ("command", command),
        ("type", requestType),
        ("timestamp", .int now),
        ("error", .str e.message)])

end DigitalKey

end VehicleStack
