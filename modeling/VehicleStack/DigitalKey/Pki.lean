import VehicleStack.DigitalKey.World

/-!
# Session keys, signatures and encrypted payloads

`pki.py`, over the primitives of `VehicleStack.DigitalKey.Platform`. A function
that changes a `PkiSessionState` in place takes the reference to it.

`finalize_session_state` is the only place where a signature is looked at. It
accepts a payload without one: then it changes the client nonce and nothing else.
-/

namespace VehicleStack

namespace DigitalKey

variable (env : Platform)

/-! ### Public keys -/

/-- `_load_remote_public_key`: PEM, else base64 of DER, else a point in
hexadecimal. -/
def loadRemotePublicKey (data : String) : Except PyError env.PublicKey :=
  match env.loadPemPublicKey data with
  | .ok key => .ok key
  | .error e =>
    if e.kind ≠ .valueError then .error e
    else
      -- what is base64 has to be DER then; only what is not is read as hexadecimal
      match env.b64decodeStrict data with
      | .ok der => env.loadDerPublicKey der
      | .error e =>
        if e.kind ≠ .valueError ∧ e.kind ≠ .typeError then .error e
        else
          let hexCandidate := env.lower (env.strip data)
          if hexCandidate.length % 2 = 0 then
            match unhexlify hexCandidate with
            | none => .error (valueError "Unable to decode remote public key material")
            | some raw =>
              match env.fromEncodedPoint (if raw.head? = some 0x04 ∨ raw = [] then raw
                else 0x04 :: raw) with
              | .ok key => .ok key
              | .error e =>
                if e.kind = .valueError then
                  .error (valueError "Failed to parse hex-encoded public key")
                else .error e
          else .error (valueError "Unable to decode remote public key material")

/-- `coerce_public_key_pem`. -/
def coercePublicKeyPem (material : String) : Except PyError String := do
  let key ← loadRemotePublicKey env material
  .ok (env.publicPem key)

/-- `HKDF_INFO_PREFIX`. -/
def hkdfInfoPrefix : String := "digital-key-session"

/-- `derive_session_key`. -/
def deriveSessionKey (sessionId pairingToken : String) (vehicleNonce : Bytes)
    (remotePublicKeyPem : String) (userCertificatePem : Json) : Py PkiSessionState := do
  let vehicleKeys ← Py.ask env.loadVehicleKeys
  let vehiclePublicKeyPem ← Py.ofExcept vehicleKeys
  let remote ← Py.ofExcept (loadRemotePublicKey env remotePublicKeyPem)
  let sharedSecret ← Py.ofExcept (env.exchange remote)
  let now ← Py.ask env.time
  pure
    { sessionId := sessionId
      pairingToken := pairingToken
      userPublicKeyPem := remotePublicKeyPem
      handshakePublicKeyPem := some remotePublicKeyPem
      userCertificatePem := userCertificatePem
      vehiclePublicKeyPem := vehiclePublicKeyPem
      vehicleNonce := vehicleNonce
      sessionKey :=
        env.hkdf (env.encode pairingToken) (env.encode hkdfInfoPrefix ++ vehicleNonce) sharedSecret
      establishedAt := now }

/-! ### Signatures -/

/-- Whether every character is a hexadecimal digit. -/
def allHex (s : String) : Bool := s.toList.all fun c => (hexDigit? c).isSome

/-- `_decode_signature_value`. -/
def decodeSignatureValue (value : Json) : Except PyError Bytes := do
  let cleaned ← pyStrip env value
  if cleaned = "" then .error (valueError "Client signature is empty")
  else
    match (if allHex cleaned ∧ cleaned.length % 2 = 0 then unhexlify cleaned else none) with
    | some signature => .ok signature
    | none =>
      let remainder := cleaned.length % 4
      let normalized :=
        if remainder = 0 then cleaned
        else cleaned ++ String.ofList (List.replicate (4 - remainder) '=')
      match env.b64decodeStrict normalized with
      | .ok signature => .ok signature
      | .error e =>
        if e.kind = .valueError then
          .error (valueError "Client signature is not valid base64 or hex")
        else .error e

/-- `_serialize_signed_payload`, before it becomes text. -/
def signedPayload (state : PkiSessionState) (payload : Json) : Except PyError Json := do
  let session ← payload.getFirst ["sessionId", "session_id"]
  let encryptedPayload ← payload.getFirst ["encryptedPayload", "encrypted_payload"]
  if encryptedPayload.isNone then .error (valueError "Signed payload missing encryptedPayload")
  else
    let timestamp ← payload.getFirst ["timestamp", "timestamp_ms"]
    if timestamp.isNone then .error (valueError "Signed payload missing timestamp")
    else
      let nonce ← payload.get "nonce"
      .ok (.obj
        ([("sessionId", .str (pyStr env (session.or (.str state.sessionId)))),
          ("encryptedPayload", .str (pyStr env encryptedPayload))] ++
          (if nonce.isNone then [] else [("nonce", .str (pyStr env nonce))]) ++
          [("timestamp", timestamp)]))

/-- An optional string that is there and not empty. -/
def present (s : Option String) : List String :=
  match s with
  | some s => if s = "" then [] else [s]
  | none => []

/-- The keys a signature is tried under, each once. -/
def candidateKeys (state : PkiSessionState) : List String :=
  let handshake := present state.handshakePublicKeyPem
  let user := (present (some state.userPublicKeyPem)).filter fun k => k ∉ handshake
  let certificate := (present state.certificatePublicKeyPem).filter fun k => k ∉ handshake ++ user
  handshake ++ user ++ certificate

/-- What an accepted signature changes: the session is verified, and the key it was
verified under is remembered. -/
def acceptSignature (ref : ℕ) (keyMaterial : String) : Py Unit := do
  let state ← Py.session ref
  Py.emit (.signatureAccepted state.sessionId keyMaterial)
  Py.setSession ref fun s =>
    let verified := { s with signatureVerified := true }
    if keyMaterial = "" then verified
    else
      match present s.handshakePublicKeyPem with
      | [] =>
        { verified with
          handshakePublicKeyPem := some keyMaterial
          userPublicKeyPem := keyMaterial }
      | handshake :: _ =>
        if env.strip handshake ≠ env.strip keyMaterial then
          { verified with certificatePublicKeyPem := some keyMaterial }
        else verified

/-- The loop over the candidate keys: the next one is tried after `InvalidSignature`
only. -/
def verifySignature (ref : ℕ) (signature message : Bytes) : List String → Py Unit
  | [] => throw (valueError "Client signature verification failed")
  | keyMaterial :: rest =>
    match (do
      let key ← loadRemotePublicKey env keyMaterial
      env.verify key signature message) with
    | .ok () => acceptSignature env ref keyMaterial
    | .error e =>
      if e.kind = .invalidSignature then verifySignature ref signature message rest else throw e

/-- `finalize_session_state`. -/
def finalizeSessionState (ref : ℕ) (clientNonceB64 signatureB64 : Json) (payload : Option Json) :
    Py Unit := do
  Py.when clientNonceB64.truthy do
    let clientNonce ← Py.ofExcept (pyB64decode env clientNonceB64)
    Py.setSession ref fun s => { s with clientNonce := some clientNonce }
  Py.when signatureB64.truthy do
    let state ← Py.session ref
    let signature ← Py.ofExcept (decodeSignatureValue env signatureB64)
    let message ← Py.ofExcept
      (match payload with
        | some p => (signedPayload env state p).map fun m => env.encode (env.dumpsCompact m)
        | none => .ok (state.vehicleNonce ++ state.clientNonce.getD []))
    let candidates := candidateKeys state
    verifySignature env ref signature message
      (if candidates = [] then [state.userPublicKeyPem] else candidates)

/-! ### Encrypted payloads -/

/-- `GCM_IV_SIZE` and `GCM_TAG_SIZE`. -/
def gcmIvSize : ℕ := 12
def gcmTagSize : ℕ := 16

/-- `_decode_nonce`. -/
def decodeNonce (nonceValue : Json) : Except PyError Bytes :=
  let text := env.strip (pyStr env nonceValue)
  match (if text.length % 2 = 0 ∧ allHex text then unhexlify text else none) with
  | some nonce => .ok nonce
  | none => env.b64decode text

/-- `decrypt_payload_gcm`. -/
def decryptPayloadGcm (key payload : Bytes) (nonce : Option Bytes) : Except PyError Bytes :=
  if payload.length < gcmIvSize + gcmTagSize then
    .error (valueError "Ciphertext too short for AES-GCM payload")
  else
    let iv :=
      match nonce with
      -- a nonce of another length is only logged
      | some nonce => if nonce.length = gcmIvSize then nonce else payload.take gcmIvSize
      | none => payload.take gcmIvSize
    env.gcmDecrypt key iv (payload.drop gcmIvSize)

/-- `_decrypt_openssl_salted`; three digests of sixteen bytes make the key and the
initial vector. -/
def decryptOpensslSalted (data key : Bytes) : Except PyError Bytes := do
  -- the passphrase is the key in base64
  let salted := env.encode (env.b64encode key) ++ (data.drop 8).take 8
  let d₁ := env.md5 salted
  let d₂ := env.md5 (d₁ ++ salted)
  let d₃ := env.md5 (d₂ ++ salted)
  let derived := d₁ ++ d₂ ++ d₃
  let plaintext ← env.cbcDecrypt (derived.take 32) ((derived.drop 32).take 16) (data.drop 16)
  match plaintext.getLast? with
  | none => .error ⟨.indexError, "index out of range"⟩
  | some padLen =>
    if 1 ≤ padLen.toNat ∧ padLen.toNat ≤ 16 then
      .ok (plaintext.take (plaintext.length - padLen.toNat))
    else .error (valueError "Invalid padding in salted payload")

/-- `decrypt_payload`. -/
def decryptPayload (sessionKey : Bytes) (encryptedPayload : String) (nonce : Json) :
    Except PyError Bytes := do
  let payload ← env.b64decode encryptedPayload
  if env.encode "Salted__" <+: payload then decryptOpensslSalted env payload sessionKey
  else
    let explicitNonce ← if nonce.truthy then (decodeNonce env nonce).map some else .ok none
    decryptPayloadGcm env sessionKey payload explicitNonce

/-- `encrypt_payload`: the members of the envelope. -/
def encryptPayload (sessionKey plaintext : Bytes) (includeNonceInline : Bool) :
    Py (List (String × Json)) := do
  let nonce ← Py.ask fun n => env.urandom n gcmIvSize
  let ciphertext ← Py.ofExcept (env.gcmEncrypt sessionKey nonce plaintext)
  pure ([("encryptedPayload", .str (env.b64encode (nonce ++ ciphertext)))] ++
    (if includeNonceInline then [] else [("nonce", .str (env.b64encode nonce))]))

/-- `_normalize_session_key` of a string: hexadecimal, else its SHA-256. -/
def normalizeSessionKey (key : String) : Bytes :=
  let keyStr := env.strip key
  match (if keyStr.length % 2 = 0 ∧ allHex keyStr then unhexlify keyStr else none) with
  | some bytes => bytes
  | none => env.sha256 (env.encode keyStr)

/-- `sign_vehicle_response`. -/
def signVehicleResponse (sessionId encryptedPayload : String) (timestampMs : ℤ)
    (nonce : Option String) : Py String := do
  let vehicleKeys ← Py.ask env.loadVehicleKeys
  let _ ← Py.ofExcept vehicleKeys
  let parts := [sessionId, toString timestampMs, encryptedPayload] ++ present nonce
  let signed ← Py.ask fun n => env.sign n (env.encode (String.intercalate "\n" parts))
  let signature ← Py.ofExcept signed
  pure (env.b64encode signature)

end DigitalKey

end VehicleStack
