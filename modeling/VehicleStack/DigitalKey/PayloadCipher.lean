import VehicleStack.DigitalKey.Base64
import VehicleStack.DigitalKey.Pki

/-!
# Encrypted payloads, both ways

`decrypt_payload` and `encrypt_payload` of `pki.py` with all of their arguments: a
session key that is bytes or text, associated data, the nonce in front of the
ciphertext only or also beside it. AES-GCM is a parameter
(`VehicleStack.DigitalKey.AesGcm`), of which the round trip needs what the
cryptography package documents (`VehicleStack.DigitalKey.AesGcm.Correct`).

The decoder guesses. A nonce in base64 that happens to be hexadecimal digits is read
as these, which gives eight bytes: the wrong length for a nonce, and so the one in
front of the ciphertext is used after all. Every other nonce is read as it was
written, and a payload that begins with `Salted__` is left to the older cipher.
`VehicleStack.DigitalKey.AesGcm.decryptPayload_encryptPayload` is the round trip.
-/

namespace VehicleStack

namespace DigitalKey

/-- `AESGCM`: key, nonce, data, associated data. -/
structure AesGcm where
  encrypt : Bytes → Bytes → Bytes → Option Bytes → Except PyError Bytes
  decrypt : Bytes → Bytes → Bytes → Option Bytes → Except PyError Bytes

/-- A session key: `bytes | str`. -/
inductive SessionKey where
  | bytes (key : Bytes)
  | str (key : String)
  deriving DecidableEq

/-- The dictionary `encrypt_payload` returns. -/
structure Envelope where
  encryptedPayload : String
  nonce : Option String
  deriving DecidableEq

namespace AesGcm

/-- What is documented of `AESGCM`: keys of three lengths, data and associated data of less
than 2^31 bytes, a tag behind the ciphertext, and decryption undoes encryption. -/
structure Correct (gcm : AesGcm) : Prop where
  encrypts {key nonce data : Bytes} {associatedData : Option Bytes} :
    key.length ∈ [16, 24, 32] → nonce.length = gcmIvSize → data.length < 2 ^ 31 →
      (associatedData.getD []).length < 2 ^ 31 →
        ∃ ciphertext, gcm.encrypt key nonce data associatedData = .ok ciphertext
  length {key nonce data ciphertext : Bytes} {associatedData : Option Bytes} :
    gcm.encrypt key nonce data associatedData = .ok ciphertext →
      ciphertext.length = data.length + gcmTagSize
  decrypts {key nonce data ciphertext : Bytes} {associatedData : Option Bytes} :
    gcm.encrypt key nonce data associatedData = .ok ciphertext →
      gcm.decrypt key nonce ciphertext associatedData = .ok data

variable (env : Platform) (gcm : AesGcm)

/-- `_normalize_session_key`. -/
def normalizeSessionKey : SessionKey → Bytes
  | .bytes key => key
  | .str key => DigitalKey.normalizeSessionKey env key

/-- `encrypt_payload_gcm`; `urandom` is what `os.urandom(GCM_IV_SIZE)` gives. -/
def encryptPayloadGcm (key plaintext : Bytes) (associatedData : Option Bytes)
    (emitLegacyNonce : Bool) (nonce : Option Bytes) (urandom : Bytes) :
    Except PyError Envelope := do
  let nonceBytes :=
    match nonce with
    | some nonce => if nonce = [] then urandom else nonce
    | none => urandom
  let ciphertext ← gcm.encrypt key nonceBytes plaintext associatedData
  .ok
    { encryptedPayload := env.b64encode (nonceBytes ++ ciphertext)
      nonce := if emitLegacyNonce then some (env.b64encode nonceBytes) else none }

/-- `encrypt_payload`. -/
def encryptPayload (sessionKey : SessionKey) (plaintext : Bytes) (associatedData : Option Bytes)
    (includeNonceInline : Bool) (urandom : Bytes) : Except PyError Envelope :=
  encryptPayloadGcm env gcm (normalizeSessionKey env sessionKey) plaintext associatedData
    (!includeNonceInline) none urandom

/-- `decrypt_payload_gcm`. -/
def decryptPayloadGcm (key payload : Bytes) (nonce associatedData : Option Bytes) :
    Except PyError Bytes :=
  if payload.length < gcmIvSize + gcmTagSize then
    .error (valueError "Ciphertext too short for AES-GCM payload")
  else
    let iv := payload.take gcmIvSize
    let iv :=
      match nonce with
      | some nonce => if nonce ≠ iv then if nonce.length = gcmIvSize then nonce else iv else iv
      | none => iv
    gcm.decrypt key iv (payload.drop gcmIvSize) associatedData

/-- `explicit_nonce`: the nonce beside the payload, if there is one and it is not empty. -/
def explicitNonce : Option String → Except PyError (Option Bytes)
  | some nonce => if nonce = "" then .ok none else (decodeNonce env (.str nonce)).map some
  | none => .ok none

/-- `decrypt_payload`. -/
def decryptPayload (sessionKey : SessionKey) (encryptedPayloadB64 : String)
    (nonceB64 : Option String) (associatedData : Option Bytes) : Except PyError Bytes := do
  let keyBytes := normalizeSessionKey env sessionKey
  let payload ← env.b64decode encryptedPayloadB64
  if env.encode "Salted__" <+: payload then decryptOpensslSalted env payload keyBytes
  else
    let given ← explicitNonce env nonceB64
    decryptPayloadGcm gcm keyBytes payload given associatedData

/-! ### Without associated data -/

/-- The cipher of a platform, for which there is no associated data. -/
def ofPlatform : AesGcm where
  encrypt key nonce data _ := env.gcmEncrypt key nonce data
  decrypt key nonce data _ := env.gcmDecrypt key nonce data

/-- The members of the dictionary. -/
def members (envelope : Envelope) : List (String × Json) :=
  [("encryptedPayload", .str envelope.encryptedPayload)] ++
    match envelope.nonce with
    | some nonce => [("nonce", .str nonce)]
    | none => []

/-- **The command handler's decryption** is this one, under a key of bytes and without associated
data. -/
theorem decryptPayload_ofPlatform (key : Bytes) (encryptedPayload : String)
    (nonce : Option String) :
    decryptPayload env (ofPlatform env) (.bytes key) encryptedPayload nonce none =
      DigitalKey.decryptPayload env key encryptedPayload ((nonce.map Json.str).getD .null) := by
  have hgcm : ∀ payload given, decryptPayloadGcm (ofPlatform env) key payload given none =
      DigitalKey.decryptPayloadGcm env key payload given := by
    intro payload given
    unfold decryptPayloadGcm DigitalKey.decryptPayloadGcm
    cases given with
    | none => rfl
    | some given =>
      by_cases heq : given = payload.take gcmIvSize
      · simp only [heq, ne_eq, not_true_eq_false, ite_self]
        rfl
      · simp only [ne_eq, heq, not_false_iff, if_true]
        rfl
  rw [decryptPayload, DigitalKey.decryptPayload]
  refine congrArg (env.b64decode encryptedPayload >>= ·) (funext fun payload => ?_)
  by_cases hsalted : env.encode "Salted__" <+: payload
  · rw [if_pos hsalted, if_pos hsalted]
    rfl
  · rw [if_neg hsalted, if_neg hsalted]
    cases nonce with
    | none => exact hgcm payload none
    | some nonce =>
      by_cases hnil : nonce = ""
      · subst hnil
        exact hgcm payload none
      · have htrue : (Json.str nonce).truthy = true := by
          rw [Json.truthy]
          exact decide_eq_true hnil
        rw [explicitNonce, if_neg hnil, Option.map_some, Option.getD_some, if_pos htrue]
        exact congrArg (_ >>= ·) (funext fun given => hgcm payload given)

/-- **The command handler's encryption**, too. -/
theorem encryptPayload_ofPlatform (key plaintext : Bytes) (includeNonceInline : Bool) :
    DigitalKey.encryptPayload env key plaintext includeNonceInline = (do
      let urandom ← Py.ask fun n => env.urandom n gcmIvSize
      let envelope ← Py.ofExcept
        (encryptPayload env (ofPlatform env) (.bytes key) plaintext none includeNonceInline urandom)
      pure (members envelope)) := by
  rw [DigitalKey.encryptPayload]
  refine congrArg (_ >>= ·) (funext fun urandom => ?_)
  have hcipher : (ofPlatform env).encrypt key urandom plaintext none =
      env.gcmEncrypt key urandom plaintext := rfl
  rw [encryptPayload, encryptPayloadGcm, normalizeSessionKey]
  simp only [hcipher]
  cases env.gcmEncrypt key urandom plaintext with
  | error e => rfl
  | ok ciphertext => cases includeNonceInline <;> rfl

/-! ### The text of a nonce -/

theorem isPlain_base64Char {v : ℕ} (hv : v < 64) : isPlain (base64Char v) = true := by
  revert v
  decide

/-- Base64 is plain text. -/
theorem isPlain_b64encode (data : Bytes) : (b64encode data).toList.all isPlain := by
  obtain ⟨values, padding, heq, hvalues, hpadding⟩ := b64encodeChars_eq data
  have hpad : padding.all isPlain := by
    simp only [List.mem_cons, List.not_mem_nil, or_false] at hpadding
    rcases hpadding with rfl | rfl | rfl <;> decide
  have hchars : (values.map base64Char).all isPlain := by
    rw [List.all_eq_true]
    intro c hc
    obtain ⟨v, hv, rfl⟩ := List.mem_map.mp hc
    exact isPlain_base64Char (hvalues v hv)
  rw [b64encode, String.toList_ofList, heq, List.all_append, hchars, hpad]
  rfl

theorem length_b64encodeChars (data : Bytes) :
    (b64encodeChars data).length = (data.length + 2) / 3 * 4 := by
  induction data using b64encodeChars.induct with
  | case1 => rw [b64encodeChars]; rfl
  | case2 a =>
    rw [b64encodeChars]
    simp only [List.length_cons, List.length_nil]
  | case3 a b =>
    rw [b64encodeChars]
    simp only [List.length_cons, List.length_nil]
  | case4 a b c rest ih =>
    rw [b64encodeChars]
    simp only [List.length_cons, ih]
    omega

/-- Two hexadecimal digits are one byte. -/
theorem length_unhexDigits (digits : List Char) {bytes : Bytes}
    (h : unhexDigits digits = some bytes) : digits.length = 2 * bytes.length := by
  induction digits using unhexDigits.induct generalizing bytes with
  | case1 => cases h; rfl
  | case2 c => cases h
  | case3 c d rest ih =>
    rw [unhexDigits] at h
    obtain ⟨hi, -, h⟩ := Option.bind_eq_some_iff.mp h
    obtain ⟨lo, -, h⟩ := Option.bind_eq_some_iff.mp h
    obtain ⟨bytes', hrest, h⟩ := Option.bind_eq_some_iff.mp h
    cases h
    rw [List.length_cons, List.length_cons, List.length_cons, ih hrest]
    omega

/-- **A nonce in base64** is read as it was written, or as the eight bytes its sixteen characters
spell if they are hexadecimal digits. -/
theorem decodeNonce_b64encode {env : Platform} (hstrip : env.strip = strip)
    (hdecode : env.b64decode = b64decode) {nonce : Bytes} (hnonce : nonce.length = gcmIvSize) :
    ∃ read, decodeNonce env (.str (b64encode nonce)) = .ok read ∧
      (read = nonce ∨ read.length ≠ gcmIvSize) := by
  have hplain : strip (b64encode nonce) = b64encode nonce :=
    strip_of_not_isPySpace (not_isPySpace_of_isPlain (isPlain_b64encode nonce))
  simp only [decodeNonce, pyStr, hstrip, hdecode, hplain]
  split
  · rename_i read hhex
    refine ⟨read, rfl, Or.inr ?_⟩
    split_ifs at hhex
    have hlen := length_unhexDigits _ hhex
    rw [b64encode, String.toList_ofList, length_b64encodeChars, hnonce] at hlen
    rw [gcmIvSize] at *
    omega
  · exact ⟨nonce, b64decode_b64encode nonce, Or.inl rfl⟩

/-- The nonce beside the payload, or none. -/
theorem explicitNonce_b64encode {env : Platform} (hstrip : env.strip = strip)
    (hdecode : env.b64decode = b64decode) {nonce : Bytes} (hnonce : nonce.length = gcmIvSize)
    (beside : Bool) :
    ∃ given, explicitNonce env (if beside then some (b64encode nonce) else none) = .ok given ∧
      ∀ n ∈ given, n = nonce ∨ n.length ≠ gcmIvSize := by
  cases beside with
  | false => exact ⟨none, rfl, nofun⟩
  | true =>
    obtain ⟨read, hread, hguess⟩ := decodeNonce_b64encode hstrip hdecode hnonce
    have hne : b64encode nonce ≠ "" := by
      rw [ne_eq, b64encode_eq_empty]
      rintro rfl
      cases hnonce
    refine ⟨some read, ?_, ?_⟩
    · rw [if_pos rfl, explicitNonce, if_neg hne, hread]
      rfl
    · intro n hn
      obtain rfl := Option.some_inj.mp hn
      exact hguess

/-! ### The round trip -/

/-- A nonce beside the payload changes nothing if it is the one in front of the ciphertext, or
of the wrong length. -/
theorem decryptPayloadGcm_append {nonce ciphertext : Bytes} (hnonce : nonce.length = gcmIvSize)
    (hlen : gcmTagSize ≤ ciphertext.length) (key : Bytes) (associatedData : Option Bytes)
    {given : Option Bytes} (hgiven : ∀ n ∈ given, n = nonce ∨ n.length ≠ gcmIvSize) :
    decryptPayloadGcm gcm key (nonce ++ ciphertext) given associatedData =
      gcm.decrypt key nonce ciphertext associatedData := by
  have hlong : ¬ (nonce ++ ciphertext).length < gcmIvSize + gcmTagSize := by
    rw [List.length_append]
    omega
  have htake : (nonce ++ ciphertext).take gcmIvSize = nonce := List.take_left' hnonce
  have hdrop : (nonce ++ ciphertext).drop gcmIvSize = ciphertext := List.drop_left' hnonce
  rw [decryptPayloadGcm, if_neg hlong, htake, hdrop]
  cases given with
  | none => rfl
  | some n =>
    dsimp only
    rcases hgiven n rfl with rfl | hn
    · rw [if_neg (not_not.mpr rfl)]
    · rw [if_neg hn, ite_self]

/-- **Payload encryption, both ways.** Under every session key of 16, 24 or 32 bytes (given as
bytes or as text), for every plaintext, all associated data, and every nonce of 12 bytes that
does not begin with `Salted__`: the envelope that `encrypt_payload` returns, with the nonce
beside the payload or not, is decrypted to the plaintext; and it returns one unless the
plaintext or the associated data are too long for AES-GCM. -/
theorem decryptPayload_encryptPayload (tables : Tables) {gcm : AesGcm} (hgcm : gcm.Correct)
    {sessionKey : SessionKey}
    (hkey : (normalizeSessionKey (env.python tables).withBase64 sessionKey).length ∈ [16, 24, 32])
    (plaintext : Bytes) (associatedData : Option Bytes) (includeNonceInline : Bool)
    {urandom : Bytes} (hnonce : urandom.length = gcmIvSize)
    (hsalted : ¬ Utf8.encode "Salted__" <+: urandom) :
    (∀ envelope, encryptPayload (env.python tables).withBase64 gcm sessionKey plaintext
        associatedData includeNonceInline urandom = .ok envelope →
      decryptPayload (env.python tables).withBase64 gcm sessionKey envelope.encryptedPayload
        envelope.nonce associatedData = .ok plaintext) ∧
    (plaintext.length < 2 ^ 31 → (associatedData.getD []).length < 2 ^ 31 →
      ∃ envelope, encryptPayload (env.python tables).withBase64 gcm sessionKey plaintext
        associatedData includeNonceInline urandom = .ok envelope) := by
  obtain ⟨E, hE⟩ : ∃ E, E = (env.python tables).withBase64 := ⟨_, rfl⟩
  have hencode : E.b64encode = b64encode := hE ▸ rfl
  have hdecode : E.b64decode = b64decode := hE ▸ rfl
  have hutf8 : E.encode = Utf8.encode := hE ▸ rfl
  have hstrip : E.strip = strip := hE ▸ rfl
  rw [← hE] at hkey ⊢
  constructor
  · intro envelope henvelope
    obtain ⟨ciphertext, hcipher, henvelope⟩ := bind_eq_ok.mp henvelope
    have hlen := hgcm.length hcipher
    obtain rfl := Except.ok.inj henvelope
    -- the prefix of the older cipher would be one of the nonce
    have hnew : ¬ Utf8.encode "Salted__" <+: urandom ++ ciphertext := fun h =>
      hsalted (List.prefix_of_prefix_length_le h (List.prefix_append _ _) (by
        rw [hnonce]
        decide))
    obtain ⟨given, hgiven, hsame⟩ :=
      explicitNonce_b64encode hstrip hdecode hnonce (!includeNonceInline)
    have hpayload : E.b64decode (E.b64encode (urandom ++ ciphertext)) =
        .ok (urandom ++ ciphertext) := by
      rw [hencode, hdecode, b64decode_b64encode]
    rw [decryptPayload]
    dsimp only
    rw [hpayload, hencode, hgiven]
    change (if E.encode "Salted__" <+: urandom ++ ciphertext then _ else _) = _
    rw [hutf8, if_neg hnew]
    change decryptPayloadGcm gcm _ (urandom ++ ciphertext) given associatedData = _
    rw [decryptPayloadGcm_append gcm hnonce (by omega) _ _ hsame]
    exact hgcm.decrypts hcipher
  · intro hplain hassociated
    obtain ⟨ciphertext, hcipher⟩ := hgcm.encrypts hkey hnonce hplain hassociated
    rw [encryptPayload, encryptPayloadGcm, hcipher]
    exact ⟨_, rfl⟩

/-- The key stream and the tag of AES-128 in this mode for a key and a nonce of zeros and sixteen
zeros to encrypt, and for these only. -/
def zeroKeyStream : Bytes :=
  [0x03, 0x88, 0xda, 0xce, 0x60, 0xb6, 0xa3, 0x92, 0xf3, 0x28, 0xc2, 0xb9, 0x71, 0xb2, 0xfe, 0x78]

def zeroTag : Bytes :=
  [0xab, 0x6e, 0x47, 0xd4, 0x2c, 0xec, 0x13, 0xbd, 0xf5, 0x3a, 0x67, 0xb2, 0x12, 0x57, 0xbd, 0xdf]

/-- Data and the key stream, added. -/
def addStream (data : Bytes) : Bytes := data.mapIdx fun i b => b ^^^ zeroKeyStream.getD i 0

/-- A cipher that answers as AES-GCM does for a key and a nonce of zeros and sixteen zeros to
encrypt. -/
def zeroGcm : AesGcm where
  encrypt _ _ data _ := .ok (addStream data ++ zeroTag)
  decrypt _ _ ciphertext _ := .ok (addStream (ciphertext.take (ciphertext.length - gcmTagSize)))

theorem addStream_addStream (data : Bytes) : addStream (addStream data) = data := by
  rw [addStream, addStream, List.mapIdx_mapIdx, List.mapIdx_eq_iff]
  intro i
  cases data[i]? with
  | none => rfl
  | some b =>
    rw [Option.map_some, Function.comp_apply, UInt8.xor_assoc, UInt8.xor_self, UInt8.xor_zero]

theorem correct_zeroGcm : zeroGcm.Correct where
  encrypts _ _ _ _ := ⟨_, rfl⟩
  length h := by
    obtain rfl := Except.ok.inj h
    rw [List.length_append, addStream, List.length_mapIdx]
    rfl
  decrypts h := by
    obtain rfl := Except.ok.inj h
    have htag : zeroTag.length = gcmTagSize := rfl
    change Except.ok _ = _
    rw [List.length_append, htag, Nat.add_sub_cancel, List.take_left' rfl, addStream_addStream]

/-- Sixteen zeros, with the nonce beside them: its base64 is sixteen letters A, which are
hexadecimal digits. -/
theorem decryptPayload_encryptPayload_zeros : ∃ envelope,
    encryptPayload (Platform.plain.python ⟨fun _ => "", id⟩).withBase64 zeroGcm
      (.bytes (List.replicate 16 0)) (List.replicate 16 0) none false (List.replicate 12 0) =
        .ok envelope ∧
    decryptPayload (Platform.plain.python ⟨fun _ => "", id⟩).withBase64 zeroGcm
      (.bytes (List.replicate 16 0)) envelope.encryptedPayload envelope.nonce none =
        .ok (List.replicate 16 0) := by
  obtain ⟨hback, hencrypts⟩ :=
    @decryptPayload_encryptPayload Platform.plain ⟨fun _ => "", id⟩ zeroGcm correct_zeroGcm
      (.bytes (List.replicate 16 0)) (by rw [normalizeSessionKey]; decide) (List.replicate 16 0)
      none false (List.replicate 12 0) List.length_replicate (by decide)
  obtain ⟨envelope, henvelope⟩ := hencrypts (by decide) (by decide)
  exact ⟨envelope, henvelope, hback envelope henvelope⟩

end AesGcm

end DigitalKey

end VehicleStack
