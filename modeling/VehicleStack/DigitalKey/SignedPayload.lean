import VehicleStack.DigitalKey.Encodings
import VehicleStack.DigitalKey.VerifiedSessions

/-!
# What is signed is what is executed

The signature of a PKI command is over `_serialize_signed_payload`, which names the
members it takes and writes them down as strings. Decryption reads the same members
again, and looks at the nonce only if it counts as true. Nonces that differ in that
and are written alike do not both decode
(`VehicleStack.DigitalKey.decryptPayload_congr`), so two commands with the same
signed bytes have the same payload inside
(`VehicleStack.DigitalKey.handedOver_of_signed`).
-/

namespace VehicleStack

namespace DigitalKey

open Effect

variable (env : Platform) (tables : Tables)

/-! ### Session keys -/

/-- Every object has the session key it had. -/
def SameSessionKeys (w w' : World) : Prop :=
  ∀ ref, (w'.pairing.sessions.read ref).sessionKey = (w.pairing.sessions.read ref).sessionKey

instance : IsPreorder World SameSessionKeys where
  refl _ _ := rfl
  trans _ _ _ h h' ref := (h' ref).trans (h ref)

theorem Unmoved.sameSessionKeys {w w' : World} (h : Unmoved w w') : SameSessionKeys w w' :=
  fun ref => by rw [h.sessions]

theorem sameSessionKeys_setSession (ref : ℕ) {f : PkiSessionState → PkiSessionState}
    (hf : ∀ s, (f s).sessionKey = s.sessionKey) : Keeps SameSessionKeys (Py.setSession ref f) := by
  intro w other
  change ((w.pairing.sessions.modify ref f).read other).sessionKey = _
  rcases eq_or_ne ref other with rfl | hne
  · exact Heap.apply_read_modify PkiSessionState.sessionKey hf ref
  · rw [Heap.read_modify_of_ne f hne]

theorem sameSessionKeys_refreshCertificateMaterial (ref : ℕ) (certificate : Json) :
    Keeps SameSessionKeys (refreshCertificateMaterial env ref certificate) := by
  refine keeps_refreshCertificateMaterial env ref (fun f hf => ?_) certificate
  exact sameSessionKeys_setSession ref fun s => (hf s).sessionKey

theorem sameSessionKeys_finalizeSessionState (ref : ℕ) (clientNonce signature : Json)
    (payload : Option Json) :
    Keeps SameSessionKeys (finalizeSessionState env ref clientNonce signature payload) := by
  refine keeps_finalizeSessionState env Unmoved.sameSessionKeys ref (fun f hf => ?_) _ _ _
  exact sameSessionKeys_setSession ref fun s => (hf s).2

/-! ### What is handed over -/

/-- A PKI command for a session that is stored is handled with that session. -/
theorem returns_pkiCommandSession_stored {payload : Json} {w : World} {ref : ℕ}
    (hstored : w.pairing.pkiSessions.get? (payloadSession env payload) = some ref) :
    Returns (fun s w' => s.ref = ref ∧ SameSessionKeys w w') (pkiCommandSession env payload) w := by
  refine returns_bind (returns_ofExcept _ w) ?_
  rintro given _ ⟨hgiven, rfl⟩
  have hsession : payloadSession env payload = pyStr env (given.or (.str "")) := by
    rw [payloadSession, hgiven]
  refine returns_ite (fun _ => returns_throw _ _) fun hne => ?_
  refine returns_bind (returns_ofExcept _ _) ?_
  rintro stated w ⟨-, rfl⟩
  refine returns_bind (Q := fun _ w₁ => SamePairing w w₁) ?_ fun _ w₁ h₁ => ?_
  · exact (Py.keeps_when (samePairing_maybeStoreKeyFromCertificate env _)).returns w
  · have hfound :
        exec (commandSession env (pyStr env (given.or (.str ""))) (stated.or (.obj []))) w₁ =
          (.ok (some ref), w₁) := by
      rw [hsession] at hstored
      rw [commandSession, getPkiSessionState, exec_bind_of_ok (Py.exec_pairing w₁ _), if_pos hne,
        h₁, hstored]
      rfl
    have hkeys : SameSessionKeys w w₁ := fun other => by rw [h₁]
    intro s w₂ hexec
    rw [exec_bind_of_ok hfound] at hexec
    refine (returns_bind (Q := fun _ w' => SameSessionKeys w w') ?_ ?_ :
      Returns (fun s w' => s.ref = ref ∧ SameSessionKeys w w') _ w₁) s w₂ hexec
    · exact fun _ w' h => trans_of SameSessionKeys hkeys
        ((sameSessionKeys_refreshCertificateMaterial env ref _).returns w₁ _ w' h)
    · intro _ w₃ h₃
      refine returns_bind (returns_ofExcept _ w₃) ?_
      rintro version _ ⟨-, rfl⟩
      exact returns_pure ⟨rfl, h₃⟩

/-- A client nonce that is attached is a string. -/
theorem returns_finalizeSessionState_str (ref : ℕ) (clientNonce signature : Json)
    (payload : Option Json) (w : World) :
    Returns (fun _ _ => clientNonce.truthy = true → ∃ s, clientNonce = .str s)
      (finalizeSessionState env ref clientNonce signature payload) w := by
  refine returns_bind (Q := fun _ _ => clientNonce.truthy = true → ∃ s, clientNonce = .str s)
    ?_ fun _ w₁ h => fun _ _ _ => h
  refine returns_ite (fun _ => ?_) fun hfalsy => returns_pure fun htruthy => absurd htruthy hfalsy
  refine returns_bind (returns_ofExcept _ w) ?_
  rintro nonce _ ⟨hdecode, rfl⟩
  intro _ _ _ _
  cases clientNonce with
  | str s => exact ⟨s, rfl⟩
  | _ => cases hdecode

/-- What an accepted PKI command contains: what its two members decrypt to under the
session key. A nonce that counts is a string, since it is a client nonce as well. -/
def Contains (sessionKey : Bytes) (payload inner : Json) : Prop :=
  ∃ encryptedPayload nonce plaintext,
    payload.getFirst ["encryptedPayload", "encrypted_payload"] = .ok encryptedPayload ∧
      payload.get "nonce" = .ok nonce ∧ (nonce.truthy = true → ∃ s, nonce = .str s) ∧
        decryptPayload env sessionKey (pyStr env encryptedPayload) nonce = .ok plaintext ∧
          env.loads plaintext = .ok inner

theorem returns_openPkiCommand_contains (ref : ℕ) (payload : Json) (w : World) :
    Returns (fun inner _ => Contains env (w.pairing.sessions.read ref).sessionKey payload inner)
      (openPkiCommand env ref payload) w := by
  refine returns_bind (returns_ofExcept _ w) ?_
  rintro nonceB64 _ ⟨hnonceB64, rfl⟩
  refine returns_bind (returns_ofExcept _ _) ?_
  rintro signatureB64 w ⟨-, rfl⟩
  refine returns_bind (returns_and
    ((sameSessionKeys_finalizeSessionState env ref nonceB64 signatureB64 (some payload)).returns w)
    (returns_finalizeSessionState_str env ref nonceB64 signatureB64 (some payload) w))
    fun _ w₁ ⟨hkeys, hstr⟩ => ?_
  refine returns_bind (returns_ofExcept _ w₁) ?_
  rintro encryptedPayload w₁ ⟨hencrypted, rfl⟩
  refine returns_ite (fun _ => returns_throw _ _) fun _ => ?_
  refine returns_bind (Q := fun state w' => state.sessionKey =
    (w.pairing.sessions.read ref).sessionKey ∧ w' = w₁) ?_ ?_
  · rintro state w' ⟨⟩
    exact ⟨hkeys ref, rfl⟩
  · rintro state w₁ ⟨hkey, rfl⟩
    refine returns_bind (returns_ofExcept _ _) ?_
    rintro nonce w₁ ⟨hnonce, rfl⟩
    refine returns_bind (returns_ofExcept _ _) ?_
    rintro plaintext w₁ ⟨hplaintext, rfl⟩
    intro inner w₂ hexec
    refine ⟨encryptedPayload, nonce, plaintext, hencrypted, hnonce, fun htruthy => ?_,
      hkey ▸ hplaintext, ?_⟩
    · -- then it is the client nonce too
      have hfirst : payload.getFirst ["nonce", "clientNonce"] = .ok nonce := by
        change (payload.get "nonce" >>= fun x => if x.truthy then .ok x else _) = _
        rw [hnonce]
        exact if_pos htruthy
      cases hfirst.symm.trans hnonceB64
      exact hstr htruthy
    · rw [decodeInner] at hexec
      cases hloads : env.loads plaintext with
      | ok j =>
        rw [hloads] at hexec
        cases hexec
        rfl
      | error e =>
        rw [hloads] at hexec
        dsimp only at hexec
        split at hexec
        · cases hexec
        · cases hexec

/-- **What is handed over** for a session that is stored. -/
theorem contains_of_handedOver {payload : Json} {w : World} {ref : ℕ} {h : Handed}
    (hstored : w.pairing.pkiSessions.get? (payloadSession env payload) = some ref)
    (hhanded : handedOver env .pkiCommand payload w = some h) :
    Contains env (w.pairing.sessions.read ref).sessionKey payload h.payload := by
  obtain ⟨s, w₁, hs, hrest⟩ := exec_bind_eq_ok.mp ((handedOver_eq_some env).mp hhanded)
  obtain ⟨inner, w₂, hopen, hpure⟩ := exec_bind_eq_ok.mp hrest
  obtain ⟨rfl, hkeys⟩ := returns_pkiCommandSession_stored env hstored s w₁ hs
  have hcontains := returns_openPkiCommand_contains env s.ref payload w₁ inner w₂ hopen
  rw [hkeys] at hcontains
  cases h
  cases hpure
  exact hcontains

/-! ### What is signed -/

/-- `_serialize_signed_payload`. -/
def serializeSignedPayload (state : PkiSessionState) (payload : Json) : Except PyError Bytes :=
  (signedPayload env state payload).map fun m => env.encode (env.dumpsCompact m)

/-- The members that are signed. -/
def signedMembers (sessionId encryptedPayload : String) (nonce : Option String) (timestamp : Json) :
    List (String × Json) :=
  [("sessionId", .str sessionId), ("encryptedPayload", .str encryptedPayload)] ++
    (match nonce with
      | some nonce => [("nonce", .str nonce)]
      | none => []) ++
    [("timestamp", timestamp)]

/-- The nonce of a payload as it is signed. -/
def signedNonce (nonce : Json) : Option String :=
  if nonce.isNone then none else some (pyStr env nonce)

/-- The bytes that are signed, by the members a command is read by. -/
theorem serializeSignedPayload_eq_ok {state : PkiSessionState}
    {payload encryptedPayload nonce : Json}
    {bytes : Bytes} (hbytes : serializeSignedPayload env state payload = .ok bytes)
    (hencrypted : payload.getFirst ["encryptedPayload", "encrypted_payload"] = .ok encryptedPayload)
    (hnonce : payload.get "nonce" = .ok nonce) :
    ∃ sessionId timestamp, bytes = env.encode (env.dumpsCompact (.obj (signedMembers sessionId
      (pyStr env encryptedPayload) (signedNonce env nonce) timestamp))) := by
  rw [serializeSignedPayload] at hbytes
  obtain ⟨m, hm, rfl⟩ : ∃ m, signedPayload env state payload = .ok m ∧
      env.encode (env.dumpsCompact m) = bytes := by
    cases hm : signedPayload env state payload with
    | error e =>
      rw [hm] at hbytes
      cases hbytes
    | ok m =>
      rw [hm] at hbytes
      exact ⟨m, rfl, Except.ok.inj hbytes⟩
  rw [signedPayload] at hm
  obtain ⟨session, -, hm⟩ := bind_eq_ok.mp hm
  obtain ⟨encrypted, hencrypted', hm⟩ := bind_eq_ok.mp hm
  cases hencrypted.symm.trans hencrypted'
  split at hm
  · cases hm
  · obtain ⟨timestamp, -, hm⟩ := bind_eq_ok.mp hm
    split at hm
    · cases hm
    · obtain ⟨given, hnonce', hm⟩ := bind_eq_ok.mp hm
      cases hnonce.symm.trans hnonce'
      cases hm
      refine ⟨pyStr env (session.or (.str state.sessionId)), timestamp, ?_⟩
      cases nonce <;> rfl

/-- **The signed text** says which payload and which nonce it was made of. -/
theorem signedMembers_inj {sessionId sessionId' encryptedPayload encryptedPayload' : String}
    {nonce nonce' : Option String} {timestamp timestamp' : Json}
    (h : dumpsCompact tables (.obj (signedMembers sessionId encryptedPayload nonce timestamp)) =
      dumpsCompact tables (.obj (signedMembers sessionId' encryptedPayload' nonce' timestamp'))) :
    encryptedPayload = encryptedPayload' ∧ nonce = nonce' := by
  have htext := List.append_cancel_left
    ((List.append_assoc ..).symm.trans ((String.ofList_injective h).trans (List.append_assoc ..)))
  rcases nonce with _ | nonce <;> rcases nonce' with _ | nonce'
  · obtain ⟨-, htext⟩ := of_jsonMembers_str htext
    exact ⟨(of_jsonMembers_str htext).1, rfl⟩
  · obtain ⟨-, htext⟩ := of_jsonMembers_str htext
    exact absurd (name_eq_of_jsonMembers (of_jsonMembers_str htext).2) (by decide)
  · obtain ⟨-, htext⟩ := of_jsonMembers_str htext
    exact absurd (name_eq_of_jsonMembers (of_jsonMembers_str htext).2) (by decide)
  · obtain ⟨-, htext⟩ := of_jsonMembers_str htext
    obtain ⟨hencrypted, htext⟩ := of_jsonMembers_str htext
    exact ⟨hencrypted, congrArg some (of_jsonMembers_str htext).1⟩

/-! ### Nonces -/

/-- The nonce that decryption is told. -/
def explicitNonce (nonce : Json) : Except PyError (Option Bytes) :=
  if nonce.truthy then (decodeNonce env nonce).map some else .ok none

theorem decryptPayload_eq (key : Bytes) (encryptedPayload : String) (nonce : Json) :
    decryptPayload env key encryptedPayload nonce = (do
      let payload ← env.b64decode encryptedPayload
      if env.encode "Salted__" <+: payload then decryptOpensslSalted env payload key
      else do
        let nonce ← explicitNonce env nonce
        decryptPayloadGcm env key payload nonce) := by
  rw [decryptPayload, explicitNonce]
  refine bind_congr fun payload => ?_
  split
  · rfl
  · split
    · rfl
    · rfl

/-- A nonce of another length is as good as none. -/
theorem decryptPayloadGcm_of_length_ne (key payload : Bytes) {nonce : Bytes}
    (h : nonce.length ≠ gcmIvSize) :
    decryptPayloadGcm env key payload (some nonce) = decryptPayloadGcm env key payload none := by
  simp only [decryptPayloadGcm, if_neg h]

/-- The texts of the nonces that count as false. -/
def falsyTexts : List String := ["", "False", "0", "0.0", "-0.0", "[]", "\x7b\x7d"]

theorem pyStr_mem_falsyTexts {nonce : Json} (hfalsy : nonce.truthy = false)
    (hnone : nonce.isNone = false) : pyStr (env.python tables) nonce ∈ falsyTexts := by
  cases nonce with
  | null => cases hnone
  | bool b =>
    change b = false at hfalsy
    subst hfalsy
    change "False" ∈ falsyTexts
    decide
  | int z =>
    have hz : z = 0 := by simpa [Json.truthy] using hfalsy
    subst hz
    change "0" ∈ falsyTexts
    decide
  | float bits =>
    have hzero : bits &&& 0x7FFFFFFFFFFFFFFF = 0 := by simpa [Json.truthy] using hfalsy
    change tables.floatRepr bits ∈ falsyTexts
    rw [Tables.floatRepr, if_pos hzero]
    split
    · decide
    · decide
  | str s =>
    have hs : s = "" := by simpa [Json.truthy] using hfalsy
    subst hs
    change "" ∈ falsyTexts
    decide
  | arr items =>
    have hitems : items = [] := by simpa [Json.truthy] using hfalsy
    subst hitems
    change "[" ++ "" ++ "]" ∈ falsyTexts
    decide
  | obj members =>
    have hmembers : members = [] := by simpa [Json.truthy] using hfalsy
    subst hmembers
    change "\x7b" ++ "" ++ "\x7d" ∈ falsyTexts
    decide

/-- How a string is read as a nonce is up to Python. -/
theorem decodeNonce_python (s : String) :
    decodeNonce (env.python tables) (.str s) =
      decodeNonce (Platform.plain.python ⟨fun _ => "", id⟩) (.str s) := by
  have hstrip : ∀ env tables, (Platform.python env tables).strip = strip := fun _ _ => rfl
  have hdecode : ∀ env tables, (Platform.python env tables).b64decode = b64decode := fun _ _ => rfl
  simp only [decodeNonce, pyStr, hstrip, hdecode]

/-- Given as strings, they are no base64, or base64 of nothing. -/
theorem decodeNonce_of_mem_falsyTexts {s : String} (hs : s ∈ falsyTexts) {nonce : Bytes}
    (h : decodeNonce (env.python tables) (.str s) = .ok nonce) : nonce = [] := by
  have hall : (falsyTexts.all fun s => (decodeNonce (Platform.plain.python ⟨fun _ => "", id⟩)
      (.str s)).toOption.all fun nonce => nonce = []) = true := by
    decide +kernel
  have hempty := List.all_eq_true.mp hall s hs
  rw [← decodeNonce_python env tables, h] at hempty
  exact of_decide_eq_true hempty

/-- The nonce a string stands for, if it counts. -/
theorem of_explicitNonce_str {s : String} {given : Option Bytes}
    (htruthy : (Json.str s).truthy = true)
    (h : explicitNonce env (.str s) = .ok given) :
    ∃ nonce, given = some nonce ∧ decodeNonce env (.str s) = .ok nonce := by
  rw [explicitNonce, if_pos htruthy] at h
  cases hdecode : decodeNonce env (.str s) with
  | error e =>
    rw [hdecode] at h
    cases h
  | ok nonce =>
    rw [hdecode] at h
    exact ⟨nonce, (Except.ok.inj h).symm, rfl⟩

/-- Of two nonces that are written alike, the one that counts is as good as none if the
other one does not count. -/
theorem decryptPayloadGcm_of_falsy {s : String} {falsy : Json} {given : Option Bytes}
    (htruthy : (Json.str s).truthy = true) (hfalsy : falsy.truthy = false)
    (hsigned : signedNonce (env.python tables) (.str s) = signedNonce (env.python tables) falsy)
    (h : explicitNonce (env.python tables) (.str s) = .ok given) (key payload : Bytes) :
    decryptPayloadGcm (env.python tables) key payload given =
      decryptPayloadGcm (env.python tables) key payload none := by
  obtain ⟨nonce, rfl, hdecode⟩ := of_explicitNonce_str (env.python tables) htruthy h
  have hnone : falsy.isNone = false := by
    cases falsy with
    | null => cases hsigned
    | _ => rfl
  have htext : pyStr (env.python tables) falsy = s := by
    rw [signedNonce, signedNonce, hnone] at hsigned
    exact (Option.some.inj hsigned).symm
  have hmem : s ∈ falsyTexts := htext ▸ pyStr_mem_falsyTexts env tables hfalsy hnone
  have hnil : nonce = [] := decodeNonce_of_mem_falsyTexts env tables hmem hdecode
  subst hnil
  exact decryptPayloadGcm_of_length_ne _ key payload (by decide)

theorem explicitNonce_of_falsy {nonce : Json} {given : Option Bytes} (hfalsy : nonce.truthy = false)
    (h : explicitNonce env nonce = .ok given) : given = none := by
  rw [explicitNonce, hfalsy] at h
  exact (Except.ok.inj h).symm

/-- Nonces that are written alike, as long as those that count are strings, are as good
as one another. -/
theorem decryptPayloadGcm_congr {nonce nonce' : Json} {given given' : Option Bytes}
    (hsigned : signedNonce (env.python tables) nonce = signedNonce (env.python tables) nonce')
    (hstr : nonce.truthy = true → ∃ s, nonce = .str s)
    (hstr' : nonce'.truthy = true → ∃ s, nonce' = .str s)
    (h : explicitNonce (env.python tables) nonce = .ok given)
    (h' : explicitNonce (env.python tables) nonce' = .ok given') (key payload : Bytes) :
    decryptPayloadGcm (env.python tables) key payload given =
      decryptPayloadGcm (env.python tables) key payload given' := by
  cases htruthy : nonce.truthy with
  | true =>
    obtain ⟨s, rfl⟩ := hstr htruthy
    cases htruthy' : nonce'.truthy with
    | true =>
      obtain ⟨s', rfl⟩ := hstr' htruthy'
      have hs : s = s' := Option.some.inj hsigned
      subst hs
      cases h.symm.trans h'
      rfl
    | false =>
      rw [explicitNonce_of_falsy _ htruthy' h']
      exact decryptPayloadGcm_of_falsy env tables htruthy htruthy' hsigned h key payload
  | false =>
    rw [explicitNonce_of_falsy _ htruthy h]
    cases htruthy' : nonce'.truthy with
    | true =>
      obtain ⟨s', rfl⟩ := hstr' htruthy'
      exact (decryptPayloadGcm_of_falsy env tables htruthy' htruthy hsigned.symm h' key
        payload).symm
    | false => rw [explicitNonce_of_falsy _ htruthy' h']

/-- **Decryption** does not tell nonces apart that are written alike, as long as those that
count are strings. -/
theorem decryptPayload_congr {key : Bytes} {encryptedPayload : String} {nonce nonce' : Json}
    (hsigned : signedNonce (env.python tables) nonce = signedNonce (env.python tables) nonce')
    (hstr : nonce.truthy = true → ∃ s, nonce = .str s)
    (hstr' : nonce'.truthy = true → ∃ s, nonce' = .str s) {plaintext plaintext' : Bytes}
    (h : decryptPayload (env.python tables) key encryptedPayload nonce = .ok plaintext)
    (h' : decryptPayload (env.python tables) key encryptedPayload nonce' = .ok plaintext') :
    plaintext = plaintext' := by
  rw [decryptPayload_eq] at h h'
  obtain ⟨payload, hpayload, h⟩ := bind_eq_ok.mp h
  obtain ⟨payload', hpayload', h'⟩ := bind_eq_ok.mp h'
  cases hpayload.symm.trans hpayload'
  split at h
  · -- the older format has no nonce
    rename_i hsalted
    rw [if_pos hsalted] at h'
    exact Except.ok.inj (h.symm.trans h')
  · rename_i hsalted
    rw [if_neg hsalted] at h'
    obtain ⟨explicit, hexplicit, h⟩ := bind_eq_ok.mp h
    obtain ⟨explicit', hexplicit', h'⟩ := bind_eq_ok.mp h'
    rw [decryptPayloadGcm_congr env tables hsigned hstr hstr' hexplicit hexplicit'] at h
    exact Except.ok.inj (h.symm.trans h')

/-! ### Two commands with the same signed bytes -/

/-- **What is signed is what is executed**: two PKI commands for stored sessions with one
session key, whose signed bytes are equal, hand over the same payload. -/
theorem handedOver_of_signed {w w' : World} {payload payload' : Json} {ref ref' : ℕ}
    (hstored : w.pairing.pkiSessions.get? (payloadSession (env.python tables) payload) = some ref)
    (hstored' : w'.pairing.pkiSessions.get? (payloadSession (env.python tables) payload') =
      some ref')
    (hkey : (w.pairing.sessions.read ref).sessionKey = (w'.pairing.sessions.read ref').sessionKey)
    {bytes : Bytes}
    (hbytes : serializeSignedPayload (env.python tables) (w.pairing.sessions.read ref) payload =
      .ok bytes)
    (hbytes' : serializeSignedPayload (env.python tables) (w'.pairing.sessions.read ref') payload' =
      .ok bytes)
    {h h' : Handed} (haccepted : handedOver (env.python tables) .pkiCommand payload w = some h)
    (haccepted' : handedOver (env.python tables) .pkiCommand payload' w' = some h') :
    h.payload = h'.payload := by
  obtain ⟨encryptedPayload, nonce, plaintext, hencrypted, hnonce, hstr, hdecrypt, hloads⟩ :=
    contains_of_handedOver _ hstored haccepted
  obtain ⟨encryptedPayload', nonce', plaintext', hencrypted', hnonce', hstr', hdecrypt', hloads'⟩ :=
    contains_of_handedOver _ hstored' haccepted'
  obtain ⟨sessionId, timestamp, hsigned⟩ := serializeSignedPayload_eq_ok _ hbytes hencrypted hnonce
  obtain ⟨sessionId', timestamp', hsigned'⟩ :=
    serializeSignedPayload_eq_ok _ hbytes' hencrypted' hnonce'
  have hencode : (env.python tables).encode = Utf8.encode := rfl
  have hdumps : (env.python tables).dumpsCompact = dumpsCompact tables := rfl
  rw [hencode, hdumps] at hsigned hsigned'
  have htext := Utf8.encode_injective (hsigned.symm.trans hsigned')
  obtain ⟨hsame, hsameNonce⟩ := signedMembers_inj tables htext
  rw [hkey, hsame] at hdecrypt
  have hplaintext : plaintext = plaintext' :=
    decryptPayload_congr env tables hsameNonce hstr hstr' hdecrypt hdecrypt'
  rw [hplaintext] at hloads
  exact Except.ok.inj (hloads.symm.trans hloads')

/-- A platform whose text is Python's, on which the signatures of one key are valid. -/
def pythonSigner : Platform := (signer "key a").python ⟨fun _ => "", id⟩

/-- The process after the PIN of the first telephone was verified there. -/
def whenNonce : World := performAll pythonSigner twoTelephones 1000 {} firstVerified

/-- Thirty bytes in base64. -/
def thirtyBytes : String := "AAAAAAAAAAAAAAAAAAAAAAAAAAAAAAAAAAAAAAAA"

/-- A PKI command whose nonce is the text of an empty list. -/
def textNonce : Json :=
  .obj [("sessionId", .str "a"), ("encryptedPayload", .str thirtyBytes), ("nonce", .str "[]"),
    ("signature", .str "00"), ("timestamp", .int 1)]

/-- The same, under the other names, with a nonce that is an empty list. -/
def listNonce : Json :=
  .obj [("session_id", .str "a"), ("encrypted_payload", .str thirtyBytes), ("nonce", .arr []),
    ("signature", .str "00"), ("timestamp_ms", .int 1)]

theorem serializeSignedPayload_textNonce (state : PkiSessionState) :
    serializeSignedPayload pythonSigner state textNonce =
      .ok (pythonSigner.encode (pythonSigner.dumpsCompact
        (.obj (signedMembers "a" thirtyBytes (some "[]") (.int 1))))) := rfl

theorem serializeSignedPayload_listNonce (state : PkiSessionState) :
    serializeSignedPayload pythonSigner state listNonce =
      .ok (pythonSigner.encode (pythonSigner.dumpsCompact
        (.obj (signedMembers "a" thirtyBytes (some "[]") (.int 1))))) := rfl

theorem handedOver_textNonce_listNonce :
    ∃ h h', handedOver pythonSigner .pkiCommand textNonce whenNonce = some h ∧
      handedOver pythonSigner .pkiCommand listNonce whenNonce = some h' ∧ h.payload =
        h'.payload := by
  have hstored : (whenNonce.pairing.pkiSessions.get? "a").isSome = true := by decide +kernel
  have haccepted : (handedOver pythonSigner .pkiCommand textNonce whenNonce).isSome = true := by
    decide +kernel
  have haccepted' : (handedOver pythonSigner .pkiCommand listNonce whenNonce).isSome = true := by
    decide +kernel
  obtain ⟨ref, hstored⟩ := Option.isSome_iff_exists.mp hstored
  obtain ⟨h, haccepted⟩ := Option.isSome_iff_exists.mp haccepted
  obtain ⟨h', haccepted'⟩ := Option.isSome_iff_exists.mp haccepted'
  exact ⟨h, h', haccepted, haccepted', handedOver_of_signed _ _ hstored hstored rfl
    (serializeSignedPayload_textNonce _) (serializeSignedPayload_listNonce _) haccepted haccepted'⟩

end DigitalKey

end VehicleStack
