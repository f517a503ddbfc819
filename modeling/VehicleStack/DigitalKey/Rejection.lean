import VehicleStack.DigitalKey.Gate
import VehicleStack.DigitalKey.KeyStoreFile

/-!
# Rejected commands

A PKI command changes the process before it is known whether its signature and its payload are
any good: the key of its certificate is stored, its session recovered or brought up to date,
and its client nonce remembered; and an accepted signature is remembered before the payload is
looked at. What becomes of the session is a function of the session and the payload
(`VehicleStack.DigitalKey.PkiSessionState.refreshed`, `VehicleStack.DigitalKey.opened`), so
when a rejected command leaves no trace can be said of both
(`VehicleStack.DigitalKey.traceless_iff`).
-/

namespace VehicleStack

namespace DigitalKey

open Effect

variable (env : Platform)

/-! ### What becomes of the session -/

/-- The certificate in PEM that a certificate states in one of two members. -/
def statedCertificate (pem raw : Json) : Json :=
  if pem.isNone then
    match raw with
    | .str text => if hasCertificateHeader text then raw else .null
    | _ => .null
  else pem

/-- The certificate in PEM that `_refresh_certificate_material` takes from a certificate. -/
def refreshCertificate (certificate : Json) : Json :=
  match certificate.get "pem", certificate.get "certificate" with
  | .ok pem, .ok raw => statedCertificate pem raw
  | _, _ => .null

namespace PkiSessionState

/-- Whether a public key goes beside the user's key and does not take its place. -/
def SecondKey (s : PkiSessionState) (publicKey : String) : Prop :=
  s.userPublicKeyPem ≠ "" ∧ env.strip s.userPublicKeyPem ≠ env.strip publicKey

instance (s : PkiSessionState) (publicKey : String) : Decidable (s.SecondKey env publicKey) :=
  inferInstanceAs (Decidable (_ ∧ _))

/-- A session with the public key of a certificate. -/
def withPublicKey (s : PkiSessionState) (publicKey : String) : PkiSessionState :=
  if s.SecondKey env publicKey then { s with certificatePublicKeyPem := some publicKey }
  else { s with userPublicKeyPem := publicKey, handshakePublicKeyPem := some publicKey }

/-- A session after `_refresh_certificate_material`. -/
def refreshed (s : PkiSessionState) (certificate : Json) : PkiSessionState :=
  let s :=
    match refreshKey env certificate with
    | some publicKey => if publicKey = "" then s else s.withPublicKey env publicKey
    | none => s
  if (refreshCertificate certificate).truthy then
    { s with userCertificatePem := refreshCertificate certificate }
  else s

/-- A session with the client nonce of a payload, if it names one. -/
def withNonce (s : PkiSessionState) (nonce : Option Bytes) : PkiSessionState :=
  match nonce with
  | some nonce => { s with clientNonce := some nonce }
  | none => s

end PkiSessionState

/-- The key a signature is accepted under. -/
def verifiedKey (signature message : Bytes) : List String → Except PyError String
  | [] => .error (valueError "Client signature verification failed")
  | keyMaterial :: rest =>
    match (do
      let key ← loadRemotePublicKey env keyMaterial
      env.verify key signature message) with
    | .ok () => .ok keyMaterial
    | .error e =>
      if e.kind = .invalidSignature then verifiedKey signature message rest else .error e

/-- The key a signature of a payload is accepted under. -/
def acceptedKey (s : PkiSessionState) (signatureB64 payload : Json) : Except PyError String := do
  let signature ← decodeSignatureValue env signatureB64
  let message ← (signedPayload env s payload).map fun m => env.encode (env.dumpsCompact m)
  verifiedKey env signature message (triedKeys s)

/-- The key the signature of a payload is accepted under, if there is a signature. -/
def signingKey (s : PkiSessionState) (payload : Json) : Except PyError (Option String) := do
  let signatureB64 ← payload.get "signature"
  if signatureB64.truthy then (acceptedKey env s signatureB64 payload).map some else .ok none

/-- What becomes of a session when the payload of a command for it is opened: the nonce is
looked at first, then the signature. -/
def opened (s : PkiSessionState) (payload : Json) : PkiSessionState :=
  match clientNonce env payload with
  | .error _ => s
  | .ok nonce =>
    match signingKey env s payload with
    | .ok (some keyMaterial) => (s.withNonce nonce).accepted env keyMaterial
    | _ => s.withNonce nonce

/-! ### The programs do just that -/

/-- Changing a session. -/
def World.rewriteSession (w : World) (ref : ℕ) (f : PkiSessionState → PkiSessionState) : World :=
  { w with pairing := { w.pairing with sessions := w.pairing.sessions.modify ref f } }

theorem World.rewriteSession_id (w : World) (ref : ℕ) : w.rewriteSession ref id = w := by
  rw [rewriteSession, Heap.modify, List.modify_id]

theorem World.rewriteSession_rewriteSession (w : World) (ref : ℕ)
    (f g : PkiSessionState → PkiSessionState) :
    (w.rewriteSession ref f).rewriteSession ref g = w.rewriteSession ref (g ∘ f) := by
  simp only [rewriteSession, Heap.modify, List.modify_modify_eq]

theorem exec_when_setSession (condition : Bool) (ref : ℕ)
    (f : PkiSessionState → PkiSessionState) (w : World) :
    exec (Py.when condition (Py.setSession ref f)) w =
      (.ok ⟨⟩, w.rewriteSession ref fun s => if condition then f s else s) := by
  cases condition with
  | true => rfl
  | false => exact congrArg (Prod.mk _) (w.rewriteSession_id ref).symm

/-- **Bringing a session up to date** with a certificate that can be read. -/
theorem exec_refreshCertificateMaterial (ref : ℕ) (members : List (String × Json)) (w : World) :
    exec (refreshCertificateMaterial env ref (.obj members)) w =
      (.ok ⟨⟩, w.rewriteSession ref fun s => s.refreshed env (.obj members)) := by
  cases members with
  | nil => exact congrArg (Prod.mk _) (w.rewriteSession_id ref).symm
  | cons member members =>
    obtain ⟨material, hmaterial⟩ :=
      Json.exists_getFirst (member :: members) ["publicKey", "public_key"]
    obtain ⟨pem, hpem⟩ : ∃ pem, (Json.obj (member :: members)).get "pem" = .ok pem := ⟨_, rfl⟩
    obtain ⟨raw, hraw⟩ : ∃ raw, (Json.obj (member :: members)).get "certificate" = .ok raw :=
      ⟨_, rfl⟩
    have hkey : refreshKey env (.obj (member :: members)) =
        (certificateCandidate env material).head?.bind
          fun key => (coercePublicKeyPem env key).toOption := by
      rw [refreshKey, hmaterial]
      rfl
    have hcertificate : refreshCertificate (.obj (member :: members)) =
        statedCertificate pem raw := by
      rw [refreshCertificate, hpem, hraw]
    have htruthy : (Json.obj (member :: members)).truthy = true := rfl
    rw [refreshCertificateMaterial, htruthy, Py.when, if_pos rfl, hmaterial,
      exec_bind_of_ok (Py.exec_ofExcept_ok w _), hpem, exec_bind_of_ok (Py.exec_ofExcept_ok w _),
      hraw, exec_bind_of_ok (Py.exec_ofExcept_ok w _)]
    dsimp only
    rw [← hkey, exec_bind_of_ok (exec_when_setSession _ ref _ w)]
    refine (exec_when_setSession (statedCertificate pem raw).truthy ref (fun s =>
      { s with userCertificatePem := statedCertificate pem raw }) _).trans ?_
    rw [World.rewriteSession_rewriteSession, ← hcertificate]
    refine congrArg (fun f => (Except.ok PUnit.unit, w.rewriteSession ref f)) (funext fun s => ?_)
    rw [PkiSessionState.refreshed, Function.comp_apply]
    cases refreshKey env (.obj (member :: members)) with
    | none => rfl
    | some publicKey =>
      by_cases hempty : publicKey = ""
      · subst hempty
        rfl
      · simp only [Option.getD_some, ne_eq, hempty, not_false_eq_true, decide_true, if_true]
        rfl

/-- The loop over the candidates accepts the signature under the key that verifies it. -/
theorem exec_verifySignature_eq (ref : ℕ) (signature message : Bytes) (keys : List String)
    (w : World) :
    exec (verifySignature env ref signature message keys) w =
      match verifiedKey env signature message keys with
      | .ok keyMaterial => exec (acceptSignature env ref keyMaterial) w
      | .error e => (.error e, w) := by
  induction keys with
  | nil => rfl
  | cons keyMaterial rest ih =>
    rw [verifySignature, verifiedKey]
    cases (do
      let key ← loadRemotePublicKey env keyMaterial
      env.verify key signature message : Except PyError Unit) with
    | ok _ => rfl
    | error e =>
      dsimp only
      split_ifs
      · exact ih
      · rfl

theorem exec_checkSignature (ref : ℕ) {payload signatureB64 : Json}
    (hsignature : payload.get "signature" = .ok signatureB64) (w : World) :
    exec (Py.when signatureB64.truthy do
      let state ← Py.session ref
      let signature ← Py.ofExcept (decodeSignatureValue env signatureB64)
      let message ← Py.ofExcept
        ((signedPayload env state payload).map fun m => env.encode (env.dumpsCompact m))
      let candidates := candidateKeys state
      verifySignature env ref signature message
        (if candidates = [] then [state.userPublicKeyPem] else candidates)) w =
      match signingKey env (w.pairing.sessions.read ref) payload with
      | .error e => (.error e, w)
      | .ok none => (.ok ⟨⟩, w)
      | .ok (some keyMaterial) => exec (acceptSignature env ref keyMaterial) w := by
  have hkey : ∀ s, signingKey env s payload =
      if signatureB64.truthy then (acceptedKey env s signatureB64 payload).map some
      else .ok none := by
    intro s
    rw [signingKey, hsignature]
    rfl
  rw [hkey]
  cases signatureB64.truthy with
  | false => rfl
  | true =>
    rw [Py.when, if_pos rfl, if_pos rfl, acceptedKey, Py.session,
      exec_bind_of_ok (Py.exec_pairing w _)]
    generalize w.pairing.sessions.read ref = s
    cases decodeSignatureValue env signatureB64 with
    | error e => rfl
    | ok signature =>
      rw [exec_bind_of_ok (Py.exec_ofExcept_ok w _)]
      cases hmessage : (signedPayload env s payload).map
        fun m => env.encode (env.dumpsCompact m) with
      | error e => rfl
      | ok message =>
        rw [exec_bind_of_ok (Py.exec_ofExcept_ok w _)]
        refine (exec_verifySignature_eq env ref signature message (triedKeys s) w).trans ?_
        change _ = match (verifiedKey env signature message (triedKeys s)).map some with
          | .error e => _
          | .ok none => _
          | .ok (some keyMaterial) => _
        cases verifiedKey env signature message (triedKeys s) with
        | error e => rfl
        | ok keyMaterial => rfl

theorem exec_attachNonce (ref : ℕ) {payload nonceB64 : Json}
    (hnonce : payload.getFirst ["nonce", "clientNonce"] = .ok nonceB64) (w : World) :
    exec (Py.when nonceB64.truthy do
      let clientNonce ← Py.ofExcept (pyB64decode env nonceB64)
      Py.setSession ref fun s => { s with clientNonce := some clientNonce }) w =
      match clientNonce env payload with
      | .error e => (.error e, w)
      | .ok nonce => (.ok ⟨⟩, w.rewriteSession ref fun s => s.withNonce nonce) := by
  have hread : clientNonce env payload =
      if nonceB64.truthy then (pyB64decode env nonceB64).map some else .ok none := by
    rw [clientNonce, hnonce]
    rfl
  rw [hread]
  cases nonceB64.truthy with
  | false => exact congrArg (Prod.mk _) (w.rewriteSession_id ref).symm
  | true =>
    cases pyB64decode env nonceB64 with
    | error e => rfl
    | ok nonce => rfl

theorem Heap.modify_eq_of_read {α : Type} [Inhabited α] (h : Heap α) (ref : ℕ) {f g : α → α}
    (hfg : f (h.read ref) = g (h.read ref)) : h.modify ref f = h.modify ref g := by
  refine congrArg Heap.mk (List.ext_getElem ?_ fun i h₁ h₂ => ?_)
  · rw [List.length_modify, List.length_modify]
  · have hlt : i < h.cells.length := by rwa [List.length_modify] at h₁
    rw [List.getElem_modify, List.getElem_modify]
    split_ifs with hi
    · subst hi
      rwa [Heap.read, List.getD_eq_getElem?_getD, List.getElem?_eq_getElem hlt,
        Option.getD_some] at hfg
    · rfl

theorem World.rewriteSession_eq_of_read (w : World) (ref : ℕ)
    {f g : PkiSessionState → PkiSessionState}
    (hfg : f (w.pairing.sessions.read ref) = g (w.pairing.sessions.read ref)) :
    w.rewriteSession ref f = w.rewriteSession ref g := by
  rw [rewriteSession, rewriteSession, Heap.modify_eq_of_read _ ref hfg]

/-- The nonce does not matter to the signature of a payload. -/
theorem signingKey_withNonce (s : PkiSessionState) (nonce : Option Bytes) (payload : Json) :
    signingKey env (s.withNonce nonce) payload = signingKey env s payload := by
  cases nonce with
  | none => rfl
  | some nonce => rfl

/-- **What the check of the signature does to the session**, whichever way it ends. -/
theorem world_finalizeSessionState (ref : ℕ) {payload nonceB64 signatureB64 : Json}
    (hnonce : payload.getFirst ["nonce", "clientNonce"] = .ok nonceB64)
    (hsignature : payload.get "signature" = .ok signatureB64) (w : World) :
    ∃ trace, (exec (finalizeSessionState env ref nonceB64 signatureB64 (some payload)) w).2 =
      { w.rewriteSession ref fun s => opened env s payload with trace := trace } := by
  have hattach := exec_attachNonce env ref hnonce w
  rw [finalizeSessionState]
  cases hread : clientNonce env payload with
  | error e =>
    rw [hread] at hattach
    refine ⟨w.trace, ?_⟩
    rw [exec_bind_of_error hattach]
    refine Eq.trans (w.rewriteSession_id ref).symm (w.rewriteSession_eq_of_read ref ?_)
    rw [opened, hread]
    rfl
  | ok nonce =>
    rw [hread] at hattach
    rw [exec_bind_of_ok hattach]
    have hkey : signingKey env
        ((w.rewriteSession ref fun s => s.withNonce nonce).pairing.sessions.read ref) payload =
        signingKey env (w.pairing.sessions.read ref) payload :=
      Heap.apply_read_modify (fun s => signingKey env s payload)
        (fun s => signingKey_withNonce env s nonce payload) ref
    rw [exec_checkSignature env ref hsignature, hkey]
    have hopened : opened env (w.pairing.sessions.read ref) payload =
        match signingKey env (w.pairing.sessions.read ref) payload with
        | .ok (some keyMaterial) =>
          ((w.pairing.sessions.read ref).withNonce nonce).accepted env keyMaterial
        | _ => (w.pairing.sessions.read ref).withNonce nonce := by
      rw [opened, hread]
    rcases hsigning : signingKey env (w.pairing.sessions.read ref) payload with
      e | _ | keyMaterial
    · refine ⟨w.trace, w.rewriteSession_eq_of_read ref ?_⟩
      rw [hopened, hsigning]
    · refine ⟨w.trace, w.rewriteSession_eq_of_read ref ?_⟩
      rw [hopened, hsigning]
    · have hrewrite : (w.rewriteSession ref fun s => s.withNonce nonce).rewriteSession ref
          (fun s => s.accepted env keyMaterial) =
          w.rewriteSession ref fun s => opened env s payload := by
        rw [World.rewriteSession_rewriteSession]
        refine w.rewriteSession_eq_of_read ref ?_
        rw [hopened, hsigning]
        rfl
      refine ⟨w.trace ++ [.signatureAccepted ((w.rewriteSession ref
        fun s => s.withNonce nonce).pairing.sessions.read ref).sessionId keyMaterial], ?_⟩
      rw [← hrewrite]
      rfl

/-! ### When a session stays what it is -/

namespace PkiSessionState

/-- Whether a key that a signature is accepted under is remembered: it is not the handshake key,
as far as blanks around it go. -/
def NewKey (s : PkiSessionState) (keyMaterial : String) : Prop :=
  keyMaterial ≠ "" ∧ ∀ handshake ∈ present s.handshakePublicKeyPem,
    env.strip handshake ≠ env.strip keyMaterial

variable {env} {s : PkiSessionState} {keyMaterial : String}

theorem accepted_of_not_newKey (h : ¬s.NewKey env keyMaterial) :
    s.accepted env keyMaterial = { s with signatureVerified := true } := by
  rw [accepted]
  split_ifs with hempty
  · rfl
  · cases hpresent : present s.handshakePublicKeyPem with
    | nil => exact absurd ⟨hempty, by rw [hpresent]; nofun⟩ h
    | cons handshake rest =>
      dsimp only
      refine if_neg fun hne => h ⟨hempty, fun other hother => ?_⟩
      -- there is one handshake key
      have hhandshake : handshake ∈ present s.handshakePublicKeyPem :=
        hpresent ▸ List.mem_cons_self
      have hsame : some other = some handshake :=
        (mem_present.mp hother).1.symm.trans (mem_present.mp hhandshake).1
      exact Option.some.inj hsame ▸ hne

theorem accepted_of_newKey (h : s.NewKey env keyMaterial)
    (hpresent : present s.handshakePublicKeyPem ≠ []) :
    s.accepted env keyMaterial =
      { s with signatureVerified := true, certificatePublicKeyPem := some keyMaterial } := by
  rw [accepted, if_neg h.1]
  cases hcons : present s.handshakePublicKeyPem with
  | nil => exact absurd hcons hpresent
  | cons handshake rest => exact if_pos (h.2 handshake (hcons ▸ List.mem_cons_self))

theorem accepted_of_not_present (hne : keyMaterial ≠ "")
    (hpresent : present s.handshakePublicKeyPem = []) :
    (s.accepted env keyMaterial).handshakePublicKeyPem = some keyMaterial := by
  rw [accepted, if_neg hne, hpresent]

end PkiSessionState

/-- The signature of a payload is accepted under a key, once the session was brought up to
date. -/
def Signs (s : PkiSessionState) (payload : Json) (keyMaterial : String) : Prop :=
  (∃ nonce, clientNonce env payload = .ok nonce) ∧
    signingKey env (s.refreshed env (payloadCertificate payload)) payload = .ok (some keyMaterial)

/-- A payload brings nothing that its session does not have: its certificate, the public key
of that, its nonce and its signature are the session's own. -/
structure NothingNew (s : PkiSessionState) (payload : Json) : Prop where
  certificate : (refreshCertificate (payloadCertificate payload)).truthy = true →
    s.userCertificatePem = refreshCertificate (payloadCertificate payload)
  userKey : ∀ publicKey, refreshKey env (payloadCertificate payload) = some publicKey →
    publicKey ≠ "" → ¬s.SecondKey env publicKey →
      s.userPublicKeyPem = publicKey ∧ s.handshakePublicKeyPem = some publicKey
  secondKey : ∀ publicKey, refreshKey env (payloadCertificate payload) = some publicKey →
    publicKey ≠ "" → s.SecondKey env publicKey →
      -- a key that the signature is accepted under may come back in its place
      (∀ keyMaterial, Signs env s payload keyMaterial → ¬s.NewKey env keyMaterial) →
        s.certificatePublicKeyPem = some publicKey
  nonce : ∀ nonce, clientNonce env payload = .ok (some nonce) → s.clientNonce = some nonce
  verified : ∀ keyMaterial, Signs env s payload keyMaterial → s.signatureVerified = true
  signer : ∀ keyMaterial, Signs env s payload keyMaterial → s.NewKey env keyMaterial →
    present s.handshakePublicKeyPem ≠ [] ∧ s.certificatePublicKeyPem = some keyMaterial

/-- What becomes of a session by the whole command. -/
def PkiSessionState.afterCommand (s : PkiSessionState) (payload : Json) : PkiSessionState :=
  opened env (s.refreshed env (payloadCertificate payload)) payload

/-- The nonce a session takes over from a payload. -/
def takenNonce (payload : Json) : Option Bytes := (clientNonce env payload).toOption.join

/-- A session with the certificate and the nonce of a payload. -/
def PkiSessionState.supplied (s : PkiSessionState) (payload : Json) : PkiSessionState :=
  (s.refreshed env (payloadCertificate payload)).withNonce (takenNonce env payload)

section NothingNew

variable {env} {s : PkiSessionState} {payload : Json}

theorem takenNonce_eq_some_iff {nonce : Bytes} :
    takenNonce env payload = some nonce ↔ clientNonce env payload = .ok (some nonce) := by
  rw [takenNonce]
  rcases clientNonce env payload with e | _ | nonce'
  · exact ⟨nofun, nofun⟩
  · exact ⟨nofun, nofun⟩
  · exact ⟨fun h => congrArg _ h, fun h => Except.ok.inj h⟩

theorem PkiSessionState.exists_withNonce_eq (s : PkiSessionState) (nonce : Option Bytes) :
    ∃ clientNonce, s.withNonce nonce = { s with clientNonce := clientNonce } := by
  cases nonce with
  | none => exact ⟨s.clientNonce, rfl⟩
  | some nonce => exact ⟨some nonce, rfl⟩

theorem PkiSessionState.exists_supplied_eq (s : PkiSessionState) (payload : Json) :
    ∃ clientNonce, s.supplied env payload =
      { s.refreshed env (payloadCertificate payload) with clientNonce := clientNonce } :=
  exists_withNonce_eq _ _

/-- **The two ways a command goes**: its signature is accepted in the end, or it is not. -/
theorem afterCommand_cases (s : PkiSessionState) (payload : Json) :
    (∃ keyMaterial, Signs env s payload keyMaterial ∧
      s.afterCommand env payload = (s.supplied env payload).accepted env keyMaterial) ∨
    ((∀ keyMaterial, ¬Signs env s payload keyMaterial) ∧
      s.afterCommand env payload = s.supplied env payload) := by
  rw [PkiSessionState.afterCommand, opened, PkiSessionState.supplied, takenNonce]
  cases hnonce : clientNonce env payload with
  | error e =>
    refine Or.inr ⟨fun keyMaterial hsigns => ?_, rfl⟩
    obtain ⟨⟨nonce, hread⟩, -⟩ := hsigns
    cases hnonce.symm.trans hread
  | ok nonce =>
    rcases hsigning : signingKey env (s.refreshed env (payloadCertificate payload)) payload with
      e | _ | keyMaterial
    · refine Or.inr ⟨fun keyMaterial hsigns => ?_, rfl⟩
      cases hsigning.symm.trans hsigns.2
    · refine Or.inr ⟨fun keyMaterial hsigns => ?_, rfl⟩
      cases hsigning.symm.trans hsigns.2
    · exact Or.inl ⟨keyMaterial, ⟨⟨nonce, hnonce⟩, hsigning⟩, rfl⟩

/-- A signature is accepted under one key. -/
theorem Signs.unique {keyMaterial other : String} (h : Signs env s payload keyMaterial)
    (hother : Signs env s payload other) : other = keyMaterial :=
  Option.some.inj (Except.ok.inj (hother.2.symm.trans h.2))

/-- A session brought up to date without a public key. -/
theorem refreshed_of_no_key {certificate : Json}
    (h : ∀ publicKey, refreshKey env certificate = some publicKey → publicKey = "") :
    s.refreshed env certificate = { s with
      userCertificatePem :=
        if (refreshCertificate certificate).truthy then refreshCertificate certificate
        else s.userCertificatePem } := by
  rw [PkiSessionState.refreshed]
  cases hkey : refreshKey env certificate with
  | none => dsimp only; split_ifs <;> rfl
  | some publicKey =>
    dsimp only
    rw [if_pos (h publicKey hkey)]
    split_ifs <;> rfl

/-- A session brought up to date with a key that takes the place of its own. -/
theorem refreshed_of_userKey {certificate : Json} {publicKey : String}
    (hkey : refreshKey env certificate = some publicKey) (hne : publicKey ≠ "")
    (hsecond : ¬s.SecondKey env publicKey) :
    s.refreshed env certificate = { s with
      userPublicKeyPem := publicKey
      handshakePublicKeyPem := some publicKey
      userCertificatePem :=
        if (refreshCertificate certificate).truthy then refreshCertificate certificate
        else s.userCertificatePem } := by
  rw [PkiSessionState.refreshed, hkey]
  dsimp only
  rw [if_neg hne, PkiSessionState.withPublicKey, if_neg hsecond]
  split_ifs <;> rfl

/-- A session brought up to date with a key that goes beside its own. -/
theorem refreshed_of_secondKey {certificate : Json} {publicKey : String}
    (hkey : refreshKey env certificate = some publicKey) (hne : publicKey ≠ "")
    (hsecond : s.SecondKey env publicKey) :
    s.refreshed env certificate = { s with
      certificatePublicKeyPem := some publicKey
      userCertificatePem :=
        if (refreshCertificate certificate).truthy then refreshCertificate certificate
        else s.userCertificatePem } := by
  rw [PkiSessionState.refreshed, hkey]
  dsimp only
  rw [if_neg hne, PkiSessionState.withPublicKey, if_pos hsecond]
  split_ifs <;> rfl

/-- A payload that brings nothing new changes at most the second public key of its session, and
that only for a signature that brings it back. -/
theorem NothingNew.refreshed_eq (h : NothingNew env s payload) :
    ∃ certificateKey, s.refreshed env (payloadCertificate payload) =
        { s with certificatePublicKeyPem := certificateKey } ∧
      ((∀ keyMaterial, Signs env s payload keyMaterial → ¬s.NewKey env keyMaterial) →
        certificateKey = s.certificatePublicKeyPem) := by
  have hcertificate : (if (refreshCertificate (payloadCertificate payload)).truthy then
      refreshCertificate (payloadCertificate payload) else s.userCertificatePem) =
      s.userCertificatePem := by
    split_ifs with htruthy
    · exact (h.certificate htruthy).symm
    · rfl
  by_cases hkey : ∀ publicKey, refreshKey env (payloadCertificate payload) = some publicKey →
    publicKey = ""
  · refine ⟨s.certificatePublicKeyPem, ?_, fun _ => rfl⟩
    rw [refreshed_of_no_key hkey, hcertificate]
  · push Not at hkey
    obtain ⟨publicKey, hkey, hne⟩ := hkey
    by_cases hsecond : s.SecondKey env publicKey
    · refine ⟨some publicKey, ?_, fun hold => (h.secondKey publicKey hkey hne hsecond hold).symm⟩
      rw [refreshed_of_secondKey hkey hne hsecond, hcertificate]
    · obtain ⟨huser, hhandshake⟩ := h.userKey publicKey hkey hne hsecond
      refine ⟨s.certificatePublicKeyPem, ?_, fun _ => rfl⟩
      rw [refreshed_of_userKey hkey hne hsecond, hcertificate, ← hhandshake, ← huser]

/-- With the nonce, if it is the session's own, that is so as well. -/
theorem NothingNew.supplied_eq (h : NothingNew env s payload) :
    ∃ certificateKey, s.supplied env payload =
        { s with certificatePublicKeyPem := certificateKey } ∧
      ((∀ keyMaterial, Signs env s payload keyMaterial → ¬s.NewKey env keyMaterial) →
        certificateKey = s.certificatePublicKeyPem) := by
  obtain ⟨certificateKey, hrefreshed, hold⟩ := h.refreshed_eq
  refine ⟨certificateKey, ?_, hold⟩
  rw [PkiSessionState.supplied, hrefreshed]
  cases htaken : takenNonce env payload with
  | none => rfl
  | some nonce =>
    rw [PkiSessionState.withNonce, ← h.nonce nonce (takenNonce_eq_some_iff.mp htaken)]

theorem NothingNew.afterCommand_eq (h : NothingNew env s payload) :
    s.afterCommand env payload = s := by
  obtain ⟨certificateKey, hsupplied, hold⟩ := h.supplied_eq
  rcases afterCommand_cases s payload with ⟨keyMaterial, hsigns, hafter⟩ | ⟨hnot, hafter⟩
  · rw [hafter, hsupplied]
    by_cases hnew : s.NewKey env keyMaterial
    · obtain ⟨hpresent, hkey⟩ := h.signer keyMaterial hsigns hnew
      rw [PkiSessionState.accepted_of_newKey
        (s := { s with certificatePublicKeyPem := certificateKey }) hnew hpresent, ← hkey,
        ← h.verified keyMaterial hsigns]
    · have hkey : certificateKey = s.certificatePublicKeyPem :=
        hold fun other hother => hsigns.unique hother ▸ hnew
      rw [PkiSessionState.accepted_of_not_newKey
        (s := { s with certificatePublicKeyPem := certificateKey }) hnew, hkey,
        ← h.verified keyMaterial hsigns]
  · rw [hafter, hsupplied, hold fun keyMaterial hsigns => absurd hsigns (hnot keyMaterial)]

/-- An accepted signature leaves the user's key and the handshake key, where there is one. -/
theorem keys_accepted {keyMaterial : String} (hpresent : present s.handshakePublicKeyPem ≠ []) :
    (s.accepted env keyMaterial).userPublicKeyPem = s.userPublicKeyPem ∧
      (s.accepted env keyMaterial).handshakePublicKeyPem = s.handshakePublicKeyPem := by
  by_cases hnew : s.NewKey env keyMaterial
  · rw [PkiSessionState.accepted_of_newKey hnew hpresent]
    exact ⟨rfl, rfl⟩
  · rw [PkiSessionState.accepted_of_not_newKey hnew]
    exact ⟨rfl, rfl⟩

/-- What the rest of a command leaves of the keys of a session that was brought up to date. -/
theorem keys_afterCommand
    (hpresent : present (s.refreshed env (payloadCertificate payload)).handshakePublicKeyPem ≠ []) :
    (s.afterCommand env payload).userPublicKeyPem =
        (s.refreshed env (payloadCertificate payload)).userPublicKeyPem ∧
      (s.afterCommand env payload).handshakePublicKeyPem =
        (s.refreshed env (payloadCertificate payload)).handshakePublicKeyPem := by
  obtain ⟨nonce, hsupplied⟩ := @PkiSessionState.exists_supplied_eq env s payload
  rcases afterCommand_cases s payload with ⟨keyMaterial, -, hafter⟩ | ⟨-, hafter⟩
  · rw [hafter, hsupplied]
    exact keys_accepted hpresent
  · rw [hafter, hsupplied]
    exact ⟨rfl, rfl⟩

/-- What the rest of a command leaves of the certificate, and the nonce that stays. -/
theorem certificate_afterCommand :
    (s.afterCommand env payload).userCertificatePem =
        (s.supplied env payload).userCertificatePem ∧
      (s.afterCommand env payload).clientNonce = (s.supplied env payload).clientNonce := by
  rcases afterCommand_cases s payload with ⟨keyMaterial, -, hafter⟩ | ⟨-, hafter⟩
  · obtain ⟨_, _, _, haccepted⟩ := (s.supplied env payload).exists_accepted_eq env keyMaterial
    rw [hafter, haccepted]
    exact ⟨rfl, rfl⟩
  · rw [hafter]
    exact ⟨rfl, rfl⟩

theorem userCertificatePem_supplied
    (htruthy : (refreshCertificate (payloadCertificate payload)).truthy = true) :
    (s.supplied env payload).userCertificatePem =
      refreshCertificate (payloadCertificate payload) := by
  obtain ⟨nonce, hsupplied⟩ := @PkiSessionState.exists_supplied_eq env s payload
  rw [hsupplied, PkiSessionState.refreshed, if_pos htruthy]

theorem clientNonce_supplied {nonce : Bytes} (hread : clientNonce env payload = .ok (some nonce)) :
    (s.supplied env payload).clientNonce = some nonce := by
  rw [PkiSessionState.supplied, takenNonce_eq_some_iff.mpr hread]
  rfl

/-- **A session that the command leaves as it is** gets nothing new from it. -/
theorem nothingNew_of_afterCommand (h : s.afterCommand env payload = s) :
    NothingNew env s payload := by
  obtain ⟨nonce, hsupplied⟩ := @PkiSessionState.exists_supplied_eq env s payload
  have huserKey : ∀ publicKey, refreshKey env (payloadCertificate payload) = some publicKey →
      publicKey ≠ "" → ¬s.SecondKey env publicKey →
        s.userPublicKeyPem = publicKey ∧ s.handshakePublicKeyPem = some publicKey := by
    intro publicKey hkey hne hsecond
    have hrefreshed := refreshed_of_userKey hkey hne hsecond
    have hpresent :
        present (s.refreshed env (payloadCertificate payload)).handshakePublicKeyPem ≠ [] := by
      rw [hrefreshed]
      exact List.ne_nil_of_mem (mem_present.mpr ⟨rfl, hne⟩)
    obtain ⟨huser, hhandshake⟩ := keys_afterCommand hpresent
    rw [h, hrefreshed] at huser hhandshake
    exact ⟨huser, hhandshake⟩
  have hhandshake : (s.supplied env payload).handshakePublicKeyPem = s.handshakePublicKeyPem := by
    rw [hsupplied]
    by_cases hkey : ∀ publicKey, refreshKey env (payloadCertificate payload) = some publicKey →
      publicKey = ""
    · rw [refreshed_of_no_key hkey]
    · push Not at hkey
      obtain ⟨publicKey, hkey, hne⟩ := hkey
      by_cases hsecond : s.SecondKey env publicKey
      · rw [refreshed_of_secondKey hkey hne hsecond]
      · rw [refreshed_of_userKey hkey hne hsecond, (huserKey publicKey hkey hne hsecond).2]
  have hnewKey : ∀ keyMaterial,
      (s.supplied env payload).NewKey env keyMaterial ↔ s.NewKey env keyMaterial := by
    intro keyMaterial
    rw [PkiSessionState.NewKey, hhandshake, PkiSessionState.NewKey]
  have hsigned : ∀ keyMaterial, Signs env s payload keyMaterial →
      (s.supplied env payload).accepted env keyMaterial = s := by
    intro keyMaterial hsigns
    rcases afterCommand_cases s payload with ⟨other, hother, hafter⟩ | ⟨hnot, -⟩
    · rw [← hother.unique hsigns] at hafter
      exact hafter.symm.trans h
    · exact absurd hsigns (hnot keyMaterial)
  constructor
  case certificate =>
    intro htruthy
    rw [← userCertificatePem_supplied htruthy, ← certificate_afterCommand.1, h]
  case userKey => exact huserKey
  case secondKey =>
    intro publicKey hkey hne hsecond hold
    have hsecondKey : (s.supplied env payload).certificatePublicKeyPem = some publicKey := by
      rw [hsupplied, refreshed_of_secondKey hkey hne hsecond]
    rw [← hsecondKey]
    rcases afterCommand_cases s payload with ⟨keyMaterial, hsigns, -⟩ | ⟨-, hafter⟩
    · have haccepted := hsigned keyMaterial hsigns
      rw [PkiSessionState.accepted_of_not_newKey fun hnew =>
        hold keyMaterial hsigns ((hnewKey keyMaterial).mp hnew)] at haccepted
      have hcertificate := congrArg PkiSessionState.certificatePublicKeyPem haccepted
      exact hcertificate.symm
    · exact congrArg PkiSessionState.certificatePublicKeyPem (h.symm.trans hafter)
  case nonce =>
    intro nonce' hread
    rw [← clientNonce_supplied hread, ← certificate_afterCommand.2, h]
  case verified =>
    intro keyMaterial hsigns
    rw [← hsigned keyMaterial hsigns, PkiSessionState.signatureVerified_accepted]
  case signer =>
    intro keyMaterial hsigns hnew
    have haccepted := hsigned keyMaterial hsigns
    have hpresent : present s.handshakePublicKeyPem ≠ [] := by
      intro hnil
      -- the handshake key would be the one that was accepted
      have hset : ((s.supplied env payload).accepted env keyMaterial).handshakePublicKeyPem =
          some keyMaterial :=
        PkiSessionState.accepted_of_not_present hnew.1 (hhandshake.symm ▸ hnil)
      rw [haccepted] at hset
      exact List.ne_nil_of_mem (mem_present.mpr ⟨hset, hnew.1⟩) hnil
    refine ⟨hpresent, ?_⟩
    rw [PkiSessionState.accepted_of_newKey ((hnewKey keyMaterial).mpr hnew)
      (hhandshake.symm ▸ hpresent)] at haccepted
    exact congrArg PkiSessionState.certificatePublicKeyPem haccepted.symm

/-- **When a session stays what it is.** -/
theorem afterCommand_eq_iff : s.afterCommand env payload = s ↔ NothingNew env s payload :=
  ⟨nothingNew_of_afterCommand, NothingNew.afterCommand_eq⟩

end NothingNew

/-! ### When the key store stays what it is -/

/-- The key a certificate names is known, if it names one. -/
def KeyKnown (w : World) (certificate : Json) : Prop :=
  ∀ given, certificateKeyId certificate = .ok given → given.truthy = true →
    (w.store.getKey (pyStr env given)).any Json.truthy = true

theorem exec_knowsKey (keyId : String) (w : World) :
    exec (knowsKey keyId) w = (.ok ((w.store.getKey keyId).any Json.truthy), w) := rfl

/-- A key that is known is not cached again. -/
theorem eq_of_keyKnown {certificate : Json} {w w' : World} {u : Unit}
    (h : exec (maybeStoreKeyFromCertificate env certificate) w = (.ok u, w'))
    (hknown : KeyKnown env w certificate) : w' = w := by
  rw [maybeStoreKeyFromCertificate] at h
  cases hkeyId : certificateKeyId certificate with
  | error e =>
    rw [hkeyId] at h
    cases h
  | ok given =>
    rw [hkeyId, exec_bind_of_ok (Py.exec_ofExcept_ok w _)] at h
    cases htruthy : given.truthy with
    | false =>
      rw [htruthy] at h
      cases h
      rfl
    | true =>
      rw [htruthy, Py.when, if_pos rfl, exec_bind_of_ok (exec_knowsKey _ w),
        hknown given hkeyId htruthy] at h
      cases h
      rfl

/-- **A key that is not known** is in the store afterwards. -/
theorem keyKnown_of_sameKeys {certificate : Json} {w w' : World} {u : Unit}
    (h : exec (maybeStoreKeyFromCertificate env certificate) w = (.ok u, w'))
    (hsame : SameKeys w'.store w.store) : KeyKnown env w certificate := by
  intro given hkeyId htruthy
  by_contra hunknown
  rw [Bool.not_eq_true] at hunknown
  obtain ⟨members, rfl⟩ : ∃ members, certificate = .obj members := by
    cases certificate with
    | obj members => exact ⟨members, rfl⟩
    | _ => cases hkeyId
  obtain ⟨permissions, hpermissions⟩ :
      ∃ j, (Json.obj members).get "permissions" = .ok j := ⟨_, rfl⟩
  obtain ⟨userId, huserId⟩ : ∃ j, (Json.obj members).get "userId" = .ok j := ⟨_, rfl⟩
  obtain ⟨vehicleId, hvehicleId⟩ : ∃ j, (Json.obj members).get "vehicleId" = .ok j := ⟨_, rfl⟩
  rw [maybeStoreKeyFromCertificate, hkeyId, exec_bind_of_ok (Py.exec_ofExcept_ok w _), htruthy,
    Py.when, if_pos rfl, exec_bind_of_ok (exec_knowsKey _ w), hunknown, Py.when, if_pos (by rfl),
    hpermissions, exec_bind_of_ok (Py.exec_ofExcept_ok w _), huserId,
    exec_bind_of_ok (Py.exec_ofExcept_ok w _), hvehicleId,
    exec_bind_of_ok (Py.exec_ofExcept_ok w _), exec_bind_of_ok (Py.exec_ask w _)] at h
  generalize hentry : Json.obj [("keyId", .str (pyStr env given)), ("certificate", .obj members),
    ("permissions", permissions), ("userId", userId), ("vehicleId", vehicleId),
    ("updatedAt", .int (env.timeMs w.tick))] = entry at h
  -- whether the file is written or not, the key is in memory
  have hkeys : w'.store.keys = (w.store.put (.str (pyStr env given)) (.str (pyStr env given))
      entry).keys := by
    rw [exec_tryCatch, exec_upsertKey env _ rfl] at h
    refine Eq.trans ?_ (keys_flush env (World.putKey { w with tick := w.tick + 1 } .pkiCertificate
      (.str (pyStr env given)) (.str (pyStr env given)) entry))
    rcases hflush : exec (flush env) _ with ⟨e | _, w₁⟩
    · rw [hflush] at h
      cases h
      rfl
    · rw [hflush] at h
      cases h
      rfl
  have hentries := hsame (.str (pyStr env given))
  rw [hkeys, KeyStore.put, Dict.get_set, if_pos rfl] at hentries
  rw [KeyStore.getKey, ← hentries, ← hentry] at hunknown
  cases hunknown

/-! ### Rejected commands -/

/-- A payload is a PKI command. -/
def IsPkiCommand (payload : Json) : Prop :=
  ∃ given, payload.getD "type" (.str "") = .ok given ∧ env.lower (pyStr env given) = "pki_command"

/-- The plaintext of a PKI command: `finalize_session_state`, then `decrypt_payload`. -/
def decryptPkiCommand (ref : ℕ) (payload : Json) : Py Bytes := do
  let nonceB64 ← Py.ofExcept (payload.getFirst ["nonce", "clientNonce"])
  let signatureB64 ← Py.ofExcept (payload.get "signature")
  finalizeSessionState env ref nonceB64 signatureB64 (some payload)
  let encryptedPayload ← Py.ofExcept (payload.getFirst ["encryptedPayload", "encrypted_payload"])
  if !encryptedPayload.truthy then throw (valueError "pki_command missing encryptedPayload")
  else do
    let state ← Py.session ref
    let nonce ← Py.ofExcept (payload.get "nonce")
    Py.ofExcept (decryptPayload env state.sessionKey (pyStr env encryptedPayload) nonce)

/-- A payload has a session, and is then rejected. -/
def Rejected (payload : Json) (w : World) : Prop :=
  ∃ s w₁ e w₂, exec (pkiCommandSession env payload) w = (.ok s, w₁) ∧
    exec (decryptPkiCommand env s.ref payload) w₁ = (.error e, w₂)

/-- The key store and every session of the manager are what they were. -/
structure Traceless (w w' : World) : Prop where
  keys : SameKeys w'.store w.store
  file : w'.store.file = w.store.file
  sessions : ∀ sessionId, (w'.pairing.pkiSessions.get? sessionId).map w'.pairing.sessions.read =
    (w.pairing.pkiSessions.get? sessionId).map w.pairing.sessions.read
  current : w'.pairing.pkiState.map w'.pairing.sessions.read =
    w.pairing.pkiState.map w.pairing.sessions.read

theorem Traceless.refl (w : World) : Traceless w w := ⟨fun _ => rfl, rfl, fun _ => rfl, rfl⟩

/-- Only the store and the manager count. -/
theorem Traceless.congr {w w₁ w₂ : World} (h : Traceless w w₁) (hstore : w₂.store = w₁.store)
    (hpairing : w₂.pairing = w₁.pairing) : Traceless w w₂ := by
  constructor
  · rw [hstore]
    exact h.keys
  · rw [hstore]
    exact h.file
  · rw [hpairing]
    exact h.sessions
  · rw [hpairing]
    exact h.current

theorem openPkiCommand_eq (ref : ℕ) (payload : Json) :
    openPkiCommand env ref payload = (do
      let plaintext ← decryptPkiCommand env ref payload
      decodeInner env "pki_command" plaintext) := by
  rw [openPkiCommand, decryptPkiCommand]
  simp only [bind_assoc]
  refine bind_congr fun nonceB64 => bind_congr fun signatureB64 => bind_congr fun _ =>
    bind_congr fun encryptedPayload => ?_
  split
  · rfl
  · simp only [bind_assoc]

/-- **What decryption does to the session**, whichever way it ends. -/
theorem world_decryptPkiCommand (ref : ℕ) (members : List (String × Json)) (w : World) :
    ∃ trace, (exec (decryptPkiCommand env ref (.obj members)) w).2 =
      { w.rewriteSession ref fun s => opened env s (.obj members) with trace := trace } := by
  obtain ⟨nonceB64, hnonce⟩ := Json.exists_getFirst members ["nonce", "clientNonce"]
  obtain ⟨signatureB64, hsignature⟩ :
      ∃ signatureB64, (Json.obj members).get "signature" = .ok signatureB64 := ⟨_, rfl⟩
  rw [decryptPkiCommand, hnonce, exec_bind_of_ok (Py.exec_ofExcept_ok w _), hsignature,
    exec_bind_of_ok (Py.exec_ofExcept_ok w _)]
  refine exec_bind_of_preserves (P := fun w' => ∃ trace, w' =
    { w.rewriteSession ref fun s => opened env s (.obj members) with trace := trace })
    (world_finalizeSessionState env ref hnonce hsignature w) fun _ => ?_
  refine keeps_bind (Py.keeps_ofExcept _) fun _ => keeps_ite (keeps_throw _) ?_
  exact keeps_bind (Py.keeps_session ref) fun _ => keeps_bind (Py.keeps_ofExcept _) fun _ =>
    Py.keeps_ofExcept _

/-- A missing certificate has no key to be cached. -/
theorem exec_when_maybeStoreKeyFromCertificate (stated : Json) (w : World) :
    exec (Py.when (stated.or (.obj [])).truthy
      (maybeStoreKeyFromCertificate env (stated.or (.obj [])))) w =
        exec (maybeStoreKeyFromCertificate env (stated.or (.obj []))) w := by
  cases htruthy : stated.truthy with
  | true =>
    have hor : stated.or (.obj []) = stated := if_pos htruthy
    rw [hor, htruthy]
    rfl
  | false =>
    have hor : stated.or (.obj []) = .obj [] := if_neg (by rw [htruthy]; nofun)
    rw [hor]
    rfl

/-- A certificate whose key was looked for is an object. -/
theorem exists_eq_obj_of_maybeStoreKeyFromCertificate {certificate : Json} {w w' : World} {u : Unit}
    (h : exec (maybeStoreKeyFromCertificate env certificate) w = (.ok u, w')) :
    ∃ members, certificate = .obj members := by
  cases certificate with
  | obj members => exact ⟨members, rfl⟩
  | _ => cases h

/-- **The session of a command for one that is stored**: first the key of the certificate is
cached, then the session is brought up to date. -/
theorem pkiCommandSession_of_stored {payload : Json} {w w₂ : World} {ref : ℕ} {s : CommandSession}
    (hstored : w.pairing.pkiSessions.get? (payloadSession env payload) = some ref)
    (hs : exec (pkiCommandSession env payload) w = (.ok s, w₂)) :
    s.ref = ref ∧ ∃ u w₁,
      exec (maybeStoreKeyFromCertificate env (payloadCertificate payload)) w = (.ok u, w₁) ∧
        w₂ = w₁.rewriteSession ref fun s => s.refreshed env (payloadCertificate payload) := by
  obtain ⟨given, w₀, hread, hsession⟩ := exec_bind_eq_ok.mp hs
  obtain ⟨hgiven, rfl⟩ := returns_ofExcept _ w given w₀ hread
  have hid : payloadSession env payload = pyStr env (given.or (.str "")) := by
    rw [payloadSession, hgiven]
  dsimp only at hsession
  split at hsession
  · cases hsession
  · rename_i hne
    obtain ⟨stated, w₀, hread, hcertificate⟩ := exec_bind_eq_ok.mp hsession
    obtain ⟨hstated, rfl⟩ := returns_ofExcept _ _ stated w₀ hread
    obtain ⟨u, w₁, hcached, hfind⟩ := exec_bind_eq_ok.mp hcertificate
    have hpairing : w₁.pairing = w₀.pairing :=
      (Py.keeps_when (samePairing_maybeStoreKeyFromCertificate env _)).returns w₀ u w₁ hcached
    have hfound : exec (commandSession env (pyStr env (given.or (.str ""))) (stated.or (.obj [])))
        w₁ = (.ok (some ref), w₁) := by
      rw [hid] at hstored
      rw [commandSession, getPkiSessionState, exec_bind_of_ok (Py.exec_pairing w₁ _), if_pos hne,
        hpairing, hstored]
      rfl
    rw [exec_when_maybeStoreKeyFromCertificate] at hcached
    rw [exec_bind_of_ok hfound] at hfind
    have hpayload : payloadCertificate payload = stated.or (.obj []) := by
      rw [payloadCertificate, hstated]
    rw [hpayload]
    obtain ⟨members, hmembers⟩ := exists_eq_obj_of_maybeStoreKeyFromCertificate env hcached
    rw [hmembers] at hcached hfind ⊢
    dsimp only at hfind
    rw [exec_bind_of_ok (exec_refreshCertificateMaterial env ref members w₁)] at hfind
    obtain ⟨version, w₃, hread, hpure⟩ := exec_bind_eq_ok.mp hfind
    obtain ⟨-, rfl⟩ := returns_ofExcept _ _ version w₃ hread
    cases hpure
    exact ⟨rfl, u, w₁, hcached, rfl⟩

/-- A command that is rejected is answered, and nothing else happens. -/
theorem world_process_of_rejected {payload : Json} {s : CommandSession} {e : PyError}
    {w w₁ w₂ : World} (depth : ℕ) (hcommand : IsPkiCommand env payload)
    (hs : exec (pkiCommandSession env payload) w = (.ok s, w₁))
    (hrejected : exec (decryptPkiCommand env s.ref payload) w₁ = (.error e, w₂)) :
    (exec (process env (depth + 1) payload) w).2 = { w₂ with tick := w₂.tick + 1 } := by
  obtain ⟨given, hgiven, hlower⟩ := hcommand
  have hopen : exec (openPkiCommand env s.ref payload) w₁ = (.error e, w₂) := by
    rw [openPkiCommand_eq, exec_bind_of_error hrejected]
  have htyped : exec (handleTypedRequest env (depth + 1) "pki_command" payload) w =
      exec (failPkiCommand env s e) w₂ := by
    refine Eq.trans (congrArg (fun x => exec x w) (handlePkiCommand_eq env
      (handleInnerSecureCommand env (handleTypedRequest env depth)) payload)) ?_
    rw [exec_bind_of_ok hs, exec_tryCatch, exec_bind_of_error hopen]
  have hrequest : exec (do
      let given ← Py.ofExcept (payload.getD "type" (.str ""))
      let requestType := env.lower (pyStr env given)
      if requestType ≠ "" then handleTypedRequest env (depth + 1) requestType payload
      else do
        let stated ← Py.ofExcept (payload.getD "command" (.str ""))
        let command := env.upper (pyStr env stated)
        if command ∈ vehicleCommands then handleVehicleCommand env command payload
        else throw (valueError ("Unsupported command: " ++ command))) w =
      exec (failPkiCommand env s e) w₂ := by
    rw [hgiven, exec_bind_of_ok (Py.exec_ofExcept_ok w _)]
    dsimp only
    rw [hlower, if_pos (by decide), htyped]
  rw [process, exec_tryCatch, hrequest]
  rfl

/-- **What a rejected command does**: its session is opened, and nothing else. -/
theorem process_of_rejected {payload : Json} {s : CommandSession} {e : PyError} {w w₁ w₂ : World}
    (depth : ℕ) (hcommand : IsPkiCommand env payload)
    (hs : exec (pkiCommandSession env payload) w = (.ok s, w₁))
    (hrejected : exec (decryptPkiCommand env s.ref payload) w₁ = (.error e, w₂)) :
    (exec (process env (depth + 1) payload) w).2.store = w₁.store ∧
      (exec (process env (depth + 1) payload) w).2.pairing =
        (w₁.rewriteSession s.ref fun s => opened env s payload).pairing := by
  rw [world_process_of_rejected env depth hcommand hs hrejected]
  obtain ⟨members, rfl⟩ : ∃ members, payload = .obj members := by
    cases payload with
    | obj members => exact ⟨members, rfl⟩
    | _ => cases hs
  obtain ⟨trace, hworld⟩ := world_decryptPkiCommand env s.ref members w₁
  rw [hrejected] at hworld
  change w₂ = _ at hworld
  rw [hworld]
  exact ⟨rfl, rfl⟩

/-- A session that was recovered is a trace. -/
theorem not_traceless_of_recovered {payload : Json} {s : CommandSession} {w w₁ w' : World}
    {f : PkiSessionState → PkiSessionState}
    (hget : w.pairing.pkiSessions.get? (payloadSession env payload) = none)
    (hs : exec (pkiCommandSession env payload) w = (.ok s, w₁))
    (hpairing : w'.pairing = (w₁.rewriteSession s.ref f).pairing) : ¬Traceless w w' := by
  intro h
  obtain ⟨hid, -, -, hstands, -⟩ := returns_pkiCommandSession env payload w s w₁ hs
  have hstored : w'.pairing.pkiSessions.get? (payloadSession env payload) = some s.ref := by
    rw [hpairing, ← hid]
    exact hstands.stored
  have hsessions := h.sessions (payloadSession env payload)
  rw [hget, hstored] at hsessions
  cases hsessions

/-- A session that was rewritten is a trace, unless it stayed what it was. -/
theorem Traceless.rewrite_eq {w w₀ w' : World} (h : Traceless w w') (hw : WellStored w)
    {sessionId : String} {ref : ℕ} (hget : w.pairing.pkiSessions.get? sessionId = some ref)
    (hsame : w₀.pairing = w.pairing) {f : PkiSessionState → PkiSessionState}
    (hpairing : w'.pairing = (w₀.rewriteSession ref f).pairing) :
    f (w.pairing.sessions.read ref) = w.pairing.sessions.read ref := by
  have hstored : w'.pairing.pkiSessions.get? sessionId = some ref := by
    rw [hpairing]
    exact (congrArg (fun p : PairingManager => p.pkiSessions.get? _) hsame).trans hget
  have hsessions := h.sessions sessionId
  rw [hget, hstored, hpairing] at hsessions
  have hread := Option.some.inj hsessions
  have hlt : ref < w₀.pairing.sessions.cells.length := hsame ▸ (hw _ _ hget).lt
  rw [← hsame] at hread ⊢
  exact (Heap.read_modify_self _ hlt).symm.trans hread

/-- **When a rejected command leaves no trace**: its certificate names no key or one that is
known, its session was stored before, and the payload brings nothing new. -/
theorem traceless_iff {api : PairingApi} {recursionLimit : ℕ} {w : World} {payload : Json}
    (hw : Reachable env api recursionLimit w) (hcommand : IsPkiCommand env payload)
    (hrejected : Rejected env payload w) (depth : ℕ) :
    Traceless w (exec (process env (depth + 1) payload) w).2 ↔
      KeyKnown env w (payloadCertificate payload) ∧
        ∃ ref, w.pairing.pkiSessions.get? (payloadSession env payload) = some ref ∧
          NothingNew env (w.pairing.sessions.read ref) payload := by
  obtain ⟨s, w₁, e, w₂, hs, hrejected⟩ := hrejected
  obtain ⟨hstore, hpairing⟩ := process_of_rejected env depth hcommand hs hrejected
  cases hget : w.pairing.pkiSessions.get? (payloadSession env payload) with
  | none =>
    refine iff_of_false (not_traceless_of_recovered env hget hs hpairing) fun h => ?_
    obtain ⟨-, ref, ⟨⟩, -⟩ := h
  | some ref =>
    obtain ⟨rfl, u, w₀, hcached, rfl⟩ := pkiCommandSession_of_stored env hget hs
    have hsame : w₀.pairing = w.pairing :=
      (samePairing_maybeStoreKeyFromCertificate env _).returns w u w₀ hcached
    rw [World.rewriteSession_rewriteSession] at hpairing
    constructor
    · intro h
      refine ⟨keyKnown_of_sameKeys env hcached (hstore ▸ h.keys), s.ref, rfl, ?_⟩
      exact afterCommand_eq_iff.mp (h.rewrite_eq (Reachable.wellStored env hw) hget hsame hpairing)
    · rintro ⟨hknown, ref, ⟨⟩, hnew⟩
      have hw₀ : w₀ = w := eq_of_keyKnown env hcached hknown
      subst hw₀
      refine (Traceless.refl w₀).congr hstore (hpairing.trans ?_)
      refine congrArg World.pairing ((w₀.rewriteSession_eq_of_read s.ref ?_).trans
        (w₀.rewriteSession_id s.ref))
      exact afterCommand_eq_iff.mpr hnew

/-- A PKI command with a certificate, and nothing that could be decrypted. -/
def emptyCommand : Json :=
  .obj [("type", .str "pki_command"), ("sessionId", .str "a"),
    ("certificate", .obj [("keyId", .str "k")])]

theorem isPkiCommand_emptyCommand : IsPkiCommand .plain emptyCommand := ⟨_, rfl, rfl⟩

theorem rejected_emptyCommand : Rejected .plain emptyCommand pinVerified :=
  ⟨_, _, _, _, rfl, rfl⟩

theorem traceless_iff_emptyCommand :
    Traceless pinVerified (exec (process .plain 1000 emptyCommand) pinVerified).2 ↔
      KeyKnown .plain pinVerified (payloadCertificate emptyCommand) ∧
        ∃ ref, pinVerified.pairing.pkiSessions.get? (payloadSession .plain emptyCommand) =
            some ref ∧
          NothingNew .plain (pinVerified.pairing.sessions.read ref) emptyCommand :=
  traceless_iff .plain reachable_pinVerified isPkiCommand_emptyCommand rejected_emptyCommand 999

/-- **A rejected command leaves a key**: the one its certificate names. -/
theorem rejectedCommand_leavesKey : ¬∀ (env : Platform) (api : PairingApi) (recursionLimit : ℕ)
    (w : World), Reachable env api recursionLimit w → ∀ payload, IsPkiCommand env payload →
      Rejected env payload w → ∀ depth,
        Traceless w (exec (process env (depth + 1) payload) w).2 := by
  intro h
  have hkeys := (h .plain twoTelephones 1000 pinVerified reachable_pinVerified emptyCommand
    isPkiCommand_emptyCommand rejected_emptyCommand 999).keys (.str "k")
  have hstored : ((exec (process .plain 1000 emptyCommand) pinVerified).2.store.keys.get?
      (.str "k")).isSome = true := by decide +kernel
  have hunknown : pinVerified.store.keys.get? (.str "k") = none := rfl
  rw [hunknown, Option.map_none, Option.map_eq_none_iff] at hkeys
  rw [hkeys] at hstored
  cases hstored

end DigitalKey

end VehicleStack
