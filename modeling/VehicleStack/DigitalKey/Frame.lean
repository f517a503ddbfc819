import VehicleStack.DigitalKey.Activity

/-!
# What leaves the sessions alone

Most of what the handlers do has nothing to do with the PKI sessions and the PIN
session: they ask the world, keep the store, answer, and remember handshakes. That
such a program leaves both as they are is
`VehicleStack.Effect.Keeps VehicleStack.DigitalKey.Unmoved`, and it follows the
structure of the program. What is to be shown about the sessions is then a matter of
the few programs that change them (`VehicleStack.DigitalKey.Unmoved.keeps`).
-/

namespace VehicleStack

namespace DigitalKey

open Effect

/-- The PKI sessions and the PIN session are as they were. -/
structure Unmoved (w w' : World) : Prop where
  sessions : w'.pairing.sessions = w.pairing.sessions
  pkiSessions : w'.pairing.pkiSessions = w.pairing.pkiSessions
  pinSessionState : w'.pairing.pinSessionState = w.pairing.pinSessionState

instance : IsPreorder World Unmoved where
  refl _ := ⟨rfl, rfl, rfl⟩
  trans _ _ _ h h' :=
    ⟨h'.sessions.trans h.sessions, h'.pkiSessions.trans h.pkiSessions,
      h'.pinSessionState.trans h.pinSessionState⟩

variable {α : Type} (env : Platform) (api : PairingApi)

/-- A program that leaves them alone keeps whatever only depends on them. -/
theorem Unmoved.keeps {R : World → World → Prop} (hR : ∀ {w w'}, Unmoved w w' → R w w')
    {x : Py α} (hx : Keeps Unmoved x) : Keeps R x :=
  fun w => hR (hx w)

/-- The world, the vehicle and the key store have nothing to do with them. -/
theorem serving_unmoved : Serving Unmoved where
  ask _ := ⟨rfl, rfl, rfl⟩
  query _ _ := ⟨rfl, rfl, rfl⟩
  dispatch _ _ _ _ := ⟨rfl, rfl, rfl⟩
  put _ _ _ _ _ := ⟨rfl, rfl, rfl⟩
  sync _ _ _ := ⟨rfl, rfl, rfl⟩
  write _ _ := ⟨rfl, rfl, rfl⟩

/-! ### The small programs -/

theorem unmoved_ask (answer : ℕ → α) : Keeps Unmoved (Py.ask answer) :=
  Py.keeps_ask serving_unmoved.ask answer

theorem unmoved_emit (e : Event) : Keeps Unmoved (Py.emit e) := fun _ => ⟨rfl, rfl, rfl⟩

theorem unmoved_setContext (ref : ℕ) (f : PkiHandshakeContext → PkiHandshakeContext) :
    Keeps Unmoved (Py.setContext ref f) := fun _ => ⟨rfl, rfl, rfl⟩

theorem unmoved_newContext (c : PkiHandshakeContext) : Keeps Unmoved (Py.newContext c) :=
  fun _ => ⟨rfl, rfl, rfl⟩

theorem unmoved_stopPinStatusPoller : Keeps Unmoved stopPinStatusPoller :=
  fun _ => ⟨rfl, rfl, rfl⟩

theorem unmoved_disablePairingFlag : Keeps Unmoved (disablePairingFlag env) :=
  fun _ => ⟨rfl, rfl, rfl⟩

/-! ### Keys, signatures and answers -/

theorem unmoved_deriveSessionKey (sessionId pairingToken : String) (nonce : Bytes)
    (remote : String) (certificate : Json) :
    Keeps Unmoved (deriveSessionKey env sessionId pairingToken nonce remote certificate) :=
  Py.keeps_deriveSessionKey serving_unmoved.ask _ _ _ _ _

theorem unmoved_encryptPayload (key plaintext : Bytes) (inline : Bool) :
    Keeps Unmoved (encryptPayload env key plaintext inline) :=
  Py.keeps_encryptPayload serving_unmoved.ask _ _ _

theorem unmoved_signVehicleResponse (sessionId encrypted : String) (now : ℤ)
    (nonce : Option String) :
    Keeps Unmoved (signVehicleResponse env sessionId encrypted now nonce) :=
  Py.keeps_signVehicleResponse serving_unmoved.ask _ _ _ _

theorem unmoved_errorStatus (members : List (String × Json)) :
    Keeps Unmoved (errorStatus env members) :=
  Py.keeps_errorStatus serving_unmoved.ask _

/-! ### Handshakes -/

theorem unmoved_updateHandshakeContext (sessionId userKey vehicleKey : String)
    (token nonce : Json) :
    Keeps Unmoved (updateHandshakeContext env sessionId userKey vehicleKey token nonce) := by
  refine keeps_bind (unmoved_ask _) fun _ => keeps_bind (Py.keeps_pairing _) fun found => ?_
  cases found with
  | none => exact unmoved_newContext _
  | some ref => exact keeps_bind (unmoved_setContext ref _) fun _ => keeps_pure ref

/-! ### Changes of one session -/

/-- What the certificate of a command leaves alone in a session. -/
structure SameButKeys (s s' : PkiSessionState) : Prop where
  sessionId : s'.sessionId = s.sessionId
  signatureVerified : s'.signatureVerified = s.signatureVerified
  sessionKey : s'.sessionKey = s.sessionKey

section Session

variable {R : World → World → Prop} [IsPreorder World R] (hR : ∀ {w w'}, Unmoved w w' → R w w')
  (ref : ℕ)

include hR

/-- A signature that is looked at changes neither the id nor the key of its session. -/
theorem keeps_verifySignature
    (hset : ∀ f, (∀ s, (f s).sessionId = s.sessionId ∧ (f s).sessionKey = s.sessionKey) →
      Keeps R (Py.setSession ref f)) (signature message : Bytes) (keys : List String) :
    Keeps R (verifySignature env ref signature message keys) := by
  induction keys with
  | nil => exact keeps_throw _
  | cons key keys ih =>
    rw [verifySignature]
    split
    · refine keeps_bind (Py.keeps_session ref) fun _ =>
        keeps_bind (Unmoved.keeps hR (unmoved_emit _)) fun _ => hset _ fun s => ?_
      split
      · exact ⟨rfl, rfl⟩
      · split
        · exact ⟨rfl, rfl⟩
        · split
          · exact ⟨rfl, rfl⟩
          · exact ⟨rfl, rfl⟩
    · exact keeps_ite ih (keeps_throw _)

theorem keeps_finalizeSessionState
    (hset : ∀ f, (∀ s, (f s).sessionId = s.sessionId ∧ (f s).sessionKey = s.sessionKey) →
      Keeps R (Py.setSession ref f)) (clientNonce signature : Json) (payload : Option Json) :
    Keeps R (finalizeSessionState env ref clientNonce signature payload) := by
  have hread : ∀ {β : Type} (x : Except PyError β), Keeps R (Py.ofExcept x) := fun x =>
    Py.keeps_ofExcept x
  refine keeps_bind (keeps_ite (keeps_bind (hread _) fun _ => hset _ ?_) (keeps_pure _)) fun _ =>
    keeps_ite ?_ (keeps_pure _)
  · exact fun _ => ⟨rfl, rfl⟩
  · exact keeps_bind (Py.keeps_session ref) fun _ => keeps_bind (hread _) fun _ =>
      keeps_bind (hread _) fun _ => keeps_verifySignature env hR ref hset _ _ _

omit hR in
/-- A certificate changes the keys of one session, and nothing else. -/
theorem keeps_refreshCertificateMaterial
    (hset : ∀ f, (∀ s, SameButKeys s (f s)) → Keeps R (Py.setSession ref f)) (certificate : Json) :
    Keeps R (refreshCertificateMaterial env ref certificate) := by
  have hread : ∀ {β : Type} (x : Except PyError β), Keeps R (Py.ofExcept x) := fun x =>
    Py.keeps_ofExcept x
  refine keeps_ite (keeps_bind (hread _) fun _ => keeps_bind (hread _) fun _ =>
    keeps_bind (hread _) fun _ => ?_) (keeps_pure _)
  refine keeps_bind (keeps_ite (hset _ fun s => ?_) (keeps_pure _)) fun _ =>
    keeps_ite (hset _ fun s => ⟨rfl, rfl, rfl⟩) (keeps_pure _)
  split
  · exact ⟨rfl, rfl, rfl⟩
  · exact ⟨rfl, rfl, rfl⟩

end Session

/-! ### Challenges -/

theorem unmoved_isPairingAllowed : Keeps Unmoved isPairingAllowed := fun _ => ⟨rfl, rfl, rfl⟩

theorem unmoved_vehiclePublicKeyMember : Keeps Unmoved (vehiclePublicKeyMember env) :=
  Py.keeps_vehiclePublicKeyMember serving_unmoved.ask

theorem unmoved_startPinStatusPoller : Keeps Unmoved (startPinStatusPoller api) :=
  Py.keeps_when fun _ => ⟨rfl, rfl, rfl⟩

theorem unmoved_issueChallenge (challenge : List (String × Json)) :
    Keeps Unmoved (issueChallenge challenge) := fun _ => ⟨rfl, rfl, rfl⟩

theorem unmoved_buildCachedChallenge (nonce : String) (issuedAt : ℤ) :
    Keeps Unmoved (buildCachedChallenge env api nonce issuedAt) :=
  Py.keeps_buildCachedChallenge api serving_unmoved.ask nonce issuedAt

end DigitalKey

end VehicleStack
