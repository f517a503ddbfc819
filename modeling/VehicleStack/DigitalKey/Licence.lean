import VehicleStack.DigitalKey.Backed

/-!
# Which message makes which session verified

The property a verified session has to show may become true in the course of a run, so
here it depends on the trace. A message that makes a session verified needs a licence
for it: the property has to hold then
(`VehicleStack.DigitalKey.Licensed`). If every message of a write has one, the write
keeps the stored sessions backed
(`VehicleStack.DigitalKey.carried_handleWrite`).
-/

namespace VehicleStack

namespace DigitalKey

open Effect

variable {E : List Event → String → Prop} {α : Type} (env : Platform)

/-! ### Properties that last -/

/-- What has become true stays true. -/
def Lasting (E : List Event → String → Prop) : Prop :=
  ∀ ⦃t t' s⦄, t <+: t' → E t s → E t' s

/-- Nothing is taken from the trace. -/
theorem Step.trace_prefix {w w' : World} (h : Step w w') : w.trace <+: w'.trace := by
  cases h with
  | ask n => exact List.prefix_rfl
  | pair p => exact List.prefix_rfl
  | write file => exact List.prefix_rfl
  | accept sessionId keyPem => exact List.prefix_append _ _
  | put source key keyId payload => exact List.prefix_append _ _
  | sync data => exact List.prefix_append _ _
  | query keyId => exact List.prefix_append _ _
  | dispatch command keyId hkey => exact List.prefix_append _ _

theorem Acts.trace_prefix {w w' : World} (h : Acts w w') : w.trace <+: w'.trace := by
  induction h with
  | refl => exact List.prefix_rfl
  | tail _ hstep ih => exact ih.trans hstep.trace_prefix

/-- The stored sessions are backed afterwards if they were before. -/
def Carried (E : List Event → String → Prop) (w w' : World) : Prop :=
  Backed (E w.trace) w → Backed (E w'.trace) w'

instance : IsPreorder World (Carried E) where
  refl _ := id
  trans _ _ _ h h' := fun hw => h' (h hw)

theorem StaysBacked.carried (hE : Lasting E) {w w' : World} (hacts : Acts w w')
    (h : StaysBacked (E w.trace) w w') : Carried E w w' :=
  fun hw => (h.stored hw).mono fun _ hs => hE hacts.trace_prefix hs

theorem carried_of_staysBacked (hE : Lasting E) {x : Py α} (hacts : Keeps Acts x)
    (hx : ∀ {F : String → Prop}, Keeps (StaysBacked F) x) : Keeps (Carried E) x :=
  fun w => (hx w).carried hE (hacts w)

theorem carried_of_unmoved (hE : Lasting E) {x : Py α} (hacts : Keeps Acts x)
    (hx : Keeps Unmoved x) : Keeps (Carried E) x :=
  carried_of_staysBacked hE hacts (staysBacked_of_unmoved hx)

/-- A value is computed, and used if that raises nothing. -/
theorem rel_ofExcept_bind {β : Type} {R : World → World → Prop} [IsPreorder World R]
    {x : Except PyError β} {f : β → Py α} {w : World}
    (h : ∀ b, x = .ok b → R w (exec (f b) w).2) : R w (exec (Py.ofExcept x >>= f) w).2 := by
  cases x with
  | error e => exact refl_of R w
  | ok b => exact h b rfl

/-! ### A signature -/

/-- Accepting a signature makes the session of the object verified. -/
theorem carried_acceptSignature (hE : Lasting E) {w : World} {sessionId keyMaterial : String}
    {ref : ℕ} (hstored : w.pairing.pkiSessions.get? sessionId = some ref)
    (haccepted : E (w.trace ++ [.signatureAccepted sessionId keyMaterial]) sessionId) :
    Carried E w (exec (acceptSignature env ref keyMaterial) w).2 := by
  intro hw other ref' hget
  have hself : BackedAt (E w.trace) sessionId ref w := hw sessionId ref hstored
  have hother : BackedAt (E w.trace) other ref' w := hw other ref' hget
  rw [exec_acceptSignature, hself.id_eq]
  rcases Decidable.em (ref = ref') with rfl | hne
  · -- an object is stored under its own id only
    have hid : other = sessionId := hother.id_eq.symm.trans hself.id_eq
    subst hid
    refine ⟨(Heap.length_modify ..).symm ▸ hself.lt, ?_, fun _ => haccepted⟩
    rw [Heap.read_modify_self _ hself.lt, PkiSessionState.sessionId_accepted]
    exact hself.id_eq
  · refine ⟨(Heap.length_modify ..).symm ▸ hother.lt, ?_, fun hverified => ?_⟩
    · rw [Heap.read_modify_of_ne _ hne]
      exact hother.id_eq
    · rw [Heap.read_modify_of_ne _ hne] at hverified
      exact hE (List.prefix_append _ _) (hother.verified hverified)

/-- The bytes a signature of a message for a session is over. -/
def signedMessage (sessionId : String) (payload : Json) : Except PyError Bytes :=
  (signedPayload env { (default : PkiSessionState) with sessionId := sessionId } payload).map
    fun m => env.encode (env.dumpsCompact m)

/-- Of the session only its id is signed. -/
theorem signedPayload_eq {state : PkiSessionState} {sessionId : String}
    (h : state.sessionId = sessionId) (payload : Json) :
    (signedPayload env state payload).map (fun m => env.encode (env.dumpsCompact m)) =
      signedMessage env sessionId payload := by
  subst h
  rfl

/-- A state in which the client nonce of an object has been attached: nothing that the
check of a signature looks at has changed. -/
structure NonceAttached (ref : ℕ) (w w' : World) : Prop where
  trace : w'.trace = w.trace
  pkiSessions : w'.pairing.pkiSessions = w.pairing.pkiSessions
  length : w'.pairing.sessions.cells.length = w.pairing.sessions.cells.length
  sessionId : (w'.pairing.sessions.read ref).sessionId = (w.pairing.sessions.read ref).sessionId
  triedKeys : triedKeys (w'.pairing.sessions.read ref) = triedKeys (w.pairing.sessions.read ref)
  signatureVerified : (w'.pairing.sessions.read ref).signatureVerified =
    (w.pairing.sessions.read ref).signatureVerified

theorem nonceAttached_refl (ref : ℕ) (w : World) : NonceAttached ref w w :=
  ⟨rfl, rfl, rfl, rfl, rfl, rfl⟩

theorem nonceAttached_setSession (ref : ℕ) {f : PkiSessionState → PkiSessionState}
    (hid : ∀ s, (f s).sessionId = s.sessionId)
    (hkeys : ∀ s, DigitalKey.triedKeys (f s) = DigitalKey.triedKeys s)
    (hverified : ∀ s, (f s).signatureVerified = s.signatureVerified) (w : World) :
    NonceAttached ref w (exec (Py.setSession ref f) w).2 :=
  ⟨rfl, rfl, Heap.length_modify .., Heap.apply_read_modify PkiSessionState.sessionId hid ref,
    Heap.apply_read_modify DigitalKey.triedKeys hkeys ref,
    Heap.apply_read_modify PkiSessionState.signatureVerified hverified ref⟩

/-- The first half of `finalize_session_state`. -/
theorem returns_attachNonce (ref : ℕ) (clientNonce : Json) (w : World) :
    Returns (fun _ w' => NonceAttached ref w w')
      (Py.when clientNonce.truthy do
        let clientNonce ← Py.ofExcept (pyB64decode env clientNonce)
        Py.setSession ref fun s => { s with clientNonce := some clientNonce }) w := by
  refine returns_ite (fun _ => ?_) fun _ => returns_pure (nonceAttached_refl ref w)
  cases pyB64decode env clientNonce with
  | error e => exact fun _ _ h => nomatch h
  | ok nonce =>
    rintro - w' ⟨⟩
    refine nonceAttached_setSession ref ?_ ?_ ?_ w
    · exact fun _ => rfl
    · exact fun _ => rfl
    · exact fun _ => rfl

/-- The second half of `finalize_session_state`. -/
theorem carried_checkSignature (hE : Lasting E) {w : World} {sessionId : String} {ref : ℕ}
    {signature : Json} {payload : Option Json}
    (hstored : w.pairing.pkiSessions.get? sessionId = some ref)
    (hid : (w.pairing.sessions.read ref).sessionId = sessionId)
    (haccepted : ∀ keyMaterial ∈ triedKeys (w.pairing.sessions.read ref), ∀ bytes message,
      decodeSignatureValue env signature = .ok bytes →
        (∀ p, payload = some p → signedMessage env sessionId p = .ok message) →
          ValidUnder env keyMaterial bytes message →
            E (w.trace ++ [.signatureAccepted sessionId keyMaterial]) sessionId) :
    Carried E w (exec (do
      let state ← Py.session ref
      let bytes ← Py.ofExcept (decodeSignatureValue env signature)
      let message ← Py.ofExcept
        (match payload with
          | some p => (signedPayload env state p).map fun m => env.encode (env.dumpsCompact m)
          | none => .ok (state.vehicleNonce ++ state.clientNonce.getD []))
      verifySignature env ref bytes message (triedKeys state)) w).2 := by
  rw [Py.session, exec_bind_of_ok (Py.exec_pairing w _)]
  cases hdecode : decodeSignatureValue env signature with
  | error e => exact refl_of (Carried E) w
  | ok bytes =>
    rw [exec_bind_of_ok (Py.exec_ofExcept_ok w _)]
    cases hmessage : (match payload with
      | some p => (signedPayload env (w.pairing.sessions.read ref) p).map
        fun m => env.encode (env.dumpsCompact m)
      | none => .ok ((w.pairing.sessions.read ref).vehicleNonce ++
        (w.pairing.sessions.read ref).clientNonce.getD [])) with
    | error e => exact refl_of (Carried E) w
    | ok message =>
      rw [exec_bind_of_ok (Py.exec_ofExcept_ok w _)]
      rcases exec_verifySignature env ref bytes message
        (triedKeys (w.pairing.sessions.read ref)) w with
        ⟨e, hexec⟩ | ⟨keyMaterial, hmem, hvalid, hexec⟩
      · rw [hexec]
        exact refl_of (Carried E) w
      · rw [hexec]
        refine carried_acceptSignature env hE hstored ?_
        refine haccepted keyMaterial hmem bytes message hdecode ?_ hvalid
        rintro p rfl
        exact (signedPayload_eq env hid p).symm.trans hmessage

/-- **The signature of a message** makes the session of the object verified if it is
valid under one of the keys that are tried. -/
theorem carried_finalizeSessionState (hE : Lasting E) {w : World} {sessionId : String} {ref : ℕ}
    {clientNonce signature : Json} {payload : Option Json}
    (hstored : w.pairing.pkiSessions.get? sessionId = some ref)
    (haccepted : ∀ keyMaterial ∈ triedKeys (w.pairing.sessions.read ref), ∀ bytes message,
      decodeSignatureValue env signature = .ok bytes →
        (∀ p, payload = some p → signedMessage env sessionId p = .ok message) →
          ValidUnder env keyMaterial bytes message →
            E (w.trace ++ [.signatureAccepted sessionId keyMaterial]) sessionId) :
    Carried E w (exec (finalizeSessionState env ref clientNonce signature payload) w).2 := by
  intro hw
  have hid : (w.pairing.sessions.read ref).sessionId = sessionId := (hw sessionId ref hstored).id_eq
  suffices h : Carried E w
      (exec (finalizeSessionState env ref clientNonce signature payload) w).2 from h hw
  unfold finalizeSessionState
  refine rel_exec_bind (R := Carried E) ?_ (returns_attachNonce env ref clientNonce w) ?_
  · refine carried_of_staysBacked hE ?_ ?_ w
    · exact Py.keeps_when (keeps_bind (Py.keeps_ofExcept _) fun _ =>
        (routine_acts env).keeps_setSession ref _)
    · intro F
      refine Py.keeps_when (keeps_bind (Py.keeps_ofExcept _) fun nonce =>
        staysBacked_setSession ref ?_)
      exact fun _ => ⟨rfl, id⟩
  · intro _ w₁ hattached
    unfold Py.when
    split
    · refine carried_checkSignature env hE (hattached.pkiSessions ▸ hstored)
        (hattached.sessionId.trans hid) ?_
      rw [hattached.triedKeys, hattached.trace]
      exact haccepted
    · exact refl_of (Carried E) w₁

/-! ### The session of a PKI command -/

/-- The same sessions are stored, and an object is as verified as it was. -/
structure SameStanding (ref : ℕ) (w w' : World) : Prop where
  pkiSessions : w'.pairing.pkiSessions = w.pairing.pkiSessions
  signatureVerified : (w'.pairing.sessions.read ref).signatureVerified =
    (w.pairing.sessions.read ref).signatureVerified

instance (ref : ℕ) : IsPreorder World (SameStanding ref) where
  refl _ := ⟨rfl, rfl⟩
  trans _ _ _ h h' :=
    ⟨h'.pkiSessions.trans h.pkiSessions, h'.signatureVerified.trans h.signatureVerified⟩

theorem Unmoved.sameStanding {ref : ℕ} {w w' : World} (h : Unmoved w w') : SameStanding ref w w' :=
  ⟨h.pkiSessions, by rw [h.sessions]⟩

theorem sameStanding_of_unmoved {ref : ℕ} {x : Py α} (hx : Keeps Unmoved x) :
    Keeps (SameStanding ref) x :=
  Unmoved.keeps Unmoved.sameStanding hx

theorem sameStanding_setSession (ref : ℕ) {f : PkiSessionState → PkiSessionState}
    (hf : ∀ s, (f s).signatureVerified = s.signatureVerified) :
    Keeps (SameStanding ref) (Py.setSession ref f) :=
  fun _ => ⟨rfl, Heap.apply_read_modify PkiSessionState.signatureVerified hf ref⟩

theorem sameStanding_refreshCertificateMaterial (ref : ℕ) (certificate : Json) :
    Keeps (SameStanding ref) (refreshCertificateMaterial env ref certificate) := by
  refine keeps_refreshCertificateMaterial env ref (fun f hf => ?_) certificate
  exact sameStanding_setSession ref fun s => (hf s).signatureVerified

/-- The public key `_refresh_certificate_material` takes from a certificate, if it finds
one. -/
def refreshKey (certificate : Json) : Option String :=
  (certificate.getFirst ["publicKey", "public_key"]).toOption.bind fun material =>
    (certificateCandidate env material).head?.bind fun key => (coercePublicKeyPem env key).toOption

/-- The keys of an object are among some keys. -/
def KeysAmong (keys : List String) (ref : ℕ) (w : World) : Prop :=
  ∀ k ∈ triedKeys (w.pairing.sessions.read ref), k ∈ keys

theorem KeysAmong.mono {keys keys' : List String} {ref : ℕ} {w : World} (h : KeysAmong keys ref w)
    (hsub : ∀ k ∈ keys, k ∈ keys') : KeysAmong keys' ref w :=
  fun k hk => hsub k (h k hk)

/-- A change of an object that brings no key but some new ones. -/
theorem KeysAmong.setSession {keys keys' : List String} {ref : ℕ} {w : World}
    (h : KeysAmong keys ref w) {f : PkiSessionState → PkiSessionState}
    (hf : ∀ s, ∀ k ∈ triedKeys (f s), k ∈ triedKeys s ∨ k ∈ keys') :
    KeysAmong (keys ++ keys') ref (exec (Py.setSession ref f) w).2 := by
  intro k hk
  rw [List.mem_append]
  rcases w.pairing.sessions.read_modify_eq_or ref f with hread | hread
  · change k ∈ triedKeys ((w.pairing.sessions.modify ref f).read ref) at hk
    rw [hread] at hk
    exact (hf _ k hk).imp_left (h k)
  · change k ∈ triedKeys ((w.pairing.sessions.modify ref f).read ref) at hk
    rw [hread] at hk
    exact Or.inl (h k hk)

/-- The key of a certificate goes to one of the places a session has for keys. -/
theorem triedKeys_refreshed (s : PkiSessionState) {publicKey : String} (hne : publicKey ≠ "")
    {k : String} (hk : k ∈ triedKeys
      (if s.userPublicKeyPem ≠ "" ∧ env.strip s.userPublicKeyPem ≠ env.strip publicKey then
        { s with certificatePublicKeyPem := some publicKey }
      else { s with userPublicKeyPem := publicKey, handshakePublicKeyPem := some publicKey })) :
    k ∈ triedKeys s ∨ k ∈ [publicKey] := by
  -- the session has this key among its candidates then
  have hcandidate : ∀ t : PkiSessionState, publicKey ∈ candidateKeys t → k ∈ triedKeys t →
      k ∈ candidateKeys t := by
    intro t hmem htried
    rcases mem_triedKeys.mp htried with h | ⟨hnil, -⟩
    · exact h
    · rw [hnil] at hmem
      cases hmem
  rw [List.mem_singleton]
  split at hk
  · obtain ⟨hk, hk'⟩ := mem_candidateKeys.mp (hcandidate _
      (mem_candidateKeys.mpr ⟨hne, Or.inr (Or.inr rfl)⟩) hk)
    rcases hk' with h | h | h
    · exact Or.inl (mem_triedKeys.mpr (Or.inl (mem_candidateKeys.mpr ⟨hk, Or.inl h⟩)))
    · exact Or.inl (mem_triedKeys.mpr (Or.inl (mem_candidateKeys.mpr ⟨hk, Or.inr (Or.inl h)⟩)))
    · exact Or.inr (Option.some_inj.mp h).symm
  · obtain ⟨hk, hk'⟩ := mem_candidateKeys.mp (hcandidate _
      (mem_candidateKeys.mpr ⟨hne, Or.inl rfl⟩) hk)
    rcases hk' with h | h | h
    · exact Or.inr (Option.some_inj.mp h).symm
    · exact Or.inr h.symm
    · exact Or.inl (mem_triedKeys.mpr (Or.inl (mem_candidateKeys.mpr ⟨hk, Or.inr (Or.inr h)⟩)))

theorem returns_attachCertificate {keys : List String} {ref : ℕ} {w : World}
    (h : KeysAmong keys ref w) (condition : Bool) (certificatePem : Json) :
    Returns (fun _ w' => KeysAmong keys ref w')
      (Py.when condition (Py.setSession ref fun s =>
        { s with userCertificatePem := certificatePem }))
      w := by
  refine returns_ite (fun _ => ?_) fun _ => returns_pure h
  rintro - w' ⟨⟩
  -- the certificate is none of the keys
  have hkeys := @Heap.apply_read_modify _ _ w.pairing.sessions _ triedKeys
    (fun s => { s with userCertificatePem := certificatePem }) (fun _ => rfl) ref
  exact fun k hk => h k (hkeys ▸ hk)

theorem returns_refreshCertificateMaterial {keys : List String} {ref : ℕ} {w : World}
    (certificate : Json) (h : KeysAmong keys ref w) :
    Returns (fun _ w' => KeysAmong (keys ++ (refreshKey env certificate).toList) ref w')
      (refreshCertificateMaterial env ref certificate) w := by
  refine returns_ite (fun _ => ?_) fun _ =>
    returns_pure (h.mono fun k hk => List.mem_append_left _ hk)
  refine returns_bind (returns_ofExcept _ w) ?_
  rintro material w ⟨hmaterial, rfl⟩
  refine returns_bind (returns_ofExcept _ _) ?_
  rintro pem w ⟨-, rfl⟩
  refine returns_bind (returns_ofExcept _ _) ?_
  rintro raw w ⟨-, rfl⟩
  have hkey : refreshKey env certificate = ((certificateCandidate env material).head?.bind
      fun key => (coercePublicKeyPem env key).toOption) := by
    rw [refreshKey, hmaterial]
    rfl
  rw [hkey]
  cases (certificateCandidate env material).head?.bind
    fun key => (coercePublicKeyPem env key).toOption with
  | none =>
    refine returns_bind (Q := fun _ w' => KeysAmong (keys ++ []) ref w') ?_ fun _ w₁ h₁ => ?_
    · exact returns_pure (h.mono fun k hk => List.mem_append_left _ hk)
    · exact returns_attachCertificate h₁ _ _
  | some publicKey =>
    refine returns_bind (Q := fun _ w' => KeysAmong (keys ++ [publicKey]) ref w') ?_
      fun _ w₁ h₁ => ?_
    · refine returns_ite (fun hne => ?_) fun _ =>
        returns_pure (h.mono fun k hk => List.mem_append_left _ hk)
      rintro - w' ⟨⟩
      refine h.setSession fun s k hk => ?_
      exact triedKeys_refreshed env s (of_decide_eq_true hne) hk
    · exact returns_attachCertificate h₁ _ _

/-- The session id of a payload. -/
def payloadSession (payload : Json) : String :=
  match payload.getFirst ["sessionId", "session_id"] with
  | .ok given => pyStr env (given.or (.str ""))
  | .error _ => ""

/-- Whether the session of a command is verified before the command: the one that is
stored, or what a recovered one would be. -/
def verifiedBefore (w : World) (sessionId : String) : Bool :=
  match w.pairing.pkiSessions.get? sessionId with
  | some ref => (w.pairing.sessions.read ref).signatureVerified
  | none => recoveredVerified (currentSession w) w.pairing.cachedPkiPayload

/-- The keys the session of a command may have: those of the session that is stored, or
what a recovered one would have. -/
def sessionKeys (w : World) (sessionId : String) (certificate : Json) : List String :=
  match w.pairing.pkiSessions.get? sessionId with
  | some ref => triedKeys (w.pairing.sessions.read ref)
  | none => recoveryKeys (currentSession w) (recoveryKey env certificate)

/-- The certificate of a payload; a missing one is as good as an empty one. -/
def payloadCertificate (payload : Json) : Json :=
  match payload.get "certificate" with
  | .ok stated => stated.or (.obj [])
  | .error _ => .obj []

/-- The keys the signature of a PKI command may be tried under: those of its session,
and the one its own certificate names. -/
def usableKeys (w : World) (payload : Json) : List String :=
  sessionKeys env w (payloadSession env payload) (payloadCertificate payload) ++
    (refreshKey env (payloadCertificate payload)).toList

/-- The session of a PKI command can be had: it is stored, or there is what it takes to recover
it. Otherwise the command is turned down. -/
def Available (w : World) (sessionId : String) (certificate : Json) : Prop :=
  w.pairing.pkiSessions.get? sessionId = none → Recoverable env w certificate

/-- A session is stored, and verified or not. -/
structure Stands (sessionId : String) (ref : ℕ) (verified : Bool) (w : World) : Prop where
  stored : w.pairing.pkiSessions.get? sessionId = some ref
  signatureVerified : (w.pairing.sessions.read ref).signatureVerified = verified

theorem Stands.of_sameStanding {sessionId : String} {ref : ℕ} {verified : Bool} {w w' : World}
    (h : Stands sessionId ref verified w) (hsame : SameStanding ref w w') :
    Stands sessionId ref verified w' :=
  ⟨(congrArg (fun d => d.get? sessionId) hsame.pkiSessions).trans h.stored,
    hsame.signatureVerified.trans h.signatureVerified⟩

/-- A program that keeps the standing of sessions. -/
theorem returns_stands {sessionId : String} {ref : ℕ} {verified : Bool} {w : World} {x : Py α}
    (hx : Keeps (SameStanding ref) x) (h : Stands sessionId ref verified w) :
    Returns (fun _ w' => Stands sessionId ref verified w') x w :=
  fun a w' hexec => h.of_sameStanding (hx.returns w a w' hexec)

theorem returns_commandSession {sessionId : String} (hne : sessionId ≠ "") (certificate : Json)
    (w : World) :
    Returns (fun found w' => ∀ ref, found = some ref →
        Available env w sessionId certificate ∧
          Stands sessionId ref (verifiedBefore w sessionId) w' ∧
            KeysAmong (sessionKeys env w sessionId certificate) ref w')
      (commandSession env sessionId certificate) w := by
  rw [commandSession, getPkiSessionState]
  intro found w' hexec ref hfound
  rw [exec_bind_of_ok (Py.exec_pairing w _), if_pos hne] at hexec
  cases hget : w.pairing.pkiSessions.get? sessionId with
  | some ref' =>
    rw [hget] at hexec
    cases hexec
    cases hfound
    refine ⟨fun hnone => ?_, ⟨hget, by rw [verifiedBefore, hget]⟩, fun k hk => ?_⟩
    · rw [hget] at hnone
      cases hnone
    · rw [sessionKeys, hget]
      exact hk
  | none =>
    rw [hget] at hexec
    have hrecovered := recovered_recoverPkiSession env certificate hget
    dsimp only at hexec
    rw [hexec, hfound] at hrecovered
    cases hrecovered with
    | stored hpossible hid hverified hkeys hsessions hstored =>
      refine ⟨fun _ => hpossible, ⟨?_, ?_⟩, fun k hk => ?_⟩
      · rw [hstored, Dict.get_set, if_pos rfl]
      · rw [hsessions, Heap.read_alloc_new, hverified, verifiedBefore, hget]
      · rw [hsessions, Heap.read_alloc_new] at hk
        rw [sessionKeys, hget]
        exact hkeys k hk

theorem verifiedBefore_congr {w w' : World} (h : SamePairing w w') (sessionId : String) :
    verifiedBefore w' sessionId = verifiedBefore w sessionId := by
  rw [verifiedBefore, currentSession, h]
  rfl

theorem recoverable_congr {w w' : World} (h : SamePairing w w') (certificate : Json) :
    Recoverable env w' certificate ↔ Recoverable env w certificate := by
  have hmaterial : neededMaterial env w' = neededMaterial env w := by
    rw [neededMaterial, currentSession, h]
    rfl
  constructor
  · rintro ⟨hkey, htoken, hnonce⟩
    exact ⟨hkey, hmaterial ▸ htoken, hmaterial ▸ hnonce⟩
  · rintro ⟨hkey, htoken, hnonce⟩
    exact ⟨hkey, hmaterial ▸ htoken, hmaterial ▸ hnonce⟩

theorem sessionKeys_congr {w w' : World} (h : SamePairing w w') (sessionId : String)
    (certificate : Json) :
    sessionKeys env w' sessionId certificate = sessionKeys env w sessionId certificate := by
  rw [sessionKeys, currentSession, h]
  rfl

/-- **The session of a PKI command** is stored under the id the payload names, and is
verified if it was before. -/
theorem returns_pkiCommandSession (payload : Json) (w : World) :
    Returns (fun s w' => s.sessionId = payloadSession env payload ∧ s.sessionId ≠ "" ∧
        Available env w (payloadSession env payload) (payloadCertificate payload) ∧
          Stands s.sessionId s.ref (verifiedBefore w s.sessionId) w' ∧
            KeysAmong (usableKeys env w payload) s.ref w')
      (pkiCommandSession env payload) w := by
  refine returns_bind (returns_ofExcept _ w) ?_
  rintro given _ ⟨hgiven, rfl⟩
  have hsession : payloadSession env payload = pyStr env (given.or (.str "")) := by
    rw [payloadSession, hgiven]
  refine returns_ite (fun _ => returns_throw _ _) fun hne => ?_
  refine returns_bind (returns_ofExcept _ _) ?_
  rintro stated w ⟨hstated, rfl⟩
  have hcertificate : payloadCertificate payload = stated.or (.obj []) := by
    rw [payloadCertificate, hstated]
  refine returns_bind (Q := fun _ w₁ => SamePairing w w₁) ?_ fun _ w₁ h₁ => ?_
  · exact (Py.keeps_when (samePairing_maybeStoreKeyFromCertificate env _)).returns w
  · refine returns_bind (returns_commandSession env hne _ w₁) fun found w₂ hfound => ?_
    cases found with
    | none => exact returns_throw _ w₂
    | some ref =>
      obtain ⟨havailable, hstands, hkeys⟩ := hfound ref rfl
      refine returns_bind (returns_and
        (returns_stands (sameStanding_refreshCertificateMaterial env ref _) hstands)
        (returns_refreshCertificateMaterial env _ hkeys)) fun _ w₃ h₃ =>
          returns_bind (returns_ofExcept _ w₃) ?_
      rintro version _ ⟨-, rfl⟩
      refine returns_pure ⟨hsession.symm, hne, fun hnone => ?_, ?_, ?_⟩
      · rw [hcertificate, ← recoverable_congr env h₁]
        refine havailable ?_
        rw [hsession] at hnone
        rw [h₁]
        exact hnone
      · rw [← verifiedBefore_congr h₁]
        exact h₃.1
      · rw [usableKeys, hsession, hcertificate, ← sessionKeys_congr env h₁]
        exact h₃.2

theorem carried_commandSession (hE : Lasting E) {sessionId : String} (hne : sessionId ≠ "")
    (certificate : Json) {w : World}
    (hrecovered : w.pairing.pkiSessions.get? sessionId = none → Recoverable env w certificate →
      verifiedBefore w sessionId = true → E w.trace sessionId) :
    Carried E w (exec (commandSession env sessionId certificate) w).2 := by
  have hacts := (routine_acts env).keeps_commandSession sessionId certificate w
  rw [commandSession, getPkiSessionState, exec_bind_of_ok (Py.exec_pairing w _), if_pos hne] at *
  cases hget : w.pairing.pkiSessions.get? sessionId with
  | some ref => exact refl_of (Carried E) w
  | none =>
    rw [hget] at hacts
    refine (staysBacked_recoverPkiSession env hget fun hpossible h =>
      hrecovered hget hpossible ?_).carried hE hacts
    rw [verifiedBefore, hget]
    exact h

/-- Finding the session of a PKI command makes it verified only if a recovered one is. -/
theorem carried_pkiCommandSession (hE : Lasting E) (payload : Json) {w : World}
    (hrecovered : w.pairing.pkiSessions.get? (payloadSession env payload) = none →
      Recoverable env w (payloadCertificate payload) →
        verifiedBefore w (payloadSession env payload) = true →
          E w.trace (payloadSession env payload)) :
    Carried E w (exec (pkiCommandSession env payload) w).2 := by
  refine rel_ofExcept_bind fun given hgiven => ?_
  have hsession : payloadSession env payload = pyStr env (given.or (.str "")) := by
    rw [payloadSession, hgiven]
  rw [hsession] at hrecovered
  dsimp only
  split
  · exact refl_of (Carried E) _
  · rename_i hne
    refine rel_ofExcept_bind fun stated hstated => ?_
    have hcertificate : payloadCertificate payload = stated.or (.obj []) := by
      rw [payloadCertificate, hstated]
    have hacts : Keeps Acts (Py.when (stated.or (.obj [])).truthy
        (maybeStoreKeyFromCertificate env (stated.or (.obj [])))) :=
      Py.keeps_when ((routine_acts env).serving.keeps_maybeStoreKeyFromCertificate _)
    refine rel_exec_bind (P := fun _ w₁ => SamePairing w w₁ ∧ Acts w w₁) ?_ ?_ ?_
    · exact carried_of_unmoved hE hacts
        (Py.keeps_when (serving_unmoved.keeps_maybeStoreKeyFromCertificate _)) w
    · exact fun a w₁ hexec =>
        ⟨(Py.keeps_when (samePairing_maybeStoreKeyFromCertificate env _)).returns w a w₁ hexec,
          hacts.returns w a w₁ hexec⟩
    · rintro - w₁ ⟨hsame, hacts₁⟩
      refine rel_exec_bind (carried_commandSession env hE hne _ ?_) (returns_true _ w₁)
        fun found w₂ _ => ?_
      · intro hnone hpossible hverified
        rw [verifiedBefore_congr hsame] at hverified
        rw [recoverable_congr env hsame, ← hcertificate] at hpossible
        refine hE hacts₁.trace_prefix (hrecovered ?_ hpossible hverified)
        rw [← hsame]
        exact hnone
      · cases found with
        | none => exact refl_of (Carried E) w₂
        | some ref =>
          refine carried_of_staysBacked hE ?_ ?_ w₂
          · exact keeps_bind ((routine_acts env).keeps_refreshCertificateMaterial ref _) fun _ =>
              keeps_bind (Py.keeps_ofExcept _) fun _ => keeps_pure _
          · exact keeps_bind (staysBacked_refreshCertificateMaterial env ref _) fun _ =>
              keeps_bind (Py.keeps_ofExcept _) fun _ => keeps_pure _

/-! ### Messages -/

/-- The signature of a payload is valid under the key that some material is. -/
def SignedUnder (payload : Json) (keyMaterial : String) : Prop :=
  ∃ signatureB64 signature message, payload.get "signature" = .ok signatureB64 ∧
    decodeSignatureValue env signatureB64 = .ok signature ∧
      signedMessage env (payloadSession env payload) payload = .ok message ∧
        ValidUnder env keyMaterial signature message

/-- A PKI command may make its session verified if it is signed under one of the keys
that are tried. -/
theorem carried_openPkiCommand (hE : Lasting E) {payload : Json} {w : World} {ref : ℕ}
    (hstored : w.pairing.pkiSessions.get? (payloadSession env payload) = some ref)
    (hsigned : ∀ keyMaterial ∈ triedKeys (w.pairing.sessions.read ref),
      SignedUnder env payload keyMaterial →
        E (w.trace ++ [.signatureAccepted (payloadSession env payload) keyMaterial])
          (payloadSession env payload)) :
    Carried E w (exec (openPkiCommand env ref payload) w).2 := by
  refine rel_ofExcept_bind fun nonceB64 _ => rel_ofExcept_bind fun signatureB64 hsignature => ?_
  refine rel_exec_bind (R := Carried E) ?_ (returns_true _ w) fun _ w₁ _ => ?_
  · refine carried_finalizeSessionState env hE hstored ?_
    intro keyMaterial hmem bytes message hbytes hmessage hvalid
    exact hsigned keyMaterial hmem
      ⟨signatureB64, bytes, message, hsignature, hbytes, hmessage payload rfl, hvalid⟩
  · refine carried_of_unmoved hE ?_ ?_ w₁
    · refine keeps_bind (Py.keeps_ofExcept _) fun _ => keeps_ite (keeps_throw _) ?_
      exact keeps_bind (Py.keeps_session ref) fun _ => keeps_bind (Py.keeps_ofExcept _) fun _ =>
        keeps_bind (Py.keeps_ofExcept _) fun _ => Py.keeps_decodeInner env _ _
    · refine keeps_bind (Py.keeps_ofExcept _) fun _ => keeps_ite (keeps_throw _) ?_
      exact keeps_bind (Py.keeps_session ref) fun _ => keeps_bind (Py.keeps_ofExcept _) fun _ =>
        keeps_bind (Py.keeps_ofExcept _) fun _ => Py.keeps_decodeInner env _ _

/-- What a message needs to make a session verified: the property has to hold for the
session then. -/
structure Licensed (E : List Event → String → Prop) (m : Message) : Prop where
  seed : m.requestType = "session_seed" → ∀ t sessionId, E t sessionId
  recovered : m.requestType = "pki_command" →
    m.world.pairing.pkiSessions.get? (payloadSession env m.payload) = none →
      Recoverable env m.world (payloadCertificate m.payload) →
        verifiedBefore m.world (payloadSession env m.payload) = true →
          E m.world.trace (payloadSession env m.payload)
  signed : m.requestType = "pki_command" →
    Available env m.world (payloadSession env m.payload) (payloadCertificate m.payload) →
      ∀ keyMaterial ∈ usableKeys env m.world m.payload, SignedUnder env m.payload keyMaterial →
        ∀ t, m.world.trace <+: t →
          E (t ++ [.signatureAccepted (payloadSession env m.payload) keyMaterial])
            (payloadSession env m.payload)

/-- Every message that finds the sessions backed has its licence. -/
def AllLicensed (E : List Event → String → Prop) (ms : List Message) : Prop :=
  ∀ m ∈ ms, Backed (E m.world.trace) m.world → Licensed env E m

/-! ### Writes -/

/-- The typed requests that the payload inside a command consists of. -/
def innerMessages (depth : ℕ) (payload : Json) (w : World) : List Message :=
  match innerRequestType env payload with
  | none => []
  | some innerType => messages env depth innerType payload w

theorem messages_of_handedOver {depth : ℕ} {requestType : String} {payload : Json} {w w' : World}
    {c : Carrier} {s : CommandSession} {inner : Json} (hc : carrier? requestType = some c)
    (hexec : exec (openCommand env c payload) w = (.ok (s, inner), w')) :
    messages env (depth + 1) requestType payload w =
      ⟨requestType, payload, w⟩ :: innerMessages env depth inner w' := by
  rw [messages, hc, Option.bind_some, handedOver, hexec]
  rfl

theorem carried_handleInnerSecureCommand (hE : Lasting E) {depth : ℕ}
    (htyped : ∀ requestType payload w,
      AllLicensed env E (messages env depth requestType payload w) →
      Carried E w (exec (handleTypedRequest env depth requestType payload) w).2)
    {payload : Json} {w : World} (h : AllLicensed env E (innerMessages env depth payload w)) :
    Carried E w
      (exec (handleInnerSecureCommand env (handleTypedRequest env depth) payload) w).2 := by
  refine rel_ofExcept_bind fun given hgiven => ?_
  dsimp only
  split
  · rename_i htype
    refine htyped _ payload w ?_
    rw [innerMessages, innerRequestType, hgiven] at h
    dsimp only at h
    rw [if_pos htype] at h
    exact h
  · refine carried_of_unmoved hE ?_ ?_ w
    · exact keeps_bind (Py.keeps_ofExcept _) fun _ =>
        keeps_ite ((routine_acts env).serving.keeps_handleVehicleCommand _ payload) (keeps_throw _)
    · exact keeps_bind (Py.keeps_ofExcept _) fun _ =>
        keeps_ite (serving_unmoved.keeps_handleVehicleCommand _ payload) (keeps_throw _)

theorem carried_handleSecureCommand (hE : Lasting E) {inner : Json → Py Answer} {payload : Json}
    {w : World}
    (hinner : ∀ s innerPayload w', exec (openCommand env .secureCommand payload) w =
      (.ok (s, innerPayload), w') → Carried E w' (exec (inner innerPayload) w').2) :
    Carried E w (exec (handleSecureCommand env inner payload) w).2 := by
  rw [handleSecureCommand_eq]
  refine rel_exec_bind (P := fun opened w' =>
      exec (openCommand env .secureCommand payload) w = (.ok opened, w')) ?_ (fun _ _ h => h) ?_
  · exact carried_of_unmoved hE (keeps_openSecureCommand payload)
      (keeps_openSecureCommand payload) w
  · rintro ⟨s, innerPayload⟩ w' hexec
    refine rel_exec_bind (hinner s innerPayload w' hexec) (returns_true _ w') fun answer w'' _ => ?_
    exact carried_of_unmoved hE ((routine_acts env).keeps_answerSecureCommand s payload answer)
      (unmoved_answerSecureCommand env s payload answer) w''

/-- The licence of a PKI command covers what its signature does. -/
theorem carried_openPkiCommand_of_licensed (hE : Lasting E) {payload : Json} {w w₁ : World}
    {s : CommandSession} (hlic : Licensed env E ⟨"pki_command", payload, w⟩)
    (hs : exec (pkiCommandSession env payload) w = (.ok s, w₁)) :
    Carried E w₁ (exec (openPkiCommand env s.ref payload) w₁).2 := by
  obtain ⟨hid, -, havailable, hstands, hkeys⟩ := returns_pkiCommandSession env payload w s w₁ hs
  have hacts : Acts w w₁ := ((routine_acts env).keeps_pkiCommandSession payload).returns w s w₁ hs
  refine carried_openPkiCommand env hE (hid ▸ hstands.stored) fun keyMaterial hmem hkey => ?_
  exact hlic.signed rfl havailable keyMaterial (hkeys keyMaterial hmem) hkey w₁.trace
    hacts.trace_prefix

theorem carried_openCommand (hE : Lasting E) {c : Carrier} {payload : Json} {w : World}
    (hlicensed : Backed (E w.trace) w → Licensed env E ⟨"pki_command", payload, w⟩) :
    Carried E w (exec (openCommand env c payload) w).2 := by
  cases c with
  | secureCommand =>
    exact carried_of_unmoved hE (keeps_openSecureCommand payload)
      (keeps_openSecureCommand payload) w
  | pkiCommand =>
    intro hw
    have hlic : Licensed env E ⟨"pki_command", payload, w⟩ := hlicensed hw
    suffices h : Carried E w (exec (openCommand env .pkiCommand payload) w).2 from h hw
    refine rel_exec_bind (P := fun s w₁ => exec (pkiCommandSession env payload) w = (.ok s, w₁))
      (carried_pkiCommandSession env hE payload (hlic.recovered rfl)) (fun _ _ h => h)
      fun s w₁ hs => ?_
    exact rel_exec_bind (carried_openPkiCommand_of_licensed env hE hlic hs) (returns_true _ w₁)
      fun _ w₂ _ => refl_of (Carried E) w₂

theorem carried_handlePkiCommand (hE : Lasting E) {inner : Json → Py Answer} {payload : Json}
    {w : World} (hlicensed : Backed (E w.trace) w → Licensed env E ⟨"pki_command", payload, w⟩)
    (hinner : ∀ s innerPayload w', exec (openCommand env .pkiCommand payload) w =
      (.ok (s, innerPayload), w') → Carried E w' (exec (inner innerPayload) w').2) :
    Carried E w (exec (handlePkiCommand env inner payload) w).2 := by
  intro hw
  have hlic : Licensed env E ⟨"pki_command", payload, w⟩ := hlicensed hw
  suffices h : Carried E w (exec (handlePkiCommand env inner payload) w).2 from h hw
  rw [handlePkiCommand_eq]
  refine rel_exec_bind (P := fun s w₁ => exec (pkiCommandSession env payload) w = (.ok s, w₁))
    (carried_pkiCommandSession env hE payload (hlic.recovered rfl)) (fun _ _ h => h)
    fun s w₁ hs => ?_
  refine rel_exec_tryCatch ?_ fun e => carried_of_unmoved hE
    ((routine_acts env).keeps_failPkiCommand s e) (unmoved_failPkiCommand env s e)
  refine rel_exec_bind (P := fun innerPayload w₂ =>
      exec (openPkiCommand env s.ref payload) w₁ = (.ok innerPayload, w₂))
    ?_ (fun _ _ h => h) fun innerPayload w₂ hopen => ?_
  · exact carried_openPkiCommand_of_licensed env hE hlic hs
  · refine rel_exec_bind (hinner s innerPayload w₂ (exec_openCommand_pkiCommand env hs hopen))
      (returns_true _ w₂) fun answer w₃ _ => ?_
    exact carried_of_unmoved hE ((routine_acts env).keeps_answerPkiCommand s answer)
      (unmoved_answerPkiCommand env s answer) w₃

theorem carried_handleTypedRequest (hE : Lasting E) (depth : ℕ) (requestType : String)
    (payload : Json) {w : World}
    (h : AllLicensed env E (messages env depth requestType payload w)) :
    Carried E w (exec (handleTypedRequest env depth requestType payload) w).2 := by
  induction depth generalizing requestType payload w with
  | zero => exact refl_of (Carried E) w
  | succ depth ih =>
    have hself : Backed (E w.trace) w → Licensed env E ⟨requestType, payload, w⟩ :=
      h _ List.mem_cons_self
    have hinner : ∀ {c : Carrier}, carrier? requestType = some c → ∀ s innerPayload w',
        exec (openCommand env c payload) w = (.ok (s, innerPayload), w') →
          Carried E w' (exec (handleInnerSecureCommand env (handleTypedRequest env depth)
            innerPayload) w').2 := by
      intro c hc s innerPayload w' hexec
      refine carried_handleInnerSecureCommand env hE (fun t p w' => ih t p) fun m hm => ?_
      rw [messages_of_handedOver env hc hexec] at h
      exact h m (List.mem_cons_of_mem _ hm)
    rw [handleTypedRequest]
    split
    · exact carried_of_unmoved hE (Py.keeps_handleCertRequest (routine_acts env).ask payload)
        (Py.keeps_handleCertRequest serving_unmoved.ask payload) w
    split
    · exact carried_of_unmoved hE ((routine_acts env).serving.keeps_handleVehicleCommand _ payload)
        (serving_unmoved.keeps_handleVehicleCommand _ payload) w
    split
    · rename_i htype
      exact carried_handleSecureCommand env hE (hinner (by rw [carrier?, if_pos htype]))
    split
    · rename_i hother htype
      refine carried_handlePkiCommand env hE (htype ▸ hself) (hinner ?_)
      rw [carrier?, if_neg hother, if_pos htype]
    split
    · exact carried_of_staysBacked hE ((routine_acts env).keeps_handlePkiHandshake payload)
        (staysBacked_handlePkiHandshake env payload) w
    split
    · exact carried_of_staysBacked hE ((routine_acts env).keeps_handlePkiCertExchange payload)
        (staysBacked_handlePkiCertExchange env payload) w
    split
    · rename_i htype
      intro hw
      have hseed := (hself hw).seed htype
      exact (staysBacked_handlePkiSessionSeed env (hseed _) payload w).carried hE
        ((routine_acts env).keeps_handlePkiSessionSeed payload w) hw
    · exact refl_of (Carried E) w

/-- The keys bound to the sessions that are stored may make them verified. -/
def BoundKeysLicensed (E : List Event → String → Prop) (w : World) : Prop :=
  ∀ sessionId ref keyMaterial key, w.pairing.pkiSessions.get? sessionId = some ref →
    keyMaterial ∈ triedKeys (w.pairing.sessions.read ref) →
      loadRemotePublicKey env keyMaterial = .ok key →
        E (w.trace ++ [.signatureAccepted sessionId keyMaterial]) sessionId

theorem carried_errorStatus (hE : Lasting E) (members : List (String × Json)) :
    Keeps (Carried E) (errorStatus env members) :=
  carried_of_unmoved hE ((routine_acts env).keeps_errorStatus _) (unmoved_errorStatus env _)

theorem carried_handlePairingHandshake (hE : Lasting E) (sessionId : String) (payload : Json)
    {w : World} (hbound : BoundKeysLicensed env E w) :
    Carried E w (exec (handlePairingHandshake env sessionId payload) w).2 := by
  rw [handlePairingHandshake, exec_bind_of_ok (Py.exec_pairing w _)]
  cases hget : w.pairing.pkiSessions.get? sessionId with
  | none =>
    exact carried_errorStatus env hE _ w
  | some ref =>
    dsimp only
    rw [Py.session, exec_bind_of_ok (Py.exec_pairing w _)]
    split
    · exact carried_errorStatus env hE _ w
    · refine rel_ofExcept_bind fun clientNonce _ => rel_ofExcept_bind fun signature _ => ?_
      refine rel_exec_bind (R := Carried E) ?_ (returns_true _ w) fun verified w₁ _ => ?_
      · refine rel_exec_tryCatch ?_ fun e => keeps_ite (keeps_pure _) (keeps_throw _)
        refine rel_exec_bind (carried_finalizeSessionState env hE hget ?_) (returns_true _ w)
          fun _ w' _ => refl_of (Carried E) w'
        rintro keyMaterial hmem bytes message - - ⟨key, hload, -⟩
        exact hbound sessionId ref keyMaterial key hget hmem hload
      · cases verified with
        | some e =>
          exact carried_errorStatus env hE _ w₁
        | none =>
          refine carried_of_staysBacked hE ?_ ?_ w₁
          · have hacts := routine_acts env
            exact keeps_bind (Py.keeps_session ref) fun _ =>
              keeps_bind (hacts.keeps_setPairing fun _ => ⟨rfl, rfl⟩) fun _ =>
                keeps_bind hacts.keeps_stopPinStatusPoller fun _ =>
                  keeps_bind hacts.keeps_exportPkiSessionState fun _ =>
                    keeps_bind hacts.keeps_exportPkiSessionState fun _ =>
                      keeps_bind (Py.keeps_session ref) fun _ =>
                        keeps_bind (hacts.keeps_ask _) fun _ => keeps_pure _
          · intro F
            refine keeps_bind (Py.keeps_session ref) fun _ =>
              keeps_bind ?_ fun _ =>
                keeps_bind (staysBacked_of_unmoved unmoved_stopPinStatusPoller) fun _ =>
                  keeps_bind (staysBacked_exportPkiSessionState env) fun _ =>
                    keeps_bind (staysBacked_exportPkiSessionState env) fun _ =>
                      staysBacked_of_unmoved ?_
            · exact staysBacked_setPairing (fun _ => rfl) fun _ _ _ hget => hget
            · exact keeps_bind (Py.keeps_session ref) fun _ => keeps_bind (unmoved_ask _) fun _ =>
                keeps_pure _

theorem carried_handlePairingResult (hE : Lasting E) (payload : Json) {w : World}
    (hbound : BoundKeysLicensed env E w) :
    Carried E w (exec (handlePairingResult env payload) w).2 := by
  refine rel_ofExcept_bind fun given _ => ?_
  rw [exec_bind_of_ok (Py.exec_pairing w _)]
  refine rel_exec_ite (fun _ => ?_) fun _ => rel_exec_ite (fun _ => ?_) fun _ =>
    rel_exec_ite (fun _ => ?_) fun _ => ?_
  · exact carried_errorStatus env hE _ w
  · exact carried_handlePairingHandshake env hE _ payload hbound
  · refine carried_of_staysBacked hE ?_ (staysBacked_handlePairingKeyStorage env _ payload) w
    exact (routine_acts env).keeps_handlePairingKeyStorage (acts_disablePairingFlag env) _ payload
  · exact carried_errorStatus env hE _ w

theorem carried_process (hE : Lasting E) (recursionLimit : ℕ) (payload : Json) {w : World}
    (h : AllLicensed env E ((Write.command payload).messages env recursionLimit w)) :
    Carried E w (exec (process env recursionLimit payload) w).2 := by
  refine rel_exec_tryCatch (rel_ofExcept_bind fun given hgiven => ?_) fun e => ?_
  · rw [Write.messages, hgiven] at h
    dsimp only at h ⊢
    split
    · rename_i htype
      rw [if_pos htype] at h
      exact carried_handleTypedRequest env hE recursionLimit _ payload h
    · refine carried_of_unmoved hE ?_ ?_ w
      · exact keeps_bind (Py.keeps_ofExcept _) fun _ =>
          keeps_ite ((routine_acts env).serving.keeps_handleVehicleCommand _ payload)
            (keeps_throw _)
      · exact keeps_bind (Py.keeps_ofExcept _) fun _ =>
          keeps_ite (serving_unmoved.keeps_handleVehicleCommand _ payload) (keeps_throw _)
  · refine carried_of_unmoved hE ?_ ?_
    · exact keeps_bind (Py.keeps_ofExcept _) fun _ => keeps_bind (Py.keeps_ofExcept _) fun _ =>
        keeps_bind ((routine_acts env).keeps_ask _) fun _ => keeps_pure _
    · exact keeps_bind (Py.keeps_ofExcept _) fun _ => keeps_bind (Py.keeps_ofExcept _) fun _ =>
        keeps_bind (unmoved_ask _) fun _ => keeps_pure _

/-- **A write** keeps the stored sessions backed if each of its messages has its
licence. -/
theorem carried_handleWrite (hE : Lasting E) (recursionLimit : ℕ) (write : Write) {w : World}
    (h : AllLicensed env E (write.messages env recursionLimit w))
    (hbound : BoundKeysLicensed env E w) :
    Carried E w (handleWrite env recursionLimit w write) := by
  cases write with
  | command payload => exact carried_process env hE recursionLimit payload h
  | pairingResult payload => exact carried_handlePairingResult env hE payload hbound

/-- What the process does of its own accord makes no session verified. -/
theorem staysBacked_perform (api : PairingApi) (recursionLimit : ℕ) {F : String → Prop} (w : World)
    {activity : Activity} (h : ∀ write, activity ≠ .write write) :
    StaysBacked F w (perform env api recursionLimit w activity) := by
  cases activity with
  | challenge => exact staysBacked_buildChallenge env api w
  | pinStatus status => exact staysBacked_handlePinStatusUpdate env status w
  | expiry =>
    rw [perform]
    split
    · exact staysBacked_handlePinTerminal _ w
    · exact refl_of (StaysBacked F) w
  | write given => exact absurd rfl (h given)

end DigitalKey

end VehicleStack
