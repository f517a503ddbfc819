import VehicleStack.DigitalKey.Opening

/-!
# What a verified session rests on

A stored session that is verified should have something to show for it. What that is
is a parameter here, a property of session ids;
`VehicleStack.DigitalKey.Backed` says that every stored session has its own id, and
the property if it is verified.

Most programs leave that as it is, whatever the property is
(`VehicleStack.DigitalKey.StaysBacked`): they do not make any session verified. Three
do: a signature is accepted, a session is recovered from one that was verified, and a
session is seeded.
-/

namespace VehicleStack

namespace DigitalKey

open Effect

/-! ### Backed sessions -/

variable {E : String → Prop} {α : Type}

/-- An object is the session of an id, and verified only if the id has the property. -/
structure BackedAt (E : String → Prop) (sessionId : String) (ref : ℕ) (w : World) : Prop where
  lt : ref < w.pairing.sessions.cells.length
  id_eq : (w.pairing.sessions.read ref).sessionId = sessionId
  verified : (w.pairing.sessions.read ref).signatureVerified = true → E sessionId

/-- Every stored session is the session of its id, and verified only if the id has the
property. -/
def Backed (E : String → Prop) (w : World) : Prop :=
  ∀ sessionId ref, w.pairing.pkiSessions.get? sessionId = some ref → BackedAt E sessionId ref w

/-- What is backed stays so, the stored sessions as well as any object. -/
structure StaysBacked (E : String → Prop) (w w' : World) : Prop where
  object : ∀ {sessionId ref}, BackedAt E sessionId ref w → BackedAt E sessionId ref w'
  stored : Backed E w → Backed E w'

instance : IsPreorder World (StaysBacked E) where
  refl _ := ⟨id, id⟩
  trans _ _ _ h h' := ⟨fun hat => h'.object (h.object hat), fun hw => h'.stored (h.stored hw)⟩

theorem BackedAt.congr {w w' : World} {sessionId : String} {ref : ℕ}
    (hsessions : w'.pairing.sessions = w.pairing.sessions) (h : BackedAt E sessionId ref w) :
    BackedAt E sessionId ref w' := by
  obtain ⟨hlt, hid, hverified⟩ := h
  exact ⟨hsessions ▸ hlt, hsessions ▸ hid, hsessions ▸ hverified⟩

theorem BackedAt.mono {F : String → Prop} {w : World} {sessionId : String} {ref : ℕ}
    (h : BackedAt E sessionId ref w) (hEF : E sessionId → F sessionId) :
    BackedAt F sessionId ref w :=
  ⟨h.lt, h.id_eq, fun hverified => hEF (h.verified hverified)⟩

theorem Backed.mono {F : String → Prop} {w : World} (h : Backed E w) (hEF : ∀ s, E s → F s) :
    Backed F w :=
  fun _ _ hget => (h _ _ hget).mono (hEF _)

/-- Nothing is added to the stored sessions, and every object stays backed. -/
theorem staysBacked_of_subset {w w' : World}
    (hobject : ∀ {sessionId ref}, BackedAt E sessionId ref w → BackedAt E sessionId ref w')
    (hsubset : ∀ sessionId ref, w'.pairing.pkiSessions.get? sessionId = some ref →
      w.pairing.pkiSessions.get? sessionId = some ref) : StaysBacked E w w' :=
  ⟨hobject, fun hw sessionId ref hget => hobject (hw sessionId ref (hsubset sessionId ref hget))⟩

theorem Unmoved.staysBacked {w w' : World} (h : Unmoved w w') : StaysBacked E w w' :=
  staysBacked_of_subset (BackedAt.congr h.sessions) fun _ _ hget => h.pkiSessions ▸ hget

theorem staysBacked_of_unmoved {x : Py α} (hx : Keeps Unmoved x) : Keeps (StaysBacked E) x :=
  Unmoved.keeps Unmoved.staysBacked hx

/-! ### The small programs -/

/-- A change of the manager that leaves the session objects alone and stores nothing. -/
theorem staysBacked_setPairing {f : PairingManager → PairingManager}
    (hsessions : ∀ p, (f p).sessions = p.sessions)
    (hsubset : ∀ p sessionId ref, (f p).pkiSessions.get? sessionId = some ref →
      p.pkiSessions.get? sessionId = some ref) : Keeps (StaysBacked E) (Py.setPairing f) :=
  fun w => staysBacked_of_subset (BackedAt.congr (hsessions w.pairing)) (hsubset w.pairing)

/-- A change of a session object that does not make it verified. -/
theorem staysBacked_setSession (ref : ℕ) {f : PkiSessionState → PkiSessionState}
    (hf : ∀ s, (f s).sessionId = s.sessionId ∧
      ((f s).signatureVerified = true → s.signatureVerified = true)) :
    Keeps (StaysBacked E) (Py.setSession ref f) := by
  refine fun w => staysBacked_of_subset ?_ fun _ _ hget => hget
  rintro sessionId other ⟨hlt, hid, hverified⟩
  rcases Decidable.em (ref = other) with rfl | hne
  · refine ⟨(Heap.length_modify ..).symm ▸ hlt, ?_, ?_⟩
    · exact (congrArg _ (Heap.read_modify_self f hlt)).trans ((hf _).1.trans hid)
    · intro h
      exact hverified ((hf _).2 ((congrArg _ (Heap.read_modify_self f hlt)).symm.trans h))
  · refine ⟨(Heap.length_modify ..).symm ▸ hlt, ?_, ?_⟩
    · exact (congrArg _ (Heap.read_modify_of_ne f hne)).trans hid
    · intro h
      exact hverified ((congrArg _ (Heap.read_modify_of_ne f hne)).symm.trans h)

theorem staysBacked_newSession (s : PkiSessionState) :
    Keeps (StaysBacked E) (Py.newSession s) := by
  refine fun w => staysBacked_of_subset ?_ fun _ _ hget => hget
  rintro sessionId ref ⟨hlt, hid, hverified⟩
  have hread : (w.pairing.sessions.alloc s).2.read ref = w.pairing.sessions.read ref :=
    Heap.read_alloc_old s hlt
  refine ⟨?_, (congrArg _ hread).trans hid, fun h => hverified ((congrArg _ hread).symm.trans h)⟩
  change ref < (w.pairing.sessions.cells ++ [s]).length
  rw [List.length_append]
  omega

/-- A new session is backed if it is not verified or its id has the property. -/
theorem returns_newSession {s : PkiSessionState} (hs : s.signatureVerified = true → E s.sessionId)
    (w : World) : Returns (fun ref w => BackedAt E s.sessionId ref w) (Py.newSession s) w := by
  rintro ref w' ⟨⟩
  have hread : (w.pairing.sessions.alloc s).2.read (w.pairing.sessions.alloc s).1 = s :=
    Heap.read_alloc_new s
  refine ⟨?_, congrArg _ hread, fun h => hs ((congrArg _ hread).symm.trans h)⟩
  change w.pairing.sessions.cells.length < (w.pairing.sessions.cells ++ [s]).length
  simp

/-- Storing an object that is backed. -/
theorem staysBacked_of_store {w w' : World} {sessionId : String} {ref : ℕ}
    (hat : BackedAt E sessionId ref w) (hsessions : w'.pairing.sessions = w.pairing.sessions)
    (hstore : w'.pairing.pkiSessions = w.pairing.pkiSessions.set sessionId ref) :
    StaysBacked E w w' := by
  refine ⟨BackedAt.congr hsessions, fun hw other ref' hget => BackedAt.congr hsessions ?_⟩
  rw [hstore, Dict.get_set] at hget
  split at hget
  · rename_i hother
    rw [hother, ← Option.some_inj.mp hget]
    exact hat
  · exact hw other ref' hget

/-- A new session that is stored. -/
theorem staysBacked_newSession_store {s : PkiSessionState}
    (hs : s.signatureVerified = true → E s.sessionId)
    {f : ℕ → PairingManager → PairingManager}
    (hsessions : ∀ ref p, (f ref p).sessions = p.sessions)
    (hstore : ∀ ref p, (f ref p).pkiSessions = p.pkiSessions.set s.sessionId ref)
    {g : ℕ → Py α} (hg : ∀ ref, Keeps (StaysBacked E) (g ref)) :
    Keeps (StaysBacked E)
      (Py.newSession s >>= fun ref => Py.setPairing (f ref) >>= fun _ => g ref) := by
  refine keeps_bind_of_returns (staysBacked_newSession s) (returns_newSession hs)
    fun ref w hat => ?_
  exact rel_exec_bind (staysBacked_of_store hat (hsessions ref _) (hstore ref _)) (returns_true _ _)
    fun _ w' _ => hg ref w'

variable (env : Platform) (api : PairingApi)

theorem staysBacked_exportPkiSessionState :
    Keeps (StaysBacked E) (exportPkiSessionState env) := by
  refine keeps_bind (Py.keeps_pairing _) fun current => ?_
  cases current with
  | none =>
    refine keeps_bind (staysBacked_of_unmoved (unmoved_ask _)) fun removed => ?_
    refine staysBacked_setPairing (fun _ => rfl) fun p sessionId ref hget => ?_
    cases hget
  | some ref =>
    refine keeps_bind (Py.keeps_session ref) fun _ =>
      keeps_bind (staysBacked_of_unmoved (unmoved_ask _)) fun result => ?_
    cases result with
    | written => exact staysBacked_setPairing (fun _ => rfl) fun _ _ _ hget => hget
    | refused message => exact keeps_pure _
    | truncated message => exact staysBacked_setPairing (fun _ => rfl) fun _ _ _ hget => hget

/-! ### PIN sessions -/

theorem staysBacked_initializePinSession (session : PairingSession) :
    Keeps (StaysBacked E) (initializePinSession env api session) := by
  refine keeps_bind (staysBacked_of_unmoved unmoved_stopPinStatusPoller) fun _ => ?_
  refine keeps_bind (staysBacked_setPairing (fun _ => rfl) fun p other ref hget => ?_) fun _ => ?_
  · exact Dict.get?_of_get?_erase hget
  · exact keeps_bind (staysBacked_exportPkiSessionState env) fun _ =>
      staysBacked_of_unmoved (unmoved_startPinStatusPoller api)

theorem staysBacked_challengeFor (session : PairingSession) (nonce : String) (issuedAt : ℤ) :
    Keeps (StaysBacked E) (challengeFor env api session nonce issuedAt) := by
  refine keeps_bind (staysBacked_setPairing (fun _ => rfl) fun _ _ _ hget => hget) fun _ =>
    keeps_bind (staysBacked_initializePinSession env api session) fun _ =>
      staysBacked_of_unmoved ?_
  refine keeps_bind (unmoved_vehiclePublicKeyMember env) fun _ =>
    keeps_bind (Py.keeps_getPkiSessionState _) fun found => ?_
  cases found with
  | some ref => exact keeps_bind (Py.keeps_session ref) fun _ => unmoved_issueChallenge _
  | none => exact unmoved_issueChallenge _

theorem staysBacked_buildChallenge : Keeps (StaysBacked E) (buildChallenge env api) := by
  refine keeps_bind (staysBacked_of_unmoved unmoved_isPairingAllowed) fun allowed => keeps_ite ?_ ?_
  · refine keeps_bind (staysBacked_of_unmoved (unmoved_ask _)) fun _ =>
      keeps_bind (staysBacked_of_unmoved (unmoved_ask _)) fun _ => keeps_ite ?_ ?_
    · exact staysBacked_of_unmoved
        (keeps_bind (unmoved_buildCachedChallenge env api _ _) fun _ => unmoved_issueChallenge _)
    · refine keeps_bind (staysBacked_of_unmoved (unmoved_ask _)) fun answer => ?_
      cases answer with
      | ok session => exact staysBacked_challengeFor env api session _ _
      | error failure =>
        refine staysBacked_of_unmoved (keeps_ite (Py.keeps_buildErrorChallenge api _ _)
          (keeps_ite ?_ (Py.keeps_buildErrorChallenge api _ _)))
        exact keeps_bind (unmoved_buildCachedChallenge env api _ _) fun _ =>
          unmoved_issueChallenge _
  · exact staysBacked_of_unmoved (keeps_bind (unmoved_ask _) fun _ => keeps_pure _)

/-- A session as it comes from a derived session key: it is not verified, and has the one
key it was derived with. -/
structure FreshSession (sessionId remote : String) (s : PkiSessionState) : Prop where
  id_eq : s.sessionId = sessionId
  unverified : s.signatureVerified = false
  userPublicKeyPem : s.userPublicKeyPem = remote
  handshakePublicKeyPem : s.handshakePublicKeyPem = some remote
  certificatePublicKeyPem : s.certificatePublicKeyPem = none

theorem returns_ofExcept (x : Except PyError α) (w : World) :
    Returns (fun a w' => x = .ok a ∧ w' = w) (Py.ofExcept x) w := by
  cases x with
  | ok a => exact returns_pure ⟨rfl, rfl⟩
  | error e => exact returns_throw e w

/-- A public key that can be read, and agrees on a secret with that of the vehicle. -/
def KeyAgrees (remote : String) : Prop :=
  ∃ key secret, loadRemotePublicKey env remote = .ok key ∧ env.exchange key = .ok secret

theorem returns_deriveSessionKey (sessionId pairingToken : String) (nonce : Bytes)
    (remote : String) (certificate : Json) (w : World) :
    Returns (fun s _ => FreshSession sessionId remote s ∧ KeyAgrees env remote)
      (deriveSessionKey env sessionId pairingToken nonce remote certificate) w := by
  refine returns_bind (returns_true _ w) fun _ w _ => returns_bind (returns_true _ w) fun _ w _ =>
    returns_bind (returns_ofExcept _ w) fun key w hkey =>
      returns_bind (returns_ofExcept _ w) fun secret w hsecret =>
        returns_bind (returns_true _ w) fun _ _ _ => ?_
  exact returns_pure ⟨⟨rfl, rfl, rfl, rfl, rfl⟩, key, secret, hkey.1, hsecret.1⟩

/-- The same where a key that cannot be derived is no session. -/
theorem returns_tryDeriveSessionKey (sessionId pairingToken : String) (nonce : Bytes)
    (remote : String) (certificate : Json) (w : World) :
    Returns (fun derived _ => ∀ s, derived = some s →
        FreshSession sessionId remote s ∧ KeyAgrees env remote)
      (tryCatch
        (do
          let s ← deriveSessionKey env sessionId pairingToken nonce remote certificate
          pure (some s))
        (fun _ => pure none)) w := by
  refine returns_tryCatch ?_ fun e w' => returns_pure fun s h => nomatch h
  refine returns_bind
    (returns_deriveSessionKey env sessionId pairingToken nonce remote certificate w)
    fun s w' hs => returns_pure ?_
  rintro s' ⟨⟩
  exact hs

theorem unmoved_tryDeriveSessionKey (sessionId pairingToken : String) (nonce : Bytes)
    (remote : String) (certificate : Json) :
    Keeps Unmoved
      (tryCatch
        (do
          let s ← deriveSessionKey env sessionId pairingToken nonce remote certificate
          pure (some s))
        (fun _ => pure none) : Py (Option PkiSessionState)) :=
  keeps_tryCatch (keeps_bind (unmoved_deriveSessionKey env _ _ _ _ _) fun _ => keeps_pure _)
    fun _ => keeps_pure _

theorem staysBacked_handlePinVerified (status : PinStatus) :
    Keeps (StaysBacked E) (handlePinVerified env status) := by
  refine keeps_ite (keeps_pure _) (keeps_bind (Py.keeps_pairing _)
    fun pin => keeps_ite (keeps_pure _) ?_)
  refine keeps_bind (staysBacked_of_unmoved (unmoved_ask _)) fun nonce => ?_
  refine keeps_bind_of_returns (staysBacked_of_unmoved (unmoved_tryDeriveSessionKey env _ _ _ _ _))
    (returns_tryDeriveSessionKey env _ _ _ _ _) fun derived w hderived => ?_
  cases derived with
  | none => exact keeps_pure _ w
  | some s =>
    refine staysBacked_newSession_store (fun h => ?_) ?_ ?_
      (fun _ => keeps_bind ?_ fun _ => staysBacked_of_unmoved unmoved_stopPinStatusPoller) w
    · rw [(hderived s rfl).1.unverified] at h
      cases h
    · exact fun _ _ => rfl
    · exact fun _ _ => rfl
    · exact staysBacked_setPairing (fun _ => rfl) fun _ _ _ hget => hget

theorem staysBacked_handlePinTerminal (status : PinStatus) :
    Keeps (StaysBacked E) (handlePinTerminal status) := by
  refine keeps_bind (Py.keeps_pairing _) fun found => ?_
  cases found with
  | none => exact keeps_pure _
  | some pin =>
    refine keeps_ite (keeps_pure _) (keeps_bind ?_ fun _ =>
      staysBacked_of_unmoved unmoved_stopPinStatusPoller)
    exact staysBacked_setPairing (fun _ => rfl) fun _ _ _ hget => hget

theorem staysBacked_handlePinStatusUpdate (status : PinStatus) :
    Keeps (StaysBacked E) (handlePinStatusUpdate env status) := by
  refine keeps_bind (Py.keeps_pairing _) fun found => ?_
  cases found with
  | none => exact keeps_pure _
  | some pin =>
    refine keeps_ite (keeps_pure _) (keeps_bind ?_ fun _ => ?_)
    · exact staysBacked_setPairing (fun _ => rfl) fun _ _ _ hget => hget
    · exact keeps_ite (staysBacked_handlePinVerified env status)
        (keeps_ite (staysBacked_handlePinTerminal status) (keeps_pure _))

/-! ### Handshakes and certificates -/

theorem staysBacked_rememberClientNonce (ref : ℕ) (nonce : Json) :
    Keeps (StaysBacked E) (rememberClientNonce env ref nonce) := by
  unfold rememberClientNonce
  cases pyB64decode env nonce with
  | ok bytes => exact staysBacked_setSession ref fun _ => ⟨rfl, id⟩
  | error e => exact keeps_ite (keeps_pure _) (keeps_throw _)

/-- The same sessions are stored; what is in them may have changed. -/
def SameStored (w w' : World) : Prop := w'.pairing.pkiSessions = w.pairing.pkiSessions

instance : IsPreorder World SameStored where
  refl _ := rfl
  trans _ _ _ h h' := h'.trans h

theorem sameStored_setSession (ref : ℕ) (f : PkiSessionState → PkiSessionState) :
    Keeps SameStored (Py.setSession ref f) := fun _ => rfl

theorem sameStored_rememberClientNonce (ref : ℕ) (nonce : Json) :
    Keeps SameStored (rememberClientNonce env ref nonce) := by
  unfold rememberClientNonce
  cases pyB64decode env nonce with
  | ok bytes => exact sameStored_setSession ref _
  | error e => exact keeps_ite (keeps_pure _) (keeps_throw _)

/-- A program that stores nothing, and one that relies on what was stored before it. -/
theorem staysBacked_bind_of_sameStored {β : Type} {x : Py β} {f : β → Py α} {w : World}
    {sessionId : String} {ref : ℕ} (hx : Keeps (StaysBacked E) x) (hsame : Keeps SameStored x)
    (hget : w.pairing.pkiSessions.get? sessionId = some ref)
    (hf : ∀ b w', w'.pairing.pkiSessions.get? sessionId = some ref →
      StaysBacked E w' (exec (f b) w').2) : StaysBacked E w (exec (x >>= f) w).2 := by
  refine rel_exec_bind (P := fun _ w' => w'.pairing.pkiSessions.get? sessionId = some ref) (hx w)
    (fun b w' hexec => ?_) hf
  have hstored := hsame w
  rw [hexec] at hstored
  exact (congrArg (fun d => d.get? sessionId) hstored).trans hget

/-- Storing an object where it is stored already. -/
theorem staysBacked_storeAgain {w : World} {sessionId : String} {ref : ℕ}
    {f : PairingManager → PairingManager}
    (hget : w.pairing.pkiSessions.get? sessionId = some ref)
    (hsessions : ∀ p, (f p).sessions = p.sessions)
    (hstore : ∀ p, (f p).pkiSessions = p.pkiSessions.set sessionId ref) :
    StaysBacked E w (exec (Py.setPairing f) w).2 := by
  refine staysBacked_of_subset (BackedAt.congr (hsessions w.pairing)) fun other ref' h => ?_
  change (f w.pairing).pkiSessions.get? other = some ref' at h
  rw [hstore, Dict.get_set] at h
  split at h
  · rename_i hother
    rw [hother, hget, h]
  · exact h

theorem staysBacked_applyHandshake (sessionId : String) (contextRef : ℕ) :
    Keeps (StaysBacked E) (applyHandshake env sessionId contextRef) := by
  refine keeps_bind_of_returns (P := fun found w => w.pairing.pkiSessions.get? sessionId = found)
    (Py.keeps_pairing _) (fun w found w' h => by cases h; rfl)
    fun found w hget => ?_
  cases found with
  | none => exact keeps_pure _ w
  | some ref =>
    refine staysBacked_bind_of_sameStored (Py.keeps_context _)
      (Py.keeps_context _) hget fun context w hget => ?_
    refine staysBacked_bind_of_sameStored
      (Py.keeps_when (staysBacked_setSession ref fun _ => ⟨rfl, id⟩))
      (Py.keeps_when (sameStored_setSession ref _)) hget fun _ w hget => ?_
    refine staysBacked_bind_of_sameStored
      (Py.keeps_when (staysBacked_rememberClientNonce env ref _))
      (Py.keeps_when (sameStored_rememberClientNonce env ref _)) hget fun _ w hget => ?_
    refine rel_exec_bind (staysBacked_storeAgain hget ?_ ?_) (returns_true _ _)
      fun _ w _ => staysBacked_exportPkiSessionState env w
    · exact fun _ => rfl
    · exact fun _ => rfl

theorem staysBacked_beginPkiHandshake (sessionId clientKey : String)
    (token nonce version : Json) :
    Keeps (StaysBacked E) (beginPkiHandshake env sessionId clientKey token nonce version) := by
  refine keeps_ite (keeps_throw _) ?_
  refine keeps_bind (staysBacked_of_unmoved
    (Py.keeps_handshakeSession serving_unmoved.ask sessionId)) fun session =>
    keeps_bind (staysBacked_of_unmoved (unmoved_ask _)) fun _ =>
      keeps_bind (Py.keeps_ofExcept _) fun vehicleKey =>
        keeps_bind (staysBacked_of_unmoved (unmoved_updateHandshakeContext env session _ _ _ _))
          fun contextRef => ?_
  refine keeps_bind (staysBacked_setPairing (fun _ => rfl) fun _ _ _ hget => hget) fun _ =>
    keeps_bind (staysBacked_applyHandshake env session _) fun _ => ?_
  exact keeps_bind (Py.keeps_context _) fun _ => keeps_pure _

theorem staysBacked_applyCertificate (sessionId publicKey : String) (pem : Option String) :
    Keeps (StaysBacked E) (applyCertificate env sessionId publicKey pem) := by
  refine keeps_bind_of_returns (P := fun found w => w.pairing.pkiSessions.get? sessionId = found)
    (Py.keeps_pairing _) (fun w found w' h => by cases h; rfl)
    fun found w hget => ?_
  cases found with
  | none => exact keeps_pure _ w
  | some ref =>
    refine staysBacked_bind_of_sameStored (Py.keeps_when (staysBacked_setSession ref fun s => ?_))
      (Py.keeps_when (sameStored_setSession ref _)) hget fun _ w hget => ?_
    · split
      · exact ⟨rfl, id⟩
      · exact ⟨rfl, id⟩
    · refine staysBacked_bind_of_sameStored
        (Py.keeps_when (staysBacked_setSession ref fun _ => ⟨rfl, id⟩))
        (Py.keeps_when (sameStored_setSession ref _)) hget fun _ w hget => ?_
      refine rel_exec_bind (staysBacked_storeAgain hget ?_ ?_) (returns_true _ _)
        fun _ w _ => staysBacked_exportPkiSessionState env w
      · exact fun _ => rfl
      · exact fun _ => rfl

theorem staysBacked_storePkiCertificate (sessionId : String) (payload : Json) :
    Keeps (StaysBacked E) (storePkiCertificate env sessionId payload) := by
  refine keeps_ite (keeps_throw _) (keeps_bind (Py.keeps_pairing _)
    fun found => ?_)
  cases found with
  | none => exact keeps_throw _
  | some contextRef =>
    refine keeps_bind (Py.keeps_ofExcept _) fun material =>
      keeps_bind (staysBacked_of_unmoved (unmoved_setContext contextRef _)) fun _ =>
        keeps_bind (Py.keeps_ofExcept _) fun keyId =>
          keeps_bind (staysBacked_of_unmoved (unmoved_ask _)) fun _ =>
            keeps_bind (Py.keeps_ofExcept _) fun keyPayload =>
              keeps_bind (Py.keeps_when ?_) fun _ => ?_
    · refine keeps_tryCatch ?_ fun _ => keeps_pure _
      exact staysBacked_of_unmoved (serving_unmoved.keeps_upsertKey _ _ _)
    · refine keeps_bind (staysBacked_setPairing (fun _ => rfl) fun _ _ _ hget => hget) fun _ => ?_
      exact keeps_bind (staysBacked_applyCertificate env sessionId _ _) fun _ => keeps_pure _

theorem staysBacked_handlePkiHandshake (payload : Json) :
    Keeps (StaysBacked E) (handlePkiHandshake env payload) := by
  refine keeps_bind (Py.keeps_ofExcept _) fun _ =>
    keeps_bind (Py.keeps_ofExcept _) fun _ =>
      keeps_bind (Py.keeps_ofExcept _) fun _ =>
        keeps_bind (Py.keeps_ofExcept _) fun _ =>
          keeps_bind (Py.keeps_ofExcept _) fun _ => ?_
  exact keeps_bind (staysBacked_beginPkiHandshake env _ _ _ _ _) fun _ => keeps_pure _

theorem staysBacked_handlePkiCertExchange (payload : Json) :
    Keeps (StaysBacked E) (handlePkiCertExchange env payload) := by
  refine keeps_bind (Py.keeps_ofExcept _) fun _ =>
    keeps_bind (Py.keeps_ofExcept _) fun certificate =>
      keeps_ite (keeps_throw _) ?_
  exact keeps_bind (staysBacked_storePkiCertificate env _ certificate) fun _ => keeps_pure _

theorem staysBacked_refreshCertificateMaterial (ref : ℕ) (certificate : Json) :
    Keeps (StaysBacked E) (refreshCertificateMaterial env ref certificate) := by
  refine keeps_refreshCertificateMaterial env ref (fun f hf => ?_) certificate
  exact staysBacked_setSession ref fun s =>
    ⟨(hf s).sessionId, fun h => (hf s).signatureVerified.symm.trans h⟩

theorem staysBacked_handlePairingKeyStorage (sessionId : String) (payload : Json) :
    Keeps (StaysBacked E) (handlePairingKeyStorage env sessionId payload) := by
  refine keeps_bind (Py.keeps_ofExcept _) fun _ =>
    keeps_ite (staysBacked_of_unmoved (unmoved_errorStatus env _)) ?_
  refine keeps_bind (staysBacked_of_unmoved (keeps_tryCatch
    (keeps_bind (serving_unmoved.keeps_upsertKey _ _ _) fun _ => keeps_pure _) fun _ =>
    keeps_pure _))
      fun failed => ?_
  cases failed with
  | some e => exact staysBacked_of_unmoved (unmoved_errorStatus env _)
  | none =>
    refine keeps_bind (staysBacked_setPairing (fun _ => rfl) fun _ _ _ hget => hget) fun _ =>
      staysBacked_of_unmoved ?_
    exact keeps_bind (unmoved_disablePairingFlag env) fun _ =>
      keeps_bind unmoved_stopPinStatusPoller fun _ =>
        keeps_bind (serving_unmoved.keeps_syncKeysFromServer) fun _ =>
          keeps_bind (unmoved_ask _) fun _ => keeps_pure _

/-! ### Sessions that start out verified -/

theorem unmoved_seedContext (sessionId : String) (token nonce : Json) :
    Keeps Unmoved (seedContext env sessionId token nonce) := by
  refine keeps_bind (Py.keeps_pairing _) fun found => ?_
  cases found with
  | some ref => exact keeps_pure ref
  | none =>
    refine keeps_bind (Py.keeps_pairing _) fun pending => ?_
    cases pending with
    | some ref => exact keeps_pure ref
    | none =>
      exact keeps_bind (unmoved_ask _) fun _ => keeps_bind (Py.keeps_ofExcept _) fun _ =>
        keeps_bind (unmoved_ask _) fun _ => keeps_bind (unmoved_newContext _) fun _ =>
          keeps_bind (fun _ => ⟨rfl, rfl, rfl⟩) fun _ => keeps_pure _

/-- A seed makes its session verified. -/
theorem staysBacked_seedPkiSession {sessionId : String} (hE : E sessionId) (sessionKey : String)
    (token clientNonce serverNonce expiresAt : Json) :
    Keeps (StaysBacked E)
      (seedPkiSession env sessionId sessionKey token clientNonce serverNonce expiresAt) := by
  refine keeps_ite (keeps_throw _) (keeps_ite (keeps_throw _) (keeps_ite (keeps_throw _) ?_))
  refine keeps_bind (staysBacked_of_unmoved (unmoved_seedContext env sessionId token clientNonce))
    fun _ => keeps_bind (Py.keeps_context _) fun _ =>
      keeps_bind (Py.keeps_pairing _) fun _ =>
        keeps_bind (staysBacked_of_unmoved (unmoved_ask _)) fun _ =>
          keeps_bind (Py.keeps_ofExcept _) fun _ =>
            keeps_bind (Py.keeps_ofExcept _) fun _ =>
              keeps_bind (Py.keeps_ofExcept _) fun _ => ?_
  refine staysBacked_newSession_store (fun _ => hE) ?_ ?_ fun ref => ?_
  · exact fun _ _ => rfl
  · exact fun _ _ => rfl
  · exact keeps_bind (staysBacked_exportPkiSessionState env) fun _ =>
      keeps_ite (keeps_pure _) (keeps_pure _)

theorem staysBacked_handlePkiSessionSeed (hE : ∀ sessionId, E sessionId) (payload : Json) :
    Keeps (StaysBacked E) (handlePkiSessionSeed env payload) := by
  refine keeps_bind (Py.keeps_ofExcept _) fun _ =>
    keeps_bind (Py.keeps_ofExcept _) fun _ =>
      keeps_bind (Py.keeps_ofExcept _) fun _ =>
        keeps_bind (Py.keeps_ofExcept _) fun _ =>
          keeps_bind (Py.keeps_ofExcept _) fun _ =>
            keeps_bind (Py.keeps_ofExcept _) fun _ =>
              keeps_bind (Py.keeps_ofExcept _) fun _ => ?_
  exact keeps_bind (staysBacked_seedPkiSession env (hE _) _ _ _ _ _) fun _ => keeps_pure _

theorem PkiSessionState.sessionId_recovered (new : PkiSessionState)
    (template : Option PkiSessionState) (key : Option String) (verified : Bool) :
    (new.recovered template key verified).sessionId = new.sessionId := by
  unfold recovered
  cases present key <;> cases present (template.bind handshakePublicKeyPem) <;>
    cases present (template.bind certificatePublicKeyPem) <;> rfl

/-- The session that a recovered one is modelled on, if none is stored under the id. -/
def currentSession (w : World) : Option PkiSessionState :=
  w.pairing.pkiState.map w.pairing.sessions.read

/-- The keys `finalize_session_state` tries a signature under. -/
def triedKeys (state : PkiSessionState) : List String :=
  if candidateKeys state = [] then [state.userPublicKeyPem] else candidateKeys state

theorem mem_present {o : Option String} {s : String} : s ∈ present o ↔ o = some s ∧ s ≠ "" := by
  cases o with
  | none => simp [present]
  | some t =>
    rw [present]
    split
    · rename_i h
      subst h
      constructor
      · exact nofun
      · rintro ⟨⟨⟩, hne⟩
        exact absurd rfl hne
    · rename_i h
      rw [List.mem_singleton]
      constructor
      · rintro rfl
        exact ⟨rfl, h⟩
      · rintro ⟨⟨⟩, -⟩
        rfl

/-- The candidates are the keys of the session that are not empty. -/
theorem mem_candidateKeys {state : PkiSessionState} {keyMaterial : String} :
    keyMaterial ∈ candidateKeys state ↔ keyMaterial ≠ "" ∧
      (state.handshakePublicKeyPem = some keyMaterial ∨ state.userPublicKeyPem = keyMaterial ∨
        state.certificatePublicKeyPem = some keyMaterial) := by
  rw [candidateKeys]
  simp only [List.mem_append, List.mem_filter, decide_eq_true_eq, mem_present, Option.some_inj]
  tauto

theorem mem_triedKeys {state : PkiSessionState} {keyMaterial : String} :
    keyMaterial ∈ triedKeys state ↔ keyMaterial ∈ candidateKeys state ∨
      candidateKeys state = [] ∧ keyMaterial = state.userPublicKeyPem := by
  rw [triedKeys]
  split
  · rename_i h
    simp [h]
  · rename_i h
    simp [h]

/-- The keys a recovered session has: those of the session it is modelled on, and the key
it is derived with. -/
def recoveryKeys (template : Option PkiSessionState) (remote : Option String) : List String :=
  present (template.bind PkiSessionState.handshakePublicKeyPem) ++
    present (template.bind PkiSessionState.certificatePublicKeyPem) ++ remote.toList

theorem triedKeys_recovered {sessionId remote : String} {s : PkiSessionState}
    (hs : FreshSession sessionId remote s) (template : Option PkiSessionState)
    (vehiclePublicKey : Option String) (verified : Bool) {keyMaterial : String}
    (h : keyMaterial ∈ triedKeys (s.recovered template vehiclePublicKey verified)) :
    keyMaterial ∈ recoveryKeys template (some remote) := by
  obtain ⟨-, -, huser, hhandshake, hcertificate⟩ := hs
  obtain ⟨hu, hh, hc⟩ :
      (s.recovered template vehiclePublicKey verified).userPublicKeyPem ∈
          recoveryKeys template (some remote) ∧
        (∀ k, (s.recovered template vehiclePublicKey verified).handshakePublicKeyPem = some k →
          k ∈ recoveryKeys template (some remote)) ∧
        ∀ k, (s.recovered template vehiclePublicKey verified).certificatePublicKeyPem = some k →
          k ∈ recoveryKeys template (some remote) := by
    unfold PkiSessionState.recovered recoveryKeys
    cases present vehiclePublicKey <;>
      cases present (template.bind PkiSessionState.handshakePublicKeyPem) <;>
        cases present (template.bind PkiSessionState.certificatePublicKeyPem) <;>
          simp [huser, hhandshake, hcertificate]
  rcases mem_triedKeys.mp h with hcandidate | ⟨-, rfl⟩
  · rcases (mem_candidateKeys.mp hcandidate).2 with hk | rfl | hk
    · exact hh _ hk
    · exact hu
    · exact hc _ hk
  · exact hu

/-- How a recovery ends: without a session and with nothing changed, or with a new one
that is stored, if that is possible. -/
inductive Recovered (possible : Prop) (sessionId : String) (verified : Bool) (keys : List String)
    (w : World) : Except PyError (Option ℕ) × World → Prop where
  | raised {e : PyError} {w' : World} (h : Unmoved w w') :
    Recovered possible sessionId verified keys w (.error e, w')
  | nothing {w' : World} (h : Unmoved w w') :
    Recovered possible sessionId verified keys w (.ok none, w')
  | stored {s : PkiSessionState} {w' : World} (hpossible : possible)
    (hid : s.sessionId = sessionId) (hverified : s.signatureVerified = verified)
    (hkeys : ∀ k ∈ triedKeys s, k ∈ keys)
    (hsessions : w'.pairing.sessions = (w.pairing.sessions.alloc s).2)
    (hstored : w'.pairing.pkiSessions =
      w.pairing.pkiSessions.set sessionId (w.pairing.sessions.alloc s).1) :
    Recovered possible sessionId verified keys w (.ok (some (w.pairing.sessions.alloc s).1), w')

section Recovered

variable {possible : Prop} {sessionId : String} {verified : Bool} {keys : List String} {w : World}

theorem Recovered.of_unmoved {w₁ : World} {r : Except PyError (Option ℕ) × World}
    (hunmoved : Unmoved w w₁) (h : Recovered possible sessionId verified keys w₁ r) :
    Recovered possible sessionId verified keys w r := by
  cases h with
  | raised h => exact .raised (trans_of Unmoved hunmoved h)
  | nothing h => exact .nothing (trans_of Unmoved hunmoved h)
  | stored hpossible hid hverified hkeys hsessions hstored =>
    rw [hunmoved.sessions]
    refine .stored hpossible hid hverified hkeys (hsessions.trans ?_) (hstored.trans ?_)
    · rw [hunmoved.sessions]
    · rw [hunmoved.sessions, hunmoved.pkiSessions]

/-- A recovery goes on after a program that leaves the sessions alone. -/
theorem recovered_bind {β : Type} {x : Py β} {f : β → Py (Option ℕ)} (hx : Keeps Unmoved x)
    (hf : ∀ b w₁, exec x w = (.ok b, w₁) →
      Recovered possible sessionId verified keys w₁ (exec (f b) w₁)) :
    Recovered possible sessionId verified keys w (exec (x >>= f) w) := by
  have hunmoved := hx w
  rw [exec_bind]
  rcases hres : exec x w with ⟨e | b, w₁⟩ <;> rw [hres] at hunmoved
  · exact .raised hunmoved
  · exact .of_unmoved hunmoved (hf b w₁ hres)

end Recovered

/-- With a current session, an export changes no session. -/
theorem exec_exportPkiSessionState_of_some {w : World} {ref : ℕ}
    (h : w.pairing.pkiState = some ref) :
    ∃ w', exec (exportPkiSessionState env) w = (.ok ⟨⟩, w') ∧ Unmoved w w' := by
  rw [exportPkiSessionState, exec_bind_of_ok (Py.exec_pairing w _), h]
  dsimp only
  rw [Py.session, exec_bind_of_ok (Py.exec_pairing w _), exec_bind_of_ok (Py.exec_ask w _)]
  cases env.writeText w.tick with
  | written => exact ⟨_, rfl, rfl, rfl, rfl⟩
  | refused message => exact ⟨_, rfl, rfl, rfl, rfl⟩
  | truncated message => exact ⟨_, rfl, rfl, rfl, rfl⟩

/-- The end of a recovery that succeeds. -/
theorem recovered_store {possible : Prop} (hpossible : possible) {s : PkiSessionState}
    {sessionId : String} {verified : Bool} {keys : List String} (hid : s.sessionId = sessionId)
    (hverified : s.signatureVerified = verified)
    (hkeys : ∀ k ∈ triedKeys s, k ∈ keys) (w : World) :
    Recovered possible sessionId verified keys w (exec (do
      let ref ← Py.newSession s
      Py.setPairing fun p =>
        { p with
          pkiState := some ref
          pkiSessions := p.pkiSessions.set sessionId ref
          lastSessionId := some sessionId }
      exportPkiSessionState env
      pure (some ref)) w) := by
  rw [exec_bind_of_ok (Py.exec_newSession w s), exec_bind_of_ok (Py.exec_setPairing _ _)]
  obtain ⟨w', hexport, hunmoved⟩ := exec_exportPkiSessionState_of_some env
    (w := { w with
      pairing := { w.pairing with
        sessions := (w.pairing.sessions.alloc s).2
        pkiState := some (w.pairing.sessions.alloc s).1
        pkiSessions := w.pairing.pkiSessions.set sessionId (w.pairing.sessions.alloc s).1
        lastSessionId := some sessionId } }) rfl
  rw [exec_bind_of_ok hexport]
  exact .stored hpossible hid hverified hkeys hunmoved.sessions hunmoved.pkiSessions

/-- The public key a recovery takes from a certificate, if it finds one. -/
def recoveryKey (certificate : Json) : Option String :=
  (do
    let material ← recoveryExtracted env certificate
    recoveryPublicKey env material.1 certificate).toOption.join

/-- Token, vehicle key and nonce as a recovery finds them for a session that is not stored. -/
def neededMaterial (w : World) : RecoveryMaterial :=
  recoveryMaterial env (currentSession w) w.pairing.pinSessionState w.pairing.cachedPkiPayload

/-- There is what it takes to recover a session that is not stored: a public key that agrees on a
secret with the vehicle's, a pairing token and a nonce. -/
structure Recoverable (w : World) (certificate : Json) : Prop where
  key : ∃ remote, recoveryKey env certificate = some remote ∧ KeyAgrees env remote
  pairingToken : (neededMaterial env w).pairingToken.isNone = false
  vehicleNonce : (neededMaterial env w).vehicleNonce ≠ none

/-- **A recovery** is possible only with what it takes, and makes its session verified if the
session it is modelled on is, or if the one that was exported last was. -/
theorem recovered_recoverPkiSession {w : World} {sessionId : String} (certificate : Json)
    (hnone : w.pairing.pkiSessions.get? sessionId = none) :
    Recovered (Recoverable env w certificate) sessionId
      (recoveredVerified (currentSession w) w.pairing.cachedPkiPayload)
      (recoveryKeys (currentSession w) (recoveryKey env certificate)) w
      (exec (recoverPkiSession env sessionId certificate) w) := by
  obtain ⟨verified, hverified⟩ :
    ∃ b, b = recoveredVerified (currentSession w) w.pairing.cachedPkiPayload := ⟨_, rfl⟩
  obtain ⟨keys, hkeys⟩ :
    ∃ l, l = recoveryKeys (currentSession w) (recoveryKey env certificate) := ⟨_, rfl⟩
  rw [← hverified, ← hkeys]
  unfold recoverPkiSession
  cases hextracted : recoveryExtracted env certificate with
  | error e => exact .raised (refl_of Unmoved w)
  | ok material =>
    rw [exec_bind_of_ok (Py.exec_ofExcept_ok w _)]
    cases hremote : recoveryPublicKey env material.1 certificate with
    | error e => exact .raised (refl_of Unmoved w)
    | ok remote =>
      rw [exec_bind_of_ok (Py.exec_ofExcept_ok w _)]
      cases remote with
      | none => exact .nothing (refl_of Unmoved w)
      | some key =>
        dsimp only
        rw [exec_bind_of_ok (Py.exec_pairing w _), exec_bind_of_ok (Py.exec_pairing w _),
          exec_bind_of_ok (Py.exec_pairing w _), exec_bind_of_ok (Py.exec_pairing w _), hnone]
        dsimp only
        rw [← currentSession, ← hverified]
        split
        · rename_i htoken hnonce
          refine recovered_bind (unmoved_ask _) fun vehicleKeys w₁ _ =>
            recovered_bind (Py.keeps_ofExcept _) fun pem w₂ _ =>
              recovered_bind (unmoved_tryDeriveSessionKey env _ _ _ _ _) fun derived w₃ hexec => ?_
          have hderived := returns_tryDeriveSessionKey env _ _ _ _ _ w₂ derived w₃ hexec
          cases derived with
          | none => exact .nothing (refl_of Unmoved w₃)
          | some s =>
            obtain ⟨hs, hagrees⟩ := hderived s rfl
            have hkey : recoveryKey env certificate = some key := by
              rw [recoveryKey, hextracted]
              change (recoveryPublicKey env material.1 certificate).toOption.join = _
              rw [hremote]
              rfl
            have hpossible : Recoverable env w certificate :=
              ⟨⟨key, hkey, hagrees⟩, htoken, fun hnil => by
                rw [neededMaterial, hnonce] at hnil
                cases hnil⟩
            refine recovered_store env hpossible
              ((PkiSessionState.sessionId_recovered ..).trans hs.id_eq) rfl (fun k hk => ?_) w₃
            rw [hkeys, hkey]
            exact triedKeys_recovered hs _ _ _ hk
        · exact .nothing (refl_of Unmoved w)

/-- A recovery keeps what is backed if its session may be verified. -/
theorem staysBacked_recoverPkiSession {w : World} {sessionId : String} {certificate : Json}
    (hnone : w.pairing.pkiSessions.get? sessionId = none)
    (hE : Recoverable env w certificate →
      recoveredVerified (currentSession w) w.pairing.cachedPkiPayload = true → E sessionId) :
    StaysBacked E w (exec (recoverPkiSession env sessionId certificate) w).2 := by
  have hrecovered := recovered_recoverPkiSession env certificate hnone
  generalize exec (recoverPkiSession env sessionId certificate) w = r at hrecovered
  cases hrecovered with
  | raised h => exact h.staysBacked
  | nothing h => exact h.staysBacked
  | @stored s w' hpossible hid hverified hkeys hsessions hstored =>
    subst hid
    have hnew : BackedAt E s.sessionId (w.pairing.sessions.alloc s).1
      (exec (Py.newSession s) w).2 :=
      returns_newSession (fun h => hE hpossible (hverified ▸ h)) w _ _ (Py.exec_newSession w s)
    exact trans_of (StaysBacked E) (staysBacked_newSession s w)
      (staysBacked_of_store hnew hsessions hstored)

/-! ### Accepted signatures -/

/-- A signature is valid for a message under the key that some material is. -/
def ValidUnder (keyMaterial : String) (signature message : Bytes) : Prop :=
  ∃ key, loadRemotePublicKey env keyMaterial = .ok key ∧ env.verify key signature message = .ok ()

/-- **The loop over the candidates** accepts the signature under one of them, or changes
nothing and raises. -/
theorem exec_verifySignature (ref : ℕ) (signature message : Bytes) (keys : List String)
    (w : World) :
    (∃ e, exec (verifySignature env ref signature message keys) w = (.error e, w)) ∨
      ∃ keyMaterial ∈ keys, ValidUnder env keyMaterial signature message ∧
        exec (verifySignature env ref signature message keys) w =
          exec (acceptSignature env ref keyMaterial) w := by
  induction keys with
  | nil => exact Or.inl ⟨_, rfl⟩
  | cons keyMaterial rest ih =>
    rw [verifySignature]
    split
    · rename_i hvalid
      refine Or.inr ⟨keyMaterial, List.mem_cons_self, ?_, rfl⟩
      cases hload : loadRemotePublicKey env keyMaterial with
      | error e => rw [hload] at hvalid; cases hvalid
      | ok key => rw [hload] at hvalid; exact ⟨key, hload, hvalid⟩
    · split
      · rcases ih with hraised | ⟨key, hmem, hvalid, hexec⟩
        · exact Or.inl hraised
        · exact Or.inr ⟨key, List.mem_cons_of_mem _ hmem, hvalid, hexec⟩
      · exact Or.inl ⟨_, rfl⟩

/-- What an accepted signature changes in a session. -/
def PkiSessionState.accepted (s : PkiSessionState) (keyMaterial : String) : PkiSessionState :=
  let verified := { s with signatureVerified := true }
  if keyMaterial = "" then verified
  else
    match present s.handshakePublicKeyPem with
    | [] =>
      { verified with
        handshakePublicKeyPem := some keyMaterial
        userPublicKeyPem := keyMaterial }
    | handshake :: _ =>
      if env.strip handshake ≠ env.strip keyMaterial then
        { verified with certificatePublicKeyPem := some keyMaterial }
      else verified

/-- It is verified, and only its public keys are others. -/
theorem PkiSessionState.exists_accepted_eq (s : PkiSessionState) (keyMaterial : String) :
    ∃ handshake user certificate, s.accepted env keyMaterial =
      { s with
        signatureVerified := true
        handshakePublicKeyPem := handshake
        userPublicKeyPem := user
        certificatePublicKeyPem := certificate } := by
  unfold accepted
  split
  · exact ⟨_, _, _, rfl⟩
  · split
    · exact ⟨_, _, _, rfl⟩
    · split
      · exact ⟨_, _, _, rfl⟩
      · exact ⟨_, _, _, rfl⟩

theorem PkiSessionState.sessionId_accepted (s : PkiSessionState) (keyMaterial : String) :
    (s.accepted env keyMaterial).sessionId = s.sessionId := by
  obtain ⟨_, _, _, h⟩ := s.exists_accepted_eq env keyMaterial
  rw [h]

theorem PkiSessionState.signatureVerified_accepted (s : PkiSessionState) (keyMaterial : String) :
    (s.accepted env keyMaterial).signatureVerified = true := by
  obtain ⟨_, _, _, h⟩ := s.exists_accepted_eq env keyMaterial
  rw [h]

theorem exec_acceptSignature (ref : ℕ) (keyMaterial : String) (w : World) :
    exec (acceptSignature env ref keyMaterial) w = (.ok ⟨⟩,
      { w with
        pairing := { w.pairing with
          sessions := w.pairing.sessions.modify ref fun s => s.accepted env keyMaterial }
        trace := w.trace ++
          [.signatureAccepted (w.pairing.sessions.read ref).sessionId keyMaterial] }) := rfl

end DigitalKey

end VehicleStack
