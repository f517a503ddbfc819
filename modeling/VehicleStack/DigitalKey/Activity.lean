import VehicleStack.DigitalKey.Authorisation
import VehicleStack.DigitalKey.PinSession

/-!
# What the digital key process is asked to do

A run of the process is a sequence of activities, each handled to its end: a challenge
is read, the status of a PIN comes in, the PIN session expires, or the telephone
writes something.
-/

namespace VehicleStack

namespace DigitalKey

open Effect

/-- Something the process does. -/
inductive Activity where
  /-- `build_challenge`, when the challenge is read. -/
  | challenge
  /-- A poll of the PIN status brings a status. -/
  | pinStatus (status : PinStatus)
  /-- A poll finds that the PIN session has expired. -/
  | expiry
  /-- A write of the telephone. -/
  | write (write : Write)

variable (env : Platform) (api : PairingApi) (recursionLimit : ℕ)

/-- The world after an activity. -/
def perform (w : World) : Activity → World
  | .challenge => (exec (buildChallenge env api) w).2
  | .pinStatus status => (exec (handlePinStatusUpdate env status) w).2
  | .expiry =>
    match w.pairing.pinSessionState with
    | some pin => (exec (handlePinTerminal (expiredStatus pin)) w).2
    | none => w
  | .write write => handleWrite env recursionLimit w write

/-- The world after some activities. -/
def performAll (w : World) (activities : List Activity) : World :=
  activities.foldl (perform env api recursionLimit) w

theorem performAll_concat (w : World) (activities : List Activity) (activity : Activity) :
    performAll env api recursionLimit w (activities ++ [activity]) =
      perform env api recursionLimit (performAll env api recursionLimit w activities) activity :=
  List.foldl_concat ..

/-- What `get_pki_session_state` returns. -/
def pkiSessionState (w : World) (sessionId : String) : Option PkiSessionState :=
  match (exec (getPkiSessionState sessionId) w).1 with
  | .ok ref => ref.map w.pairing.sessions.read
  | .error _ => none

/-- For a session id it is what is stored under it. -/
theorem pkiSessionState_eq {w : World} {sessionId : String} (h : sessionId ≠ "") :
    pkiSessionState w sessionId =
      (w.pairing.pkiSessions.get? sessionId).map w.pairing.sessions.read := by
  rw [pkiSessionState, getPkiSessionState, Py.exec_pairing]
  dsimp only
  rw [if_pos h]

/-- Without sessions there is nothing to return. -/
theorem exec_getPkiSessionState_of_empty {w : World} (hstate : w.pairing.pkiState = none)
    (hsessions : w.pairing.pkiSessions = .empty) (sessionId : String) :
    exec (getPkiSessionState sessionId) w = (.ok none, w) := by
  have hlookup : ∀ k, w.pairing.pkiSessions.get? k = none := by
    intro k
    rw [hsessions, Dict.get_empty]
  have hlast : (present w.pairing.lastSessionId).head?.bind w.pairing.pkiSessions.get? = none := by
    cases (present w.pairing.lastSessionId).head? with
    | none => rfl
    | some k => exact hlookup k
  rw [getPkiSessionState, Py.exec_pairing, hlookup, hstate, hsessions]
  dsimp only
  rw [hsessions] at hlast
  rw [hlast]
  split <;> rfl

/-! ### What every activity keeps -/

namespace Py

variable {R : World → World → Prop} [IsPreorder World R] {env : Platform}

theorem keeps_buildErrorChallenge (message : String) (issuedAt : ℤ) :
    Keeps R (buildErrorChallenge api message issuedAt) := by
  refine keeps_bind (Py.keeps_pairing _) fun last => ?_
  rcases last with _ | _ | ⟨member, members⟩
  · exact keeps_pure _
  · exact keeps_pure _
  · exact keeps_pure _

variable (hask : ∀ w : World, R w { w with tick := w.tick + 1 })

include hask

theorem keeps_vehiclePublicKeyMember : Keeps R (vehiclePublicKeyMember env) := by
  refine keeps_bind (Py.keeps_ask hask _) fun vehicleKeys => ?_
  cases present vehicleKeys.toOption with
  | nil => exact keeps_pure _
  | cons key _ => exact keeps_pure _

theorem keeps_buildCachedChallenge (nonce : String) (issuedAt : ℤ) :
    Keeps R (buildCachedChallenge env api nonce issuedAt) := by
  refine keeps_bind (Py.keeps_getPkiSessionState _) fun found => ?_
  cases found with
  | some ref =>
    exact keeps_bind (Py.keeps_session ref) fun _ =>
      keeps_bind (keeps_vehiclePublicKeyMember hask) fun _ => keeps_pure _
  | none =>
    refine keeps_bind (Py.keeps_pairing _) fun last => ?_
    rcases last with _ | _ | ⟨member, members⟩
    · exact keeps_pure _
    · exact keeps_pure _
    · exact keeps_pure _

end Py

namespace Storeless

variable {R : World → World → Prop} [IsPreorder World R] {env : Platform}
  (hR : Storeless env R)

include hR

theorem keeps_initializePinSession (session : PairingSession) :
    Keeps R (initializePinSession env api session) :=
  keeps_bind hR.keeps_stopPinStatusPoller fun _ =>
    keeps_bind (hR.keeps_setPairing fun _ => ⟨rfl, rfl⟩) fun _ =>
      keeps_bind hR.keeps_exportPkiSessionState fun _ =>
        Py.keeps_when (hR.keeps_setPairing fun _ => ⟨rfl, rfl⟩)

theorem keeps_issueChallenge (challenge : List (String × Json)) :
    Keeps R (issueChallenge challenge) :=
  keeps_bind (hR.keeps_setPairing fun _ => ⟨rfl, rfl⟩) fun _ => keeps_pure _

theorem keeps_challengeFor (session : PairingSession) (nonce : String) (issuedAt : ℤ) :
    Keeps R (challengeFor env api session nonce issuedAt) := by
  refine keeps_bind (hR.keeps_setPairing fun _ => ⟨rfl, rfl⟩) fun _ =>
    keeps_bind (hR.keeps_initializePinSession api session) fun _ =>
      keeps_bind (Py.keeps_vehiclePublicKeyMember hR.ask) fun _ =>
        keeps_bind (Py.keeps_getPkiSessionState _) fun found => ?_
  cases found with
  | some ref => exact keeps_bind (Py.keeps_session ref) fun _ => hR.keeps_issueChallenge _
  | none => exact hR.keeps_issueChallenge _

/-- What `build_challenge` does if pairing is allowed, once it has a nonce and the time. -/
theorem keeps_allowedChallenge (nonce : String) (issuedAt : ℤ) :
    Keeps R (if api.skipPinRequest then do
        let challenge ← buildCachedChallenge env api nonce issuedAt
        issueChallenge challenge
      else do
        match ← Py.ask fun n => api.requestPin n (buildPinPayload api) with
        | .ok session => challengeFor env api session nonce issuedAt
        | .error (e, statusCode) =>
          if e.kind ≠ .pairingApiError then
            buildErrorChallenge api "Unexpected error requesting PIN" issuedAt
          else if pinRequestRecoverable env e statusCode then do
            let challenge ← buildCachedChallenge env api nonce issuedAt
            issueChallenge challenge
          else buildErrorChallenge api e.message issuedAt) := by
  have hcached : Keeps R (do
      let challenge ← buildCachedChallenge env api nonce issuedAt
      issueChallenge challenge) :=
    keeps_bind (Py.keeps_buildCachedChallenge api hR.ask _ _) fun _ => hR.keeps_issueChallenge _
  refine keeps_ite hcached (keeps_bind (hR.keeps_ask _) fun answer => ?_)
  rcases answer with ⟨e, statusCode⟩ | session
  · exact keeps_ite (Py.keeps_buildErrorChallenge api _ _)
      (keeps_ite hcached (Py.keeps_buildErrorChallenge api _ _))
  · exact hR.keeps_challengeFor api session _ _

theorem keeps_buildChallenge : Keeps R (buildChallenge env api) := by
  refine keeps_bind (keeps_bind keeps_get fun _ => keeps_pure _) fun allowed => keeps_ite ?_ ?_
  · exact keeps_bind (hR.keeps_ask _) fun _ => keeps_bind (hR.keeps_ask _) fun _ =>
      hR.keeps_allowedChallenge api _ _
  · exact keeps_bind (hR.keeps_ask _) fun _ => keeps_pure _

theorem keeps_handlePinVerified (status : PinStatus) : Keeps R (handlePinVerified env status) := by
  refine keeps_ite (keeps_pure _) (keeps_bind (Py.keeps_pairing _) fun _ =>
    keeps_ite (keeps_pure _) (keeps_bind (hR.keeps_ask _) fun _ => keeps_bind ?_ fun derived => ?_))
  · exact keeps_tryCatch (keeps_bind (hR.keeps_deriveSessionKey _ _ _ _ _) fun _ =>
      keeps_pure _) fun _ => keeps_pure _
  · cases derived with
    | none => exact keeps_pure _
    | some s =>
      exact keeps_bind (hR.keeps_newSession s) fun _ =>
        keeps_bind (hR.keeps_setPairing fun _ => ⟨rfl, rfl⟩) fun _ =>
          keeps_bind (hR.keeps_setPairing fun _ => ⟨rfl, rfl⟩) fun _ => hR.keeps_stopPinStatusPoller

theorem keeps_handlePinTerminal (status : PinStatus) : Keeps R (handlePinTerminal status) := by
  refine keeps_bind (Py.keeps_pairing _) fun pin => ?_
  cases pin with
  | none => exact keeps_pure _
  | some pin =>
    exact keeps_ite (keeps_pure _) (keeps_bind (hR.keeps_setPairing fun _ => ⟨rfl, rfl⟩) fun _ =>
      hR.keeps_stopPinStatusPoller)

theorem keeps_handlePinStatusUpdate (status : PinStatus) :
    Keeps R (handlePinStatusUpdate env status) := by
  refine keeps_bind (Py.keeps_pairing _) fun pin => ?_
  cases pin with
  | none => exact keeps_pure _
  | some pin =>
    refine keeps_ite (keeps_pure _) (keeps_bind (hR.keeps_setPairing fun _ => ⟨rfl, rfl⟩) fun _ =>
      keeps_ite (hR.keeps_handlePinVerified status) (keeps_ite ?_ (keeps_pure _)))
    exact hR.keeps_handlePinTerminal status

end Storeless

namespace Routine

variable {R : World → World → Prop} [IsPreorder World R] {env : Platform} (hR : Routine env R)
  (hdisable : Keeps R (disablePairingFlag env))

include hR hdisable

/-- **An activity** keeps the relation. -/
theorem rel_perform (w : World) (activity : Activity) :
    R w (perform env api recursionLimit w activity) := by
  cases activity with
  | challenge => exact hR.keeps_buildChallenge api w
  | pinStatus status => exact hR.keeps_handlePinStatusUpdate status w
  | expiry =>
    rw [perform]
    cases w.pairing.pinSessionState with
    | none => exact refl_of R w
    | some pin => exact hR.keeps_handlePinTerminal (expiredStatus pin) w
  | write write =>
    cases write with
    | command payload => exact hR.keeps_process recursionLimit payload w
    | pairingResult payload => exact hR.keeps_handlePairingResult hdisable payload w

/-- **A run** keeps the relation. -/
theorem rel_performAll (w : World) (activities : List Activity) :
    R w (performAll env api recursionLimit w activities) := by
  induction activities generalizing w with
  | nil => exact refl_of R w
  | cons activity activities ih =>
    exact trans_of R (hR.rel_perform api recursionLimit hdisable w activity) (ih _)

end Routine

end DigitalKey

end VehicleStack
