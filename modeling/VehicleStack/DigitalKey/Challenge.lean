import VehicleStack.DigitalKey.Activity

/-!
# What a challenge does to the sessions

A new PIN session has no current PKI session, and `_export_pki_session_state` forgets
every session when there is no current one. So a challenge for which a PIN is
requested leaves nothing stored, whichever telephone it is for
(`VehicleStack.DigitalKey.pkiSessionState_challenge`), and the other sessions are
undisturbed only if there were none
(`VehicleStack.DigitalKey.undisturbed_iff_storesNoOther`).
-/

namespace VehicleStack

namespace DigitalKey

open Effect

variable {env : Platform} {api : PairingApi}

/-- The PIN session that a challenge gets if it is read now: one that is allowed and for
which a PIN is requested. -/
def requestedSession (api : PairingApi) (w : World) : Option PairingSession :=
  if (w.store.keys.entries.isEmpty || w.pairing.pairingFlag) && !api.skipPinRequest then
    -- the nonce and the time are asked for before
    (api.requestPin (w.tick + 2) (buildPinPayload api)).toOption
  else none

/-- No PKI session is stored, nor is one current. -/
structure Forgotten (w : World) : Prop where
  pkiState : w.pairing.pkiState = none
  pkiSessions : w.pairing.pkiSessions = .empty

theorem exec_vehiclePublicKeyMember (env : Platform) (w : World) :
    ∃ members w', exec (vehiclePublicKeyMember env) w = (.ok members, w') ∧
      w'.pairing = w.pairing := by
  rw [vehiclePublicKeyMember, exec_bind_of_ok (Py.exec_ask w _)]
  split
  · exact ⟨_, _, rfl, rfl⟩
  · exact ⟨_, _, rfl, rfl⟩

/-- Without a current session an export forgets every session. -/
theorem exec_exportPkiSessionState_of_none (env : Platform) {w : World}
    (h : w.pairing.pkiState = none) :
    ∃ w', exec (exportPkiSessionState env) w = (.ok ⟨⟩, w') ∧ Forgotten w' := by
  rw [exportPkiSessionState, exec_bind_of_ok (Py.exec_pairing w _), h]
  dsimp only
  rw [exec_bind_of_ok (Py.exec_ask w _), Py.exec_setPairing]
  exact ⟨_, rfl, ⟨h, rfl⟩⟩

theorem exec_initializePinSession (env : Platform) (api : PairingApi) (session : PairingSession)
    (w : World) :
    ∃ w', exec (initializePinSession env api session) w = (.ok ⟨⟩, w') ∧ Forgotten w' := by
  rw [initializePinSession, stopPinStatusPoller, exec_bind_of_ok (Py.exec_setPairing w _),
    exec_bind_of_ok (Py.exec_setPairing _ _)]
  obtain ⟨w', hexport, hforgotten⟩ := exec_exportPkiSessionState_of_none env
    (w := { w with
      pairing := { w.pairing with
        pinPoller := false
        pinSessionState := some
          { sessionId := session.sessionId
            pin := session.pin
            expiresAt := session.expiresAt
            attemptsRemaining := session.attemptsRemaining
            pairingToken := session.pairingToken
            ownerCandidateUserId := session.ownerCandidateUserId }
        pkiState := none
        pkiSessions := w.pairing.pkiSessions.erase session.sessionId } }) rfl
  rw [exec_bind_of_ok hexport, startPinStatusPoller, Py.when]
  split
  · rw [Py.exec_setPairing]
    exact ⟨_, rfl, ⟨hforgotten.pkiState, hforgotten.pkiSessions⟩⟩
  · exact ⟨w', rfl, hforgotten⟩

theorem forgotten_challengeFor (session : PairingSession) (nonce : String) (issuedAt : ℤ)
    (w : World) : Forgotten (exec (challengeFor env api session nonce issuedAt) w).2 := by
  rw [challengeFor, exec_bind_of_ok (Py.exec_setPairing w _)]
  obtain ⟨w₁, hinit, hforgotten⟩ := exec_initializePinSession env api session
    { w with pairing := { w.pairing with activeSession := some session.sessionId } }
  rw [exec_bind_of_ok hinit]
  obtain ⟨members, w₂, hmembers, hpairing⟩ := exec_vehiclePublicKeyMember env w₁
  have hstate : w₂.pairing.pkiState = none := by rw [hpairing, hforgotten.pkiState]
  have hsessions : w₂.pairing.pkiSessions = .empty := by rw [hpairing, hforgotten.pkiSessions]
  rw [exec_bind_of_ok hmembers]
  dsimp only
  rw [exec_bind_of_ok (exec_getPkiSessionState_of_empty hstate hsessions _)]
  exact ⟨hstate, hsessions⟩

/-- **A requested PIN forgets every session.** -/
theorem forgotten_buildChallenge {w : World} {session : PairingSession}
    (h : requestedSession api w = some session) :
    Forgotten (exec (buildChallenge env api) w).2 := by
  unfold requestedSession at h
  split at h
  · rename_i hallowed
    rw [Bool.and_eq_true, Bool.not_eq_true'] at hallowed
    obtain ⟨hallowed, hskip⟩ := hallowed
    have hexec : exec isPairingAllowed w = (.ok true, w) := by
      rw [isPairingAllowed, exec_bind_of_ok (exec_get w), hallowed]
      rfl
    have hrequest : api.requestPin (w.tick + 2) (buildPinPayload api) = .ok session := by
      cases hr : api.requestPin (w.tick + 2) (buildPinPayload api) with
      | ok session' => rw [hr] at h; exact congrArg _ (Option.some_inj.mp h)
      | error e => rw [hr] at h; cases h
    rw [buildChallenge, exec_bind_of_ok hexec, if_pos rfl, exec_bind_of_ok (Py.exec_ask w _)]
    dsimp only
    rw [exec_bind_of_ok (Py.exec_ask _ _), hskip, if_neg (by decide),
      exec_bind_of_ok (Py.exec_ask _ _), hrequest]
    exact forgotten_challengeFor session _ _ _
  · cases h

/-- After a requested PIN nothing is returned for any session id. -/
theorem pkiSessionState_challenge {w : World} {session : PairingSession}
    (h : requestedSession api w = some session) (sessionId : String) :
    pkiSessionState (exec (buildChallenge env api) w).2 sessionId = none := by
  have hforgotten : Forgotten (exec (buildChallenge env api) w).2 := forgotten_buildChallenge h
  rw [pkiSessionState, exec_getPkiSessionState_of_empty hforgotten.pkiState hforgotten.pkiSessions]
  rfl

/-- What is returned is unchanged only if it was nothing. -/
theorem pkiSessionState_challenge_eq_iff {w : World} {session : PairingSession}
    (h : requestedSession api w = some session) (sessionId : String) :
    pkiSessionState (exec (buildChallenge env api) w).2 sessionId = pkiSessionState w sessionId ↔
      pkiSessionState w sessionId = none := by
  rw [pkiSessionState_challenge h]
  exact eq_comm

/-- **The other sessions are undisturbed**: what is returned for the id of another
session is what was returned before. -/
def Undisturbed (env : Platform) (api : PairingApi) (w : World) (sessionId : String) : Prop :=
  ∀ other, other ≠ "" → other ≠ sessionId →
    pkiSessionState (exec (buildChallenge env api) w).2 other = pkiSessionState w other

/-- No session is stored under another id. -/
def StoresNoOther (w : World) (sessionId : String) : Prop :=
  ∀ other, other ≠ "" → other ≠ sessionId → w.pairing.pkiSessions.get? other = none

/-- **When a challenge leaves the other sessions undisturbed**: when there are none.
The same goes for what is returned for any argument, also for the empty one that
asks for the current session. -/
theorem undisturbed_iff_storesNoOther (env : Platform) (api : PairingApi) {w : World}
    {session : PairingSession} (h : requestedSession api w = some session) :
    (Undisturbed env api w session.sessionId ↔ StoresNoOther w session.sessionId) ∧
      ∀ other, pkiSessionState (exec (buildChallenge env api) w).2 other = pkiSessionState w other ↔
        pkiSessionState w other = none := by
  refine ⟨?_, pkiSessionState_challenge_eq_iff h⟩
  constructor
  · intro hundisturbed other hne hother
    have hnone := (pkiSessionState_challenge_eq_iff h other).mp (hundisturbed other hne hother)
    rw [pkiSessionState_eq hne, Option.map_eq_none_iff] at hnone
    exact hnone
  · intro hnone other hne hother
    refine (pkiSessionState_challenge_eq_iff h other).mpr ?_
    rw [pkiSessionState_eq hne, hnone other hne hother]
    rfl

/-! ### Two telephones -/

/-- A pairing API that gives the first telephone the session `a` and later ones the
session `b`. -/
def twoTelephones : PairingApi where
  deviceId := "car"
  headerVehicleId := "1"
  ownerCandidateUserId := .null
  skipPinRequest := false
  pollsStatus := true
  requestPin n _ :=
    .ok (if n ≤ 2 then { sessionId := "a", pin := "1234", pairingToken := .str "token" }
      else { sessionId := "b", pin := "5678", pairingToken := .str "token" })

/-- The first telephone's PIN is verified. -/
def firstVerified : List Activity :=
  [.challenge, .pinStatus { sessionId := "a", state := "VERIFIED", userPublicKey := .str "key a" }]

/-- A pairing API that knows one telephone only. -/
def oneTelephone : PairingApi :=
  { twoTelephones with
    requestPin := fun _ _ => .ok { sessionId := "a", pin := "1234", pairingToken := .str "token" } }

/-- The process when this telephone's session is stored. -/
def whenVerified : World := performAll .plain oneTelephone 0 {} firstVerified

theorem keys_whenVerified : whenVerified.pairing.pkiSessions.keys = ["a"] := by decide +kernel

/-- **A new PIN for the same telephone** disturbs no other session, as there is none. -/
theorem oneTelephone_undisturbed :
    requestedSession oneTelephone whenVerified =
        some { sessionId := "a", pin := "1234", pairingToken := .str "token" } ∧
      (pkiSessionState whenVerified "a").isSome = true ∧
        Undisturbed Platform.plain oneTelephone whenVerified "a" := by
  have hrequested : requestedSession oneTelephone whenVerified =
      some { sessionId := "a", pin := "1234", pairingToken := .str "token" } := rfl
  refine ⟨hrequested, by decide +kernel, ?_⟩
  refine (undisturbed_iff_storesNoOther .plain oneTelephone hrequested).1.mpr ?_
  intro other _ hother
  -- the only session stored is the telephone's own
  rw [Dict.get?_eq_none_iff, keys_whenVerified, List.mem_singleton]
  exact hother

/-- The challenge for the second telephone disturbs the session of the first. -/
theorem twoTelephones_disturbed : ¬∀ (env : Platform) (api : PairingApi) (recursionLimit : ℕ)
    (activities : List Activity) (session : PairingSession),
    requestedSession api (performAll env api recursionLimit {} activities) = some session →
      Undisturbed env api (performAll env api recursionLimit {} activities) session.sessionId := by
  intro h
  have hundisturbed := h .plain twoTelephones 0 firstVerified
    { sessionId := "b", pin := "5678", pairingToken := .str "token" } rfl "a" (by decide)
      (by decide)
  rw [pkiSessionState_challenge rfl] at hundisturbed
  have hstored : (pkiSessionState
      (performAll .plain twoTelephones 0 {} firstVerified) "a").isSome = true := by
    decide +kernel
  rw [← hundisturbed] at hstored
  cases hstored

end DigitalKey

end VehicleStack
