import VehicleStack.Lib.Run
import VehicleStack.DigitalKey.Challenge
import VehicleStack.DigitalKey.Frame

/-!
# A closed PIN session

One PIN session among the two threads that deal with it. The poller wakes up, looks
whether the session is still active, asks the server for its status and handles the
answer when it comes. Between the request and the answer the telephone may write a
handshake result or a key, which closes the session.

The answer is handled then all the same, since
`VehicleStack.DigitalKey.handlePinStatusUpdate` does not look whether the session is
active: a late answer changes the status and the token, and a late success replaces
the PKI session (`VehicleStack.DigitalKey.lateSuccess_touches`). A closed session is
left alone as long as the late answers have nothing to change
(`VehicleStack.DigitalKey.untouched_of_timely`).
-/

namespace VehicleStack

namespace DigitalKey

open Effect

/-! ### The PIN session along a program -/

/-- The PIN session of an id is closed. -/
def Closed (sessionId : String) (w : World) : Prop :=
  ∃ pin, w.pairing.pinSessionState = some pin ∧ pin.sessionId = sessionId ∧ pin.active = false

/-- If the PIN session was closed it still is. -/
def StaysClosed (sessionId : String) (w w' : World) : Prop :=
  Closed sessionId w → Closed sessionId w'

instance (sessionId : String) : IsPreorder World (StaysClosed sessionId) where
  refl _ := id
  trans _ _ _ h h' := fun hclosed => h' (h hclosed)

/-- The PIN session is as it was. -/
def SamePin (w w' : World) : Prop := w'.pairing.pinSessionState = w.pairing.pinSessionState

instance : IsPreorder World SamePin where
  refl _ := rfl
  trans _ _ _ h h' := h'.trans h

variable {env : Platform} {sessionId : String} {α : Type}

theorem Unmoved.samePin {w w' : World} (h : Unmoved w w') : SamePin w w' := h.pinSessionState

theorem SamePin.staysClosed {w w' : World} (h : SamePin w w') : StaysClosed sessionId w w' := by
  rintro ⟨pin, hpin, hid, hactive⟩
  exact ⟨pin, h.trans hpin, hid, hactive⟩

theorem keeps_staysClosed {x : Py α} (hx : Keeps SamePin x) : Keeps (StaysClosed sessionId) x :=
  fun w => (hx w).staysClosed

theorem keeps_samePin {x : Py α} (hx : Keeps Unmoved x) : Keeps SamePin x :=
  Unmoved.keeps Unmoved.samePin hx

theorem staysClosed_of_unmoved {x : Py α} (hx : Keeps Unmoved x) :
    Keeps (StaysClosed sessionId) x :=
  keeps_staysClosed (keeps_samePin hx)

theorem samePin_setSession (ref : ℕ) (f : PkiSessionState → PkiSessionState) :
    Keeps SamePin (Py.setSession ref f) := fun _ => rfl

theorem samePin_finalizeSessionState (ref : ℕ) (clientNonce signature : Json)
    (payload : Option Json) :
    Keeps SamePin (finalizeSessionState env ref clientNonce signature payload) :=
  keeps_finalizeSessionState env Unmoved.samePin ref (fun f _ => samePin_setSession ref f) _ _ _

theorem samePin_exportPkiSessionState : Keeps SamePin (exportPkiSessionState env) := by
  refine keeps_bind (keeps_samePin (Py.keeps_pairing _)) fun current => ?_
  cases current with
  | none => exact keeps_bind (keeps_samePin (unmoved_ask _)) fun _ => fun _ => rfl
  | some ref =>
    refine keeps_bind (keeps_samePin (Py.keeps_session ref)) fun _ =>
      keeps_bind (keeps_samePin (unmoved_ask _)) fun result => ?_
    cases result with
    | written => exact fun _ => rfl
    | refused message => exact keeps_pure _
    | truncated message => exact fun _ => rfl

/-- A change of the PIN session that does not open it keeps it closed. -/
theorem staysClosed_setPairing {f : PairingManager → PairingManager}
    {g : PinSessionState → PinSessionState}
    (hf : ∀ p, (f p).pinSessionState = p.pinSessionState.map g)
    (hg : ∀ pin, (g pin).sessionId = pin.sessionId ∧
      (pin.active = false → (g pin).active = false)) :
    Keeps (StaysClosed sessionId) (Py.setPairing f) := by
  rintro w ⟨pin, hpin, hid, hactive⟩
  refine ⟨g pin, ?_, (hg pin).1.trans hid, (hg pin).2 hactive⟩
  change (f w.pairing).pinSessionState = _
  rw [hf, hpin, Option.map_some]

/-- The same for a change of the PIN session of one id. -/
theorem staysClosed_modifyPin (id : String) {g : PinSessionState → PinSessionState}
    (hg : ∀ pin, (g pin).sessionId = pin.sessionId ∧
      (pin.active = false → (g pin).active = false)) :
    Keeps (StaysClosed sessionId) (Py.setPairing fun p => p.modifyPin id g) := by
  refine staysClosed_setPairing (g := fun pin => if pin.sessionId = id then g pin else pin)
    (fun _ => rfl) fun pin => ?_
  split
  · exact hg pin
  · exact ⟨rfl, fun h => h⟩

theorem staysClosed_handlePairingHandshake (id : String) (payload : Json) :
    Keeps (StaysClosed sessionId) (handlePairingHandshake env id payload) := by
  refine keeps_bind (Py.keeps_pairing _) fun found => ?_
  cases found with
  | none => exact staysClosed_of_unmoved (unmoved_errorStatus env _)
  | some ref =>
    refine keeps_bind (Py.keeps_session ref) fun _ =>
      keeps_ite (staysClosed_of_unmoved (unmoved_errorStatus env _)) ?_
    refine keeps_bind (Py.keeps_ofExcept _) fun _ =>
      keeps_bind (Py.keeps_ofExcept _) fun _ => keeps_bind ?_ fun verified => ?_
    · exact keeps_tryCatch (keeps_bind (keeps_staysClosed (samePin_finalizeSessionState ref _ _ _))
        fun _ => keeps_pure _) fun e => keeps_ite (keeps_pure _) (keeps_throw _)
    · cases verified with
      | some e => exact staysClosed_of_unmoved (unmoved_errorStatus env _)
      | none =>
        refine keeps_bind (Py.keeps_session ref) fun _ =>
          keeps_bind (staysClosed_modifyPin id fun _ => ⟨rfl, fun _ => rfl⟩) fun _ => ?_
        exact keeps_bind (staysClosed_of_unmoved unmoved_stopPinStatusPoller) fun _ =>
          keeps_bind (keeps_staysClosed samePin_exportPkiSessionState) fun _ =>
            keeps_bind (keeps_staysClosed samePin_exportPkiSessionState) fun _ =>
              keeps_bind (Py.keeps_session ref) fun _ =>
                keeps_bind (staysClosed_of_unmoved (unmoved_ask _)) fun _ => keeps_pure _

theorem staysClosed_handlePairingKeyStorage (id : String) (payload : Json) :
    Keeps (StaysClosed sessionId) (handlePairingKeyStorage env id payload) := by
  refine keeps_bind (Py.keeps_ofExcept _) fun _ =>
    keeps_ite (staysClosed_of_unmoved (unmoved_errorStatus env _)) ?_
  refine keeps_bind ?_ fun failed => ?_
  · exact staysClosed_of_unmoved (keeps_tryCatch
      (keeps_bind (serving_unmoved.keeps_upsertKey _ _ _) fun _ => keeps_pure _) fun _ =>
        keeps_pure _)
  · cases failed with
    | some e => exact staysClosed_of_unmoved (unmoved_errorStatus env _)
    | none =>
      refine keeps_bind (staysClosed_modifyPin id fun _ => ⟨rfl, fun _ => rfl⟩) fun _ => ?_
      exact keeps_bind (staysClosed_of_unmoved (unmoved_disablePairingFlag env)) fun _ =>
        keeps_bind (staysClosed_of_unmoved unmoved_stopPinStatusPoller) fun _ =>
          keeps_bind (staysClosed_of_unmoved (serving_unmoved.keeps_syncKeysFromServer)) fun _ =>
            keeps_bind (staysClosed_of_unmoved (unmoved_ask _)) fun _ => keeps_pure _

theorem staysClosed_handlePinTerminal (status : PinStatus) :
    Keeps (StaysClosed sessionId) (handlePinTerminal status) := by
  refine keeps_bind (Py.keeps_pairing _) fun found => ?_
  cases found with
  | none => exact keeps_pure _
  | some pin =>
    exact keeps_ite (keeps_pure _)
      (keeps_bind (staysClosed_modifyPin _ fun _ => ⟨rfl, fun _ => rfl⟩) fun _ =>
        staysClosed_of_unmoved unmoved_stopPinStatusPoller)

theorem staysClosed_handlePinVerified (status : PinStatus) :
    Keeps (StaysClosed sessionId) (handlePinVerified env status) := by
  refine keeps_ite (keeps_pure _) (keeps_bind (Py.keeps_pairing _) fun pin =>
    keeps_ite (keeps_pure _) ?_)
  refine keeps_bind (staysClosed_of_unmoved (unmoved_ask _)) fun nonce =>
    keeps_bind (staysClosed_of_unmoved ?_) fun derived => ?_
  · exact keeps_tryCatch (keeps_bind (unmoved_deriveSessionKey env _ _ _ _ _) fun _ => keeps_pure _)
      fun _ => keeps_pure _
  · cases derived with
    | none => exact keeps_pure _
    | some s =>
      refine keeps_bind (keeps_staysClosed fun _ => rfl) fun ref =>
        keeps_bind (keeps_staysClosed fun _ => rfl) fun _ => ?_
      exact keeps_bind (staysClosed_modifyPin _ fun _ => ⟨rfl, fun _ => rfl⟩) fun _ =>
        staysClosed_of_unmoved unmoved_stopPinStatusPoller

theorem staysClosed_handlePinStatusUpdate (status : PinStatus) :
    Keeps (StaysClosed sessionId) (handlePinStatusUpdate env status) := by
  refine keeps_bind (Py.keeps_pairing _) fun found => ?_
  cases found with
  | none => exact keeps_pure _
  | some pin =>
    refine keeps_ite (keeps_pure _)
      (keeps_bind (staysClosed_modifyPin _ fun _ => ⟨rfl, fun h => h⟩) fun _ => ?_)
    exact keeps_ite (staysClosed_handlePinVerified status)
      (keeps_ite (staysClosed_handlePinTerminal status) (keeps_pure _))

/-! ### A late answer -/

/-- A session key can be made from a public key, with the vehicle keys there are at some
time. -/
def derivable (env : Platform) (n : ℕ) (publicKey : String) : Bool :=
  (env.loadVehicleKeys n).toOption.isSome &&
    ((loadRemotePublicKey env publicKey).toOption.bind fun key =>
      (env.exchange key).toOption).isSome

theorem exec_deriveSessionKey_of_not_derivable {publicKey : String} {w : World}
    (h : derivable env w.tick publicKey = false) (id token : String) (nonce : Bytes)
    (certificate : Json) :
    ∃ e w', exec (deriveSessionKey env id token nonce publicKey certificate) w =
      (.error e, w') := by
  rw [deriveSessionKey, exec_bind_of_ok (Py.exec_ask w _)]
  rw [derivable] at h
  cases hkeys : env.loadVehicleKeys w.tick with
  | error e => exact ⟨e, _, rfl⟩
  | ok vehicleKey =>
    rw [hkeys] at h
    cases hremote : loadRemotePublicKey env publicKey with
    | error e => exact ⟨e, _, rfl⟩
    | ok remote =>
      rw [hremote] at h
      cases hsecret : env.exchange remote with
      | error e =>
        rw [exec_bind_of_ok (Py.exec_ofExcept_ok _ vehicleKey),
          exec_bind_of_ok (Py.exec_ofExcept_ok _ remote), hsecret]
        exact ⟨e, _, rfl⟩
      | ok secret =>
        have hsome : (Except.toOption (ε := PyError) (.ok remote)).bind
            (fun key => (env.exchange key).toOption) = some secret :=
          congrArg Except.toOption hsecret
        rw [hsome] at h
        cases h

/-- A status makes a PKI session: the PIN was verified, there are a public key and a
token, and a session key can be made. -/
structure Establishes (env : Platform) (w : World) (pin : PinSessionState) (status : PinStatus) :
    Prop where
  state : status.state ∈ pinStatusSuccessStates
  userPublicKey : status.userPublicKey.truthy = true
  pairingToken : (status.pairingToken.or pin.pairingToken).truthy = true
  -- the nonce is asked for before
  derivable : derivable env (w.tick + 1) (pyStr env status.userPublicKey) = true

/-- **A status with nothing to change**: it has no other state and no other token than
the PIN session, and makes no PKI session. -/
structure Harmless (env : Platform) (w : World) (status : PinStatus) : Prop where
  state : ∀ pin, w.pairing.pinSessionState = some pin →
    status.state = "" ∨ status.state = pin.status
  pairingToken : ∀ pin, w.pairing.pinSessionState = some pin →
    status.pairingToken.truthy = false ∨ status.pairingToken = pin.pairingToken
  idle : ∀ pin, w.pairing.pinSessionState = some pin → ¬Establishes env w pin status

/-- **Nothing was changed**: neither the status and the token of the PIN session, nor the
PKI session of the id. -/
structure Untouched (sessionId : String) (w w' : World) : Prop where
  status : w'.pairing.pinSessionState.map PinSessionState.status =
    w.pairing.pinSessionState.map PinSessionState.status
  pairingToken : w'.pairing.pinSessionState.map PinSessionState.pairingToken =
    w.pairing.pinSessionState.map PinSessionState.pairingToken
  pkiSession : w'.pairing.pkiSessions.get? sessionId = w.pairing.pkiSessions.get? sessionId ∧
    (w'.pairing.pkiSessions.get? sessionId).map w'.pairing.sessions.read =
      (w.pairing.pkiSessions.get? sessionId).map w.pairing.sessions.read

instance (sessionId : String) : IsPreorder World (Untouched sessionId) where
  refl _ := ⟨rfl, rfl, rfl, rfl⟩
  trans _ _ _ h h' :=
    ⟨h'.status.trans h.status, h'.pairingToken.trans h.pairingToken,
      h'.pkiSession.1.trans h.pkiSession.1, h'.pkiSession.2.trans h.pkiSession.2⟩

theorem Unmoved.untouched {w w' : World} (h : Unmoved w w') : Untouched sessionId w w' where
  status := by rw [h.pinSessionState]
  pairingToken := by rw [h.pinSessionState]
  pkiSession := by
    rw [h.pkiSessions, h.sessions]
    exact ⟨rfl, rfl⟩

/-- Without a PKI session to make, a verified PIN changes nothing. -/
theorem unmoved_handlePinVerified {w : World} {pin : PinSessionState} {status : PinStatus}
    (hpin : w.pairing.pinSessionState = some pin) (hstate : status.state ∈ pinStatusSuccessStates)
    (hidle : ¬Establishes env w pin status) :
    Unmoved w (exec (handlePinVerified env status) w).2 := by
  rw [handlePinVerified]
  by_cases hkey : status.userPublicKey.truthy
  · rw [if_neg (by simp [hkey]), exec_bind_of_ok (Py.exec_pairing w _), hpin]
    by_cases htoken : (status.pairingToken.or pin.pairingToken).truthy
    · have hunderivable : derivable env (w.tick + 1) (pyStr env status.userPublicKey) = false := by
        rw [← Bool.not_eq_true]
        exact fun h => hidle ⟨hstate, hkey, htoken, h⟩
      dsimp only [Option.map_some, Option.getD_some]
      rw [if_neg (by simp [htoken]), exec_bind_of_ok (Py.exec_ask w _)]
      obtain ⟨e, w', hderive⟩ := exec_deriveSessionKey_of_not_derivable
        (w := { w with tick := w.tick + 1 }) hunderivable status.sessionId
        (pyStr env (status.pairingToken.or pin.pairingToken)) (env.urandom w.tick 16)
        status.userCertificate
      have hquiet : Unmoved { w with tick := w.tick + 1 } w' := by
        have hkeeps := unmoved_deriveSessionKey env status.sessionId
          (pyStr env (status.pairingToken.or pin.pairingToken)) (env.urandom w.tick 16)
          (pyStr env status.userPublicKey) status.userCertificate { w with tick := w.tick + 1 }
        rw [hderive] at hkeeps
        exact hkeeps
      have htry : exec (tryCatch
          (do
            let s ← deriveSessionKey env status.sessionId
              (pyStr env (status.pairingToken.or pin.pairingToken)) (env.urandom w.tick 16)
              (pyStr env status.userPublicKey) status.userCertificate
            pure (some s))
          (fun _ => pure none)) { w with tick := w.tick + 1 } = (.ok none, w') := by
        rw [exec_tryCatch, exec_bind_of_error hderive]
        rfl
      rw [exec_bind_of_ok htry]
      exact ⟨hquiet.sessions, hquiet.pkiSessions, hquiet.pinSessionState⟩
    · dsimp only [Option.map_some, Option.getD_some]
      rw [if_pos (by simp [htoken])]
      exact refl_of Unmoved w
  · rw [if_pos (by simp [hkey])]
    exact refl_of Unmoved w

theorem modifyPin_eq {p : PairingManager} {pin : PinSessionState}
    {f : PinSessionState → PinSessionState} (hpin : p.pinSessionState = some pin)
    (hid : pin.sessionId = sessionId) :
    (p.modifyPin sessionId f).pinSessionState = some (f pin) := by
  rw [PairingManager.modifyPin, hpin, Option.map_some, if_pos hid]

/-- A terminal status of the state that the PIN session has changes nothing. -/
theorem untouched_handlePinTerminal {w : World} {pin : PinSessionState} {status : PinStatus}
    (hpin : w.pairing.pinSessionState = some pin) (hid : pin.sessionId = status.sessionId)
    (hstate : status.state = pin.status) :
    Untouched sessionId w (exec (handlePinTerminal status) w).2 := by
  rw [handlePinTerminal, exec_bind_of_ok (Py.exec_pairing w _), hpin]
  dsimp only
  rw [if_neg (not_not.mpr hid), exec_bind_of_ok (Py.exec_setPairing w _)]
  have hnew := modifyPin_eq (f := fun pin : PinSessionState =>
    { pin with active := false, status := status.state, lastStatusPayload := status.raw }) hpin hid
  refine ⟨?_, ?_, rfl, rfl⟩
  · refine (congrArg (Option.map PinSessionState.status) hnew).trans ?_
    rw [hpin]
    exact congrArg some hstate
  · exact (congrArg (Option.map PinSessionState.pairingToken) hnew).trans (by rw [hpin]; rfl)

/-- **A late answer with nothing to change changes nothing.** -/
theorem untouched_handlePinStatusUpdate {w : World} {status : PinStatus}
    (hclosed : Closed status.sessionId w) (hharmless : Harmless env w status) :
    Untouched sessionId w (exec (handlePinStatusUpdate env status) w).2 := by
  obtain ⟨pin, hpin, hid, -⟩ := hclosed
  rw [handlePinStatusUpdate, exec_bind_of_ok (Py.exec_pairing w _), hpin]
  dsimp only
  rw [if_neg (not_not.mpr hid), exec_bind_of_ok (Py.exec_setPairing w _)]
  obtain ⟨w₁, hw₁⟩ : ∃ w₁ : World, w₁ = { w with
    pairing := w.pairing.modifyPin status.sessionId fun pin => pin.updateFromStatus status } :=
    ⟨_, rfl⟩
  have hpin₁ : w₁.pairing.pinSessionState = some (pin.updateFromStatus status) := by
    rw [hw₁]
    exact modifyPin_eq hpin hid
  have hstatus : (pin.updateFromStatus status).status = pin.status := by
    rcases hharmless.state pin hpin with h | h
    · exact if_pos h
    · rw [PinSessionState.updateFromStatus, h]
      exact ite_self _
  have htoken : (pin.updateFromStatus status).pairingToken = pin.pairingToken := by
    rcases hharmless.pairingToken pin hpin with h | h
    · exact if_neg (by simp [h])
    · rw [PinSessionState.updateFromStatus, Json.or, h]
      exact ite_self _
  have hupdate : Untouched sessionId w w₁ := by
    refine ⟨?_, ?_, ?_⟩
    · rw [hpin₁, hpin, Option.map_some, Option.map_some, hstatus]
    · rw [hpin₁, hpin, Option.map_some, Option.map_some, htoken]
    · rw [hw₁]
      exact ⟨rfl, rfl⟩
  rw [← hw₁]
  refine trans_of (Untouched sessionId) hupdate ?_
  by_cases hsuccess : status.state ∈ pinStatusSuccessStates
  · rw [if_pos hsuccess]
    refine (unmoved_handlePinVerified hpin₁ hsuccess fun hestablishes => ?_).untouched
    refine hharmless.idle pin hpin ⟨hsuccess, hestablishes.userPublicKey, ?_, ?_⟩
    · rw [← htoken]
      exact hestablishes.pairingToken
    · have hderivable := hestablishes.derivable
      rw [hw₁] at hderivable
      exact hderivable
  · rw [if_neg hsuccess]
    by_cases hterminal : status.state ∈ pinStatusTerminalStates
    · rw [if_pos hterminal]
      refine untouched_handlePinTerminal hpin₁ hid ?_
      rw [PinSessionState.updateFromStatus, if_neg]
      intro hempty
      rw [hempty] at hterminal
      exact absurd hterminal (by decide)
    · rw [if_neg hterminal]
      exact refl_of (Untouched sessionId) w₁

/-! ### The two threads -/

/-- What the poller is about to do. -/
inductive Poller where
  /-- Look at the session when its pause is over. -/
  | waiting
  /-- Handle the answer to its request. -/
  | asked
  /-- Handle that the session has expired. -/
  | expired
  | ended
  deriving DecidableEq

/-- The process while it has one PIN session. -/
structure PinThreads where
  world : World
  poller : Poller := .waiting

/-- What happens to a PIN session. -/
inductive PinEvent where
  /-- The poller looks at the session, and at the clock. -/
  | wake (isExpired : Bool)
  /-- The answer to its request comes and is handled. -/
  | response (status : PinStatus)
  /-- Its request fails. -/
  | failed
  /-- It handles that the session has expired. -/
  | expiry
  /-- It finds that it was stopped. -/
  | stop
  /-- The telephone writes a handshake result. -/
  | handshakeResult (payload : Json)
  /-- The telephone writes a key. -/
  | keyStorage (payload : Json)

/-- One event. Only the telephone's writes can happen at any time. -/
def pinStep (env : Platform) (sessionId : String) (t : PinThreads) : PinEvent → Option PinThreads
  | .wake isExpired =>
    if t.poller = .waiting then
      some { t with
        poller :=
          match t.world.pairing.pinSessionState with
          | some pin =>
            if pin.sessionId ≠ sessionId ∨ !pin.active then .ended
            else if isExpired then .expired
            else .asked
          | none => .ended }
    else none
  | .response status =>
    -- the answer is given the session id of the request
    if t.poller = .asked ∧ status.sessionId = sessionId then
      some
        { world := (exec (handlePinStatusUpdate env status) t.world).2
          poller :=
            if status.state ∈ pinStatusSuccessStates ++ pinStatusTerminalStates then .ended
            else .waiting }
    else none
  | .failed => if t.poller = .asked then some { t with poller := .waiting } else none
  | .expiry =>
    if t.poller = .expired then
      some
        { world :=
            match t.world.pairing.pinSessionState with
            | some pin =>
              (exec (handlePinTerminal { expiredStatus pin with sessionId := sessionId }) t.world).2
            | none => t.world
          poller := .ended }
    else none
  | .stop => if t.poller = .waiting then some { t with poller := .ended } else none
  | .handshakeResult payload =>
    some { t with world := (exec (handlePairingHandshake env sessionId payload) t.world).2 }
  | .keyStorage payload =>
    some { t with world := (exec (handlePairingKeyStorage env sessionId payload) t.world).2 }

/-- **No event opens a closed PIN session.** -/
theorem closed_pinStep {t t' : PinThreads} {e : PinEvent} (hclosed : Closed sessionId t.world)
    (hstep : pinStep env sessionId t e = some t') : Closed sessionId t'.world := by
  cases e with
  | wake isExpired =>
    simp only [pinStep, Option.ite_none_right_eq_some, Option.some_inj] at hstep
    obtain ⟨-, rfl⟩ := hstep
    exact hclosed
  | response status =>
    simp only [pinStep, Option.ite_none_right_eq_some, Option.some_inj] at hstep
    obtain ⟨-, rfl⟩ := hstep
    exact staysClosed_handlePinStatusUpdate status _ hclosed
  | failed =>
    simp only [pinStep, Option.ite_none_right_eq_some, Option.some_inj] at hstep
    obtain ⟨-, rfl⟩ := hstep
    exact hclosed
  | expiry =>
    simp only [pinStep, Option.ite_none_right_eq_some, Option.some_inj] at hstep
    obtain ⟨-, rfl⟩ := hstep
    obtain ⟨pin, hpin, -⟩ := id hclosed
    dsimp only
    rw [hpin]
    exact staysClosed_handlePinTerminal _ _ hclosed
  | stop =>
    simp only [pinStep, Option.ite_none_right_eq_some, Option.some_inj] at hstep
    obtain ⟨-, rfl⟩ := hstep
    exact hclosed
  | handshakeResult payload =>
    obtain rfl := Option.some_inj.mp hstep
    exact staysClosed_handlePairingHandshake sessionId payload _ hclosed
  | keyStorage payload =>
    obtain rfl := Option.some_inj.mp hstep
    exact staysClosed_handlePairingKeyStorage sessionId payload _ hclosed

/-- Nor does any run. -/
theorem closed_run {t t' : PinThreads} {es : List PinEvent} (hclosed : Closed sessionId t.world)
    (hrun : Run.run (pinStep env sessionId) t es = some t') : Closed sessionId t'.world :=
  Run.run_induct (P := fun _ t => Closed sessionId t.world) hclosed
    (fun _ _ _ _ _ h hstep => closed_pinStep h hstep) hrun

/-- **A closed PIN session stays closed** in a run: no answer that is handled after it was
closed changes anything. -/
def StaysUntouched (env : Platform) (sessionId : String) (t₀ : PinThreads) (es : List PinEvent) :
    Prop :=
  ∀ before between status after t₁ t₂ t₃,
    es = before ++ between ++ .response status :: after →
      Run.run (pinStep env sessionId) t₀ before = some t₁ → Closed sessionId t₁.world →
        Run.run (pinStep env sessionId) t₁ between = some t₂ →
          pinStep env sessionId t₂ (.response status) = some t₃ →
            Untouched sessionId t₂.world t₃.world

/-- The answers of a run that come when the PIN session is closed have nothing to
change. -/
def Timely (env : Platform) (sessionId : String) (t₀ : PinThreads) (es : List PinEvent) : Prop :=
  ∀ before status after t, es = before ++ .response status :: after →
    Run.run (pinStep env sessionId) t₀ before = some t → Closed sessionId t.world →
      Harmless env t.world status

/-- **When a closed PIN session stays closed**: in a run in which every late answer has
nothing to change. -/
theorem untouched_of_timely {t₀ : PinThreads} {es : List PinEvent}
    (htimely : Timely env sessionId t₀ es) : StaysUntouched env sessionId t₀ es := by
  intro before between status after t₁ t₂ t₃ hes hbefore hclosed hbetween hstep
  have hclosed₂ : Closed sessionId t₂.world := closed_run hclosed hbetween
  have hharmless : Harmless env t₂.world status := by
    refine htimely (before ++ between) status after t₂ hes ?_ hclosed₂
    exact Run.run_append_eq_some.mpr ⟨t₁, hbefore, hbetween⟩
  simp only [pinStep, Option.ite_none_right_eq_some, Option.some_inj] at hstep
  obtain ⟨⟨-, hid⟩, rfl⟩ := hstep
  exact untouched_handlePinStatusUpdate (hid.symm ▸ hclosed₂) hharmless

/-! ### An answer that comes too late -/

/-- The process after a challenge for the session `a`. -/
def challenged : PinThreads := ⟨performAll .plain twoTelephones 0 {} [.challenge], .waiting⟩

/-- The poller asks for the status, and the telephone writes a key before the answer
comes. -/
def keyedMeanwhile : List PinEvent :=
  [.wake false, .keyStorage (.obj [("keyId", .str "k")])]

/-- A late answer that says what is known. -/
def lateEcho : PinStatus := { sessionId := "a", state := "KEY_STORED" }

/-- A late answer that the PIN was verified. -/
def lateSuccess : PinStatus :=
  { sessionId := "a", state := "VERIFIED", userPublicKey := .str "key a" }

/-- The status and whether the session is active. -/
def pinView (t : PinThreads) : Option (String × String × Bool) :=
  t.world.pairing.pinSessionState.map fun pin => (pin.sessionId, pin.status, pin.active)

theorem pinView_keyedMeanwhile :
    (Run.run (pinStep .plain "a") challenged keyedMeanwhile).map pinView =
    some (some ("a", "KEY_STORED", false)) := by
  decide +kernel

theorem lateEcho_untouched :
    StaysUntouched .plain "a" challenged (keyedMeanwhile ++ [.response lateEcho]) := by
  refine untouched_of_timely ?_
  rintro (_ | ⟨e₁, _ | ⟨e₂, _ | ⟨e₃, rest⟩⟩⟩) status after t hes hrun -
  · cases hes
  · cases hes
  · cases hes
    have hview := pinView_keyedMeanwhile
    rw [keyedMeanwhile, hrun, Option.map_some, Option.some_inj, pinView] at hview
    refine ⟨fun pin hpin => Or.inr ?_, fun _ _ => Or.inl rfl, fun _ _ h =>
      absurd h.state (by decide)⟩
    rw [hpin, Option.map_some, Option.some_inj] at hview
    exact (congrArg (fun view => view.2.1) hview).symm
  · simp [keyedMeanwhile] at hes

/-- **A late success changes a closed PIN session.** -/
theorem lateSuccess_touches :
    ¬StaysUntouched .plain "a" challenged (keyedMeanwhile ++ [.response lateSuccess]) := by
  intro huntouched
  have hfinal : (Run.run (pinStep .plain "a") challenged
      (keyedMeanwhile ++ [.response lateSuccess])).map pinView =
      some (some ("a", "VERIFIED", false)) := by
    decide +kernel
  obtain ⟨t₃, hrun, hview₃⟩ := Option.map_eq_some_iff.mp hfinal
  obtain ⟨t₁, hbefore, hlast⟩ := Run.run_append_eq_some.mp hrun
  obtain ⟨t, hstep, hnil⟩ := Run.run_cons_eq_some.mp hlast
  obtain rfl := Option.some_inj.mp hnil
  have hview₁ := pinView_keyedMeanwhile
  rw [hbefore, Option.map_some, Option.some_inj, pinView, Option.map_eq_some_iff] at hview₁
  obtain ⟨pin, hpin, hview⟩ := hview₁
  obtain ⟨hid, hstatus, hactive⟩ : pin.sessionId = "a" ∧ pin.status = "KEY_STORED" ∧
      pin.active = false := by
    simpa using hview
  have hsame := (huntouched keyedMeanwhile [] lateSuccess [] t₁ t₁ t rfl hbefore
    ⟨pin, hpin, hid, hactive⟩ rfl hstep).status
  rw [hpin, Option.map_some, hstatus] at hsame
  rw [pinView, Option.map_eq_some_iff] at hview₃
  obtain ⟨pin₃, hpin₃, hview₃⟩ := hview₃
  rw [hpin₃, Option.map_some, Option.some_inj] at hsame
  rw [hsame] at hview₃
  exact absurd hview₃ (by simp)

end DigitalKey

end VehicleStack
