import Mathlib.Logic.Relation
import VehicleStack.DigitalKey.CommandHandler

/-!
# What the digital key process can do

The handlers are long, but the changes they make to the world are of few kinds.
`VehicleStack.DigitalKey.Step` lists them. A relation that allows those of them which
leave the files of the pairing manager alone, and the two programs that write these
files, is kept by every handler (`VehicleStack.DigitalKey.Routine`), whatever its payload
is and however it ends; `VehicleStack.DigitalKey.Routine.keeps_process` and
`VehicleStack.DigitalKey.Routine.keeps_handlePairingResult` say so of a write. One such
relation is `VehicleStack.DigitalKey.Acts`, any number of steps, so what holds of every
run is a matter of these steps.

What leaves the pairing manager alone, the commands and the key store, is kept by more
relations (`VehicleStack.DigitalKey.Serving`), also by those that say what happens to the
sessions.

The one step with a condition is the dispatch of a command other than `GET_ALL`:
the key it is given for is in the store at that moment.
-/

namespace VehicleStack

namespace DigitalKey

open Effect

/-- A change the handlers make. -/
inductive Step : World → World → Prop where
  /-- The world is asked for something. -/
  | ask (w : World) (n : ℕ) : Step w { w with tick := n }
  /-- Sessions, handshakes and the PIN session change. -/
  | pair (w : World) (p : PairingManager) : Step w { w with pairing := p }
  /-- A signature is accepted. -/
  | accept (w : World) (sessionId keyPem : String) :
    Step w { w with trace := w.trace ++ [.signatureAccepted sessionId keyPem] }
  /-- A key is put into the store. -/
  | put (w : World) (source : Source) (key : DictKey) (keyId payload : Json) :
    Step w
      { w with
        store := w.store.put key keyId payload
        trace := w.trace ++ [.stored source key] }
  /-- The keys of the server replace the store. -/
  | sync (w : World) (data : Dict String Json) :
    Step w
      { w with
        store := { w.store with keys := asKeys data }
        trace := w.trace ++ [.synced (data.keys.filter fun k => ¬ w.store.Has (.str k))] }
  /-- The file of the store is written. -/
  | write (w : World) (file : FileText) : Step w { w with store := { w.store with file := file } }
  /-- The vehicle is asked for its state. -/
  | query (w : World) (keyId : String) :
    Step w { w with trace := w.trace ++ [.dispatched "GET_ALL" keyId] }
  /-- A command is sent for a key in the store. -/
  | dispatch (w : World) (command keyId : String) (hkey : w.store.Has (.str keyId)) :
    Step w { w with trace := w.trace ++ [.dispatched command keyId] }

/-- Any number of steps. -/
abbrev Acts : World → World → Prop := Relation.ReflTransGen Step

/-- The store and the files of the pairing manager are as they were, and the world may have
been asked for something. -/
structure Aside (w w' : World) : Prop where
  store : w'.store = w.store
  pkiFile : w'.pairing.pkiFile = w.pairing.pkiFile
  pairingFlag : w'.pairing.pairingFlag = w.pairing.pairingFlag
  tick_le : w.tick ≤ w'.tick

/-- A relation that allows what happens away from the store: the steps that leave it and the
files of the pairing manager alone, and the export of a session. -/
structure Storeless (env : Platform) (R : World → World → Prop) : Prop where
  step : ∀ {w w'}, Step w w' → Aside w w' → R w w'
  keeps_exportPkiSessionState : Keeps R (exportPkiSessionState env)

/-- A relation that allows the changes of the store as well. The keys of the server only
replace the store if there are any. -/
structure Routine (env : Platform) (R : World → World → Prop) : Prop extends Storeless env R where
  put : ∀ w source key keyId payload,
    R w
      { w with
        store := w.store.put key keyId payload
        trace := w.trace ++ [.stored source key] }
  sync : ∀ (w : World) (data : Dict String Json), data.entries ≠ [] →
    R w
      { w with
        store := { w.store with keys := asKeys data }
        trace := w.trace ++ [.synced (data.keys.filter fun k => ¬ w.store.Has (.str k))] }
  write : ∀ (w : World) (file : FileText),
    R w { w with store := { w.store with file := file } }

/-- A relation that allows what leaves the pairing manager alone: the world is asked for
something, commands are sent, and the store changes. -/
structure Serving (R : World → World → Prop) : Prop where
  ask : ∀ w : World, R w { w with tick := w.tick + 1 }
  query : ∀ (w : World) (keyId : String),
    R w { w with trace := w.trace ++ [.dispatched "GET_ALL" keyId] }
  dispatch : ∀ (w : World) (command keyId : String), w.store.Has (.str keyId) →
    R w { w with trace := w.trace ++ [.dispatched command keyId] }
  put : ∀ w source key keyId payload,
    R w
      { w with
        store := w.store.put key keyId payload
        trace := w.trace ++ [.stored source key] }
  sync : ∀ (w : World) (data : Dict String Json), data.entries ≠ [] →
    R w
      { w with
        store := { w.store with keys := asKeys data }
        trace := w.trace ++ [.synced (data.keys.filter fun k => ¬ w.store.Has (.str k))] }
  write : ∀ (w : World) (file : FileText),
    R w { w with store := { w.store with file := file } }

variable {α : Type} {R : World → World → Prop} [IsPreorder World R]

/-! ### What only reads -/

namespace Py

theorem keeps_ofExcept (x : Except PyError α) : Keeps R (Py.ofExcept x) := by
  cases x with
  | ok a => exact keeps_pure a
  | error e => exact keeps_throw e

theorem keeps_when {condition : Bool} {x : Py Unit} (hx : Keeps R x) :
    Keeps R (Py.when condition x) :=
  keeps_ite hx (keeps_pure _)

theorem keeps_pairing (f : PairingManager → α) : Keeps R (Py.pairing f) :=
  keeps_bind keeps_get fun _ => keeps_pure _

theorem keeps_session (ref : ℕ) : Keeps R (Py.session ref) := keeps_pairing _

theorem keeps_context (ref : ℕ) : Keeps R (Py.context ref) := keeps_pairing _

theorem keeps_getPkiSessionState (sessionId : String) : Keeps R (getPkiSessionState sessionId) :=
  keeps_pairing _

theorem keeps_knowsKey (keyId : String) : Keeps R (knowsKey keyId) :=
  keeps_bind keeps_get fun _ => keeps_pure _

theorem keeps_decodeInner (env : Platform) (what : String) (plaintext : Bytes) :
    Keeps R (decodeInner env what plaintext) := by
  unfold decodeInner
  cases env.loads plaintext with
  | ok inner => exact keeps_pure _
  | error e => exact keeps_ite (keeps_throw _) (keeps_throw _)

end Py

/-! ### What only asks the world -/

namespace Py

variable {env : Platform} (hask : ∀ w : World, R w { w with tick := w.tick + 1 })

include hask

theorem keeps_ask (answer : ℕ → α) : Keeps R (Py.ask answer) :=
  keeps_bind keeps_get fun _ => keeps_bind (keeps_modify hask) fun _ => keeps_pure _

theorem keeps_deriveSessionKey (sessionId pairingToken : String) (nonce : Bytes)
    (remote : String) (certificate : Json) :
    Keeps R (deriveSessionKey env sessionId pairingToken nonce remote certificate) :=
  keeps_bind (keeps_ask hask _) fun _ => keeps_bind (keeps_ofExcept _) fun _ =>
    keeps_bind (keeps_ofExcept _) fun _ => keeps_bind (keeps_ofExcept _) fun _ =>
      keeps_bind (keeps_ask hask _) fun _ => keeps_pure _

theorem keeps_encryptPayload (key plaintext : Bytes) (inline : Bool) :
    Keeps R (encryptPayload env key plaintext inline) :=
  keeps_bind (keeps_ask hask _) fun _ => keeps_bind (keeps_ofExcept _) fun _ => keeps_pure _

theorem keeps_signVehicleResponse (sessionId encrypted : String) (now : ℤ)
    (nonce : Option String) :
    Keeps R (signVehicleResponse env sessionId encrypted now nonce) :=
  keeps_bind (keeps_ask hask _) fun _ => keeps_bind (keeps_ofExcept _) fun _ =>
    keeps_bind (keeps_ask hask _) fun _ => keeps_bind (keeps_ofExcept _) fun _ => keeps_pure _

theorem keeps_errorStatus (members : List (String × Json)) :
    Keeps R (errorStatus env members) :=
  keeps_bind (keeps_ask hask _) fun _ => keeps_pure _

theorem keeps_handshakeSession (sessionId : String) :
    Keeps R (handshakeSession env sessionId) := by
  refine keeps_ite (keeps_pure _) (keeps_bind (keeps_pairing _) fun pending => ?_)
  cases pending with
  | some ref => exact keeps_bind (keeps_context ref) fun _ => keeps_pure _
  | none =>
    refine keeps_bind (keeps_pairing _) fun last => ?_
    cases last with
    | cons s _ => exact keeps_pure s
    | nil => exact keeps_ask hask _

theorem keeps_handleCertRequest (payload : Json) : Keeps R (handleCertRequest env payload) := by
  unfold handleCertRequest
  split
  · exact keeps_throw _
  · exact keeps_bind (keeps_ask hask _) fun _ => keeps_bind (keeps_ofExcept _) fun _ =>
      keeps_bind (keeps_ask hask _) fun _ => keeps_bind (keeps_ofExcept _) fun _ =>
        keeps_bind (keeps_ofExcept _) fun _ => keeps_pure _

end Py

/-! ### Keys that are looked up -/

theorem returns_knowsKey (keyId : String) (w : World) :
    Returns (fun known w => known = true → w.store.Has (.str keyId)) (knowsKey keyId) w := by
  rintro known w' ⟨⟩ hknown
  obtain ⟨payload, hpayload, -⟩ := (Option.any_eq_true _ _).mp hknown
  exact has_of_getKey hpayload

/-- A key that was required is in the store. -/
theorem returns_requireKey (env : Platform) (keyId : String) (w : World) :
    Returns (fun _ w => w.store.Has (.str keyId)) (requireKey env keyId) w := by
  have hlookup : ∀ (e : PyError) (w : World),
      Returns (fun _ w => w.store.Has (.str keyId))
        (knowsKey keyId >>= fun known => if known then pure () else throw e) w := fun e w =>
    returns_bind (returns_knowsKey keyId w) fun known w h =>
      returns_ite (fun hknown => returns_pure (h hknown)) fun _ => returns_throw e w
  refine returns_bind (returns_knowsKey keyId w) fun known w h => ?_
  refine returns_ite (fun hknown => returns_pure (h hknown)) fun _ => ?_
  exact returns_bind (returns_true _ w) fun synced w _ => hlookup _ w

theorem returns_commandTimestamp (env : Platform) (command keyId : String) (payload : Json)
    (w : World) :
    Returns (fun _ w => command = "GET_ALL" ∨ w.store.Has (.str keyId))
      (commandTimestamp env command keyId payload) w := by
  refine returns_ite (fun _ => ?_) fun hall => ?_
  · refine returns_bind (returns_true _ w) fun _ w _ => returns_bind (returns_true _ w) fun _ w _ =>
      returns_ite (fun _ => returns_throw _ w) fun _ => ?_
    refine returns_bind (returns_requireKey env keyId w) fun _ w hkey => ?_
    exact returns_ite (fun _ => returns_throw _ w) fun _ => returns_pure (Or.inr hkey)
  · exact fun _ _ _ => Or.inl (not_not.mp hall)

namespace Serving

variable {env : Platform} (hR : Serving R)

include hR

/-! ### The key store -/

theorem keeps_flush : Keeps R (flush env) := by
  refine keeps_bind keeps_get fun w => keeps_ite ?_ (keeps_throw _)
  refine keeps_bind (Py.keeps_ask hR.ask _) fun result => ?_
  cases result with
  -- the file takes the store's members, or is left empty by a failed write
  | written => exact keeps_modify fun w => hR.write w _
  | refused message => exact keeps_throw _
  | truncated message =>
    exact keeps_bind (keeps_modify fun w => hR.write w _) fun _ => keeps_throw _

theorem keeps_upsertKey (source : Source) (keyId payload : Json) :
    Keeps R (upsertKey env source keyId payload) :=
  keeps_bind (Py.keeps_ofExcept _) fun key =>
    keeps_bind (keeps_modify fun w => hR.put w source key keyId payload) fun _ =>
      hR.keeps_flush

theorem keeps_replaceAll {data : Dict String Json} (hdata : data.entries ≠ []) :
    Keeps R (replaceAll env data) :=
  keeps_bind (keeps_modify fun w => hR.sync w data hdata) fun _ => hR.keeps_flush

theorem keeps_syncKeysFromServer : Keeps R (syncKeysFromServer env) := by
  refine keeps_ite (keeps_bind (Py.keeps_ask hR.ask _) fun answer => ?_) (keeps_pure _)
  cases answer with
  | error e => exact keeps_ite (keeps_pure _) (keeps_throw _)
  | ok entries =>
    refine keeps_bind (Py.keeps_ofExcept _) fun mapping w => ?_
    refine rel_exec_ite (fun _ => keeps_pure _ w) fun hmapping => ?_
    exact keeps_bind (hR.keeps_replaceAll fun h => hmapping (List.isEmpty_iff.mpr h))
      (fun _ => keeps_pure _) w

/-! ### Vehicle commands -/

theorem keeps_requireKey (keyId : String) : Keeps R (requireKey env keyId) := by
  refine keeps_bind (Py.keeps_knowsKey keyId) fun _ => keeps_ite (keeps_pure _) ?_
  exact keeps_bind hR.keeps_syncKeysFromServer fun _ =>
    keeps_bind (Py.keeps_knowsKey keyId) fun _ => keeps_ite (keeps_pure _) (keeps_throw _)

theorem keeps_commandTimestamp (command keyId : String) (payload : Json) :
    Keeps R (commandTimestamp env command keyId payload) := by
  refine keeps_ite ?_ (Py.keeps_ask hR.ask _)
  refine keeps_bind (Py.keeps_ofExcept _) fun _ => keeps_bind (Py.keeps_ofExcept _) fun _ =>
    keeps_ite (keeps_throw _) ?_
  exact keeps_bind (hR.keeps_requireKey keyId) fun _ => keeps_ite (keeps_throw _) (keeps_pure _)

/-- Sending a command keeps the relation if it needs no key or has one. -/
theorem keeps_dispatchIpcCommand {command keyId : String} {w : World}
    (h : command = "GET_ALL" ∨ w.store.Has (.str keyId)) :
    R w (exec (dispatchIpcCommand env command keyId) w).2 := by
  unfold dispatchIpcCommand
  split
  · exact refl_of R w
  · refine rel_exec_bind ?_ (returns_true _ w) fun _ _ _ =>
      keeps_bind (Py.keeps_ask hR.ask _) (fun answer => ?_) _
    · rcases h with rfl | hkey
      · exact hR.query w keyId
      · exact hR.dispatch w command keyId hkey
    · cases answer with
      | error e => exact keeps_pure _
      | ok reply => exact keeps_ite (keeps_pure _) (keeps_pure _)

theorem keeps_vehicleStateAfter (command keyId : String) (reply : List (String × Json)) :
    Keeps R (vehicleStateAfter env command keyId reply) := by
  refine keeps_ite (keeps_bind ?_ fun _ => keeps_pure _) (keeps_pure _)
  -- what is sent here is `GET_ALL`, which needs no key
  exact fun w => hR.keeps_dispatchIpcCommand (Or.inl rfl)

theorem keeps_dispatchCommand {command keyId : String} (timestamp : ℤ) {w : World}
    (h : command = "GET_ALL" ∨ w.store.Has (.str keyId)) :
    R w (exec (dispatchCommand env command keyId timestamp) w).2 := by
  refine rel_exec_bind (hR.keeps_dispatchIpcCommand h) (returns_true _ w)
    fun reply _ _ => ?_
  refine keeps_ite (keeps_bind (Py.keeps_ask hR.ask _) fun _ => keeps_pure _) ?_ _
  exact keeps_bind (hR.keeps_vehicleStateAfter command keyId reply.2) fun _ =>
    keeps_bind (Py.keeps_ask hR.ask _) fun _ => keeps_pure _

/-- **A vehicle command is only sent for a key in the store.** -/
theorem keeps_handleVehicleCommand (command : String) (payload : Json) :
    Keeps R (handleVehicleCommand env command payload) := by
  refine keeps_bind (Py.keeps_ofExcept _) fun given => ?_
  exact keeps_bind_of_returns (hR.keeps_commandTimestamp command _ payload)
    (returns_commandTimestamp env command _ payload) fun timestamp _ =>
      hR.keeps_dispatchCommand timestamp

theorem keeps_maybeStoreKeyFromCertificate (certificate : Json) :
    Keeps R (maybeStoreKeyFromCertificate env certificate) := by
  refine keeps_bind (Py.keeps_ofExcept _) fun _ => Py.keeps_when ?_
  refine keeps_bind (Py.keeps_knowsKey _) fun _ => Py.keeps_when ?_
  refine keeps_bind (Py.keeps_ofExcept _) fun _ => keeps_bind (Py.keeps_ofExcept _) fun _ =>
    keeps_bind (Py.keeps_ofExcept _) fun _ => keeps_bind (Py.keeps_ask hR.ask _) fun _ => ?_
  exact keeps_tryCatch (hR.keeps_upsertKey _ _ _) fun _ => keeps_pure _

end Serving

namespace Storeless

variable {env : Platform} (hR : Storeless env R)

include hR

/-! ### The small programs -/

omit [IsPreorder World R] in
theorem ask (w : World) : R w { w with tick := w.tick + 1 } :=
  hR.step (.ask w _) ⟨rfl, rfl, rfl, Nat.le_succ _⟩

theorem keeps_ask (answer : ℕ → α) : Keeps R (Py.ask answer) := Py.keeps_ask hR.ask answer

omit [IsPreorder World R] in
/-- A change of the manager that leaves its files alone. -/
theorem keeps_setPairing {f : PairingManager → PairingManager}
    (hf : ∀ p, (f p).pkiFile = p.pkiFile ∧ (f p).pairingFlag = p.pairingFlag) :
    Keeps R (Py.setPairing f) :=
  keeps_modify fun w => hR.step (.pair w _) ⟨rfl, (hf w.pairing).1, (hf w.pairing).2, le_rfl⟩

omit [IsPreorder World R] in
theorem keeps_setSession (ref : ℕ) (f : PkiSessionState → PkiSessionState) :
    Keeps R (Py.setSession ref f) := hR.keeps_setPairing fun _ => ⟨rfl, rfl⟩

theorem keeps_newSession (s : PkiSessionState) : Keeps R (Py.newSession s) :=
  keeps_bind (Py.keeps_pairing _) fun _ =>
    keeps_bind (hR.keeps_setPairing fun _ => ⟨rfl, rfl⟩) fun _ => keeps_pure _

omit [IsPreorder World R] in
theorem keeps_setContext (ref : ℕ) (f : PkiHandshakeContext → PkiHandshakeContext) :
    Keeps R (Py.setContext ref f) := hR.keeps_setPairing fun _ => ⟨rfl, rfl⟩

theorem keeps_newContext (c : PkiHandshakeContext) : Keeps R (Py.newContext c) :=
  keeps_bind (Py.keeps_pairing _) fun _ =>
    keeps_bind (hR.keeps_setPairing fun _ => ⟨rfl, rfl⟩) fun _ => keeps_pure _

/-! ### Sessions -/

theorem keeps_deriveSessionKey (sessionId pairingToken : String) (nonce : Bytes)
    (remote : String) (certificate : Json) :
    Keeps R (deriveSessionKey env sessionId pairingToken nonce remote certificate) :=
  Py.keeps_deriveSessionKey hR.ask _ _ _ _ _

theorem keeps_verifySignature (ref : ℕ) (signature message : Bytes) (keys : List String) :
    Keeps R (verifySignature env ref signature message keys) := by
  induction keys with
  | nil => exact keeps_throw _
  | cons key keys ih =>
    -- the key is accepted, or the next one is tried, or the loop raises
    rw [verifySignature]
    split
    · exact keeps_bind (Py.keeps_session ref) fun state =>
        keeps_bind (keeps_modify fun w => hR.step (.accept w _ _) ⟨rfl, rfl, rfl, le_rfl⟩) fun _ =>
          hR.keeps_setSession ref _
    · exact keeps_ite ih (keeps_throw _)

theorem keeps_finalizeSessionState (ref : ℕ) (clientNonce signature : Json)
    (payload : Option Json) :
    Keeps R (finalizeSessionState env ref clientNonce signature payload) := by
  refine keeps_bind (Py.keeps_when ?_) fun _ => Py.keeps_when ?_
  · exact keeps_bind (Py.keeps_ofExcept _) fun _ => hR.keeps_setSession ref _
  · exact keeps_bind (Py.keeps_session ref) fun _ => keeps_bind (Py.keeps_ofExcept _) fun _ =>
      keeps_bind (Py.keeps_ofExcept _) fun _ => hR.keeps_verifySignature ref _ _ _

theorem keeps_encryptPayload (key plaintext : Bytes) (inline : Bool) :
    Keeps R (encryptPayload env key plaintext inline) :=
  Py.keeps_encryptPayload hR.ask _ _ _

theorem keeps_signVehicleResponse (sessionId encrypted : String) (now : ℤ)
    (nonce : Option String) :
    Keeps R (signVehicleResponse env sessionId encrypted now nonce) :=
  Py.keeps_signVehicleResponse hR.ask _ _ _ _

theorem keeps_errorStatus (members : List (String × Json)) :
    Keeps R (errorStatus env members) :=
  Py.keeps_errorStatus hR.ask _

omit [IsPreorder World R] in
theorem keeps_stopPinStatusPoller : Keeps R stopPinStatusPoller :=
  hR.keeps_setPairing fun _ => ⟨rfl, rfl⟩

theorem keeps_handlePairingHandshake (sessionId : String) (payload : Json) :
    Keeps R (handlePairingHandshake env sessionId payload) := by
  refine keeps_bind (Py.keeps_pairing _) fun found => ?_
  cases found with
  | none => exact hR.keeps_errorStatus _
  | some ref =>
    refine keeps_bind (Py.keeps_session ref) fun _ => keeps_ite (hR.keeps_errorStatus _) ?_
    refine keeps_bind (Py.keeps_ofExcept _) fun _ => keeps_bind (Py.keeps_ofExcept _) fun _ =>
      keeps_bind ?_ fun verified => ?_
    · exact keeps_tryCatch (keeps_bind (hR.keeps_finalizeSessionState ref _ _ _) fun _ =>
        keeps_pure _) fun _ => keeps_ite (keeps_pure _) (keeps_throw _)
    cases verified with
    | some e => exact hR.keeps_errorStatus _
    | none =>
      exact keeps_bind (Py.keeps_session ref) fun _ =>
        keeps_bind (hR.keeps_setPairing fun _ => ⟨rfl, rfl⟩) fun _ =>
          keeps_bind hR.keeps_stopPinStatusPoller fun _ =>
            keeps_bind hR.keeps_exportPkiSessionState fun _ =>
              keeps_bind hR.keeps_exportPkiSessionState fun _ =>
                keeps_bind (Py.keeps_session ref) fun _ =>
                  keeps_bind (hR.keeps_ask _) fun _ => keeps_pure _

/-! ### Handshakes, certificates, seeds and recoveries -/

theorem keeps_updateHandshakeContext (sessionId userKey vehicleKey : String)
    (token nonce : Json) :
    Keeps R (updateHandshakeContext env sessionId userKey vehicleKey token nonce) := by
  refine keeps_bind (hR.keeps_ask _) fun _ => keeps_bind (Py.keeps_pairing _) fun found => ?_
  cases found with
  | none => exact hR.keeps_newContext _
  | some ref => exact keeps_bind (hR.keeps_setContext ref _) fun _ => keeps_pure ref

theorem keeps_rememberClientNonce (ref : ℕ) (nonce : Json) :
    Keeps R (rememberClientNonce env ref nonce) := by
  unfold rememberClientNonce
  cases pyB64decode env nonce with
  | ok bytes => exact hR.keeps_setSession ref _
  | error e => exact keeps_ite (keeps_pure _) (keeps_throw _)

theorem keeps_applyHandshake (sessionId : String) (contextRef : ℕ) :
    Keeps R (applyHandshake env sessionId contextRef) := by
  refine keeps_bind (Py.keeps_pairing _) fun found => ?_
  cases found with
  | none => exact keeps_pure _
  | some ref =>
    exact keeps_bind (Py.keeps_context _) fun _ =>
      keeps_bind (Py.keeps_when (hR.keeps_setSession ref _)) fun _ =>
      keeps_bind (Py.keeps_when (hR.keeps_rememberClientNonce ref _)) fun _ =>
        keeps_bind (hR.keeps_setPairing fun _ => ⟨rfl, rfl⟩) fun _ => hR.keeps_exportPkiSessionState

theorem keeps_beginPkiHandshake (sessionId clientKey : String) (token nonce version : Json) :
    Keeps R (beginPkiHandshake env sessionId clientKey token nonce version) := by
  refine keeps_ite (keeps_throw _)
    (keeps_bind (Py.keeps_handshakeSession hR.ask sessionId) fun session => ?_)
  refine keeps_bind (hR.keeps_ask _) fun _ => keeps_bind (Py.keeps_ofExcept _) fun vehicleKey => ?_
  exact keeps_bind (hR.keeps_updateHandshakeContext session _ vehicleKey token nonce) fun _ =>
    keeps_bind (hR.keeps_setPairing fun _ => ⟨rfl, rfl⟩) fun _ =>
      keeps_bind (hR.keeps_applyHandshake session _) fun _ =>
        keeps_bind (Py.keeps_context _) fun _ => keeps_pure _

theorem keeps_applyCertificate (sessionId publicKey : String) (pem : Option String) :
    Keeps R (applyCertificate env sessionId publicKey pem) := by
  refine keeps_bind (Py.keeps_pairing _) fun found => ?_
  cases found with
  | none => exact keeps_pure _
  | some ref =>
    exact keeps_bind (Py.keeps_when (hR.keeps_setSession ref _)) fun _ =>
      keeps_bind (Py.keeps_when (hR.keeps_setSession ref _)) fun _ =>
        keeps_bind (hR.keeps_setPairing fun _ => ⟨rfl, rfl⟩) fun _ => hR.keeps_exportPkiSessionState

theorem keeps_seedContext (sessionId : String) (token nonce : Json) :
    Keeps R (seedContext env sessionId token nonce) := by
  refine keeps_bind (Py.keeps_pairing _) fun found => ?_
  cases found with
  | some ref => exact keeps_pure ref
  | none =>
    refine keeps_bind (Py.keeps_pairing _) fun pending => ?_
    cases pending with
    | some ref => exact keeps_pure ref
    | none =>
      exact keeps_bind (hR.keeps_ask _) fun _ => keeps_bind (Py.keeps_ofExcept _) fun _ =>
        keeps_bind (hR.keeps_ask _) fun _ => keeps_bind (hR.keeps_newContext _) fun _ =>
          keeps_bind (hR.keeps_setPairing fun _ => ⟨rfl, rfl⟩) fun _ => keeps_pure _

theorem keeps_seedPkiSession (sessionId sessionKey : String)
    (token clientNonce serverNonce expiresAt : Json) :
    Keeps R
      (seedPkiSession env sessionId sessionKey token clientNonce serverNonce expiresAt) := by
  refine keeps_ite (keeps_throw _) (keeps_ite (keeps_throw _) (keeps_ite (keeps_throw _) ?_))
  refine keeps_bind (hR.keeps_seedContext sessionId token clientNonce) fun _ =>
    keeps_bind (Py.keeps_context _) fun _ => keeps_bind (Py.keeps_pairing _) fun _ =>
      keeps_bind (hR.keeps_ask _) fun _ => keeps_bind (Py.keeps_ofExcept _) fun _ =>
        keeps_bind (Py.keeps_ofExcept _) fun _ => keeps_bind (Py.keeps_ofExcept _) fun _ => ?_
  exact keeps_bind (hR.keeps_newSession _) fun _ =>
    keeps_bind (hR.keeps_setPairing fun _ => ⟨rfl, rfl⟩) fun _ =>
      keeps_bind hR.keeps_exportPkiSessionState fun _ => keeps_ite (keeps_pure _) (keeps_pure _)

theorem keeps_recoverPkiSession (sessionId : String) (payload : Json) :
    Keeps R (recoverPkiSession env sessionId payload) := by
  refine keeps_bind (Py.keeps_ofExcept _) fun material =>
    keeps_bind (Py.keeps_ofExcept _) fun remote => ?_
  cases remote with
  | none => exact keeps_pure _
  | some key =>
    refine keeps_bind (Py.keeps_pairing _) fun _ => keeps_bind (Py.keeps_pairing _) fun template =>
      keeps_bind (Py.keeps_pairing _) fun pin => keeps_bind (Py.keeps_pairing _) fun cached => ?_
    dsimp only
    split
    · refine keeps_bind (hR.keeps_ask _) fun _ => keeps_bind (Py.keeps_ofExcept _) fun _ =>
        keeps_bind ?_ fun derived => ?_
      · exact keeps_tryCatch (keeps_bind (hR.keeps_deriveSessionKey _ _ _ _ _) fun _ =>
          keeps_pure _) fun _ => keeps_pure _
      cases derived with
      | none => exact keeps_pure _
      | some s =>
        exact keeps_bind (hR.keeps_newSession _) fun _ =>
          keeps_bind (hR.keeps_setPairing fun _ => ⟨rfl, rfl⟩) fun _ =>
            keeps_bind hR.keeps_exportPkiSessionState fun _ => keeps_pure _
    · exact keeps_pure _

/-! ### Commands -/

theorem keeps_refreshCertificateMaterial (ref : ℕ) (certificate : Json) :
    Keeps R (refreshCertificateMaterial env ref certificate) := by
  refine Py.keeps_when (keeps_bind (Py.keeps_ofExcept _) fun _ =>
    keeps_bind (Py.keeps_ofExcept _) fun _ => keeps_bind (Py.keeps_ofExcept _) fun _ => ?_)
  exact keeps_bind (Py.keeps_when (hR.keeps_setSession ref _)) fun _ =>
    Py.keeps_when (hR.keeps_setSession ref _)

theorem keeps_commandSession (sessionId : String) (certificate : Json) :
    Keeps R (commandSession env sessionId certificate) := by
  refine keeps_bind (Py.keeps_getPkiSessionState sessionId) fun found => ?_
  cases found with
  | some ref => exact keeps_pure _
  | none => exact hR.keeps_recoverPkiSession sessionId certificate

/-! ### Typed requests -/

theorem keeps_handlePkiHandshake (payload : Json) :
    Keeps R (handlePkiHandshake env payload) := by
  refine keeps_bind (Py.keeps_ofExcept _) fun _ => keeps_bind (Py.keeps_ofExcept _) fun _ =>
    keeps_bind (Py.keeps_ofExcept _) fun _ => keeps_bind (Py.keeps_ofExcept _) fun _ =>
      keeps_bind (Py.keeps_ofExcept _) fun _ => ?_
  exact keeps_bind (hR.keeps_beginPkiHandshake _ _ _ _ _) fun _ => keeps_pure _

theorem keeps_handlePkiSessionSeed (payload : Json) :
    Keeps R (handlePkiSessionSeed env payload) := by
  refine keeps_bind (Py.keeps_ofExcept _) fun _ => keeps_bind (Py.keeps_ofExcept _) fun _ =>
    keeps_bind (Py.keeps_ofExcept _) fun _ => keeps_bind (Py.keeps_ofExcept _) fun _ =>
      keeps_bind (Py.keeps_ofExcept _) fun _ => keeps_bind (Py.keeps_ofExcept _) fun _ =>
        keeps_bind (Py.keeps_ofExcept _) fun _ => ?_
  exact keeps_bind (hR.keeps_seedPkiSession _ _ _ _ _ _) fun _ => keeps_pure _

end Storeless

namespace Routine

variable {env : Platform} (hR : Routine env R)

include hR

omit [IsPreorder World R] in
theorem serving : Serving R where
  ask := hR.ask
  query w keyId := hR.step (.query w keyId) ⟨rfl, rfl, rfl, le_rfl⟩
  dispatch w command keyId hkey := hR.step (.dispatch w command keyId hkey) ⟨rfl, rfl, rfl, le_rfl⟩
  put := hR.put
  sync := hR.sync
  write := hR.write

/-! ### Pairing results -/

theorem keeps_handlePairingKeyStorage (hdisable : Keeps R (disablePairingFlag env))
    (sessionId : String) (payload : Json) :
    Keeps R (handlePairingKeyStorage env sessionId payload) := by
  refine keeps_bind (Py.keeps_ofExcept _) fun _ => keeps_ite (hR.keeps_errorStatus _) ?_
  refine keeps_bind ?_ fun failed => ?_
  · refine keeps_tryCatch ?_ fun _ => keeps_pure _
    exact keeps_bind (hR.serving.keeps_upsertKey _ _ _) fun _ => keeps_pure _
  cases failed with
  | some e => exact hR.keeps_errorStatus _
  | none =>
    exact keeps_bind (hR.keeps_setPairing fun _ => ⟨rfl, rfl⟩) fun _ => keeps_bind hdisable fun _ =>
      keeps_bind hR.keeps_stopPinStatusPoller fun _ =>
        keeps_bind hR.serving.keeps_syncKeysFromServer fun _ =>
          keeps_bind (hR.keeps_ask _) fun _ => keeps_pure _

/-- **A pairing result** keeps the relation. -/
theorem keeps_handlePairingResult (hdisable : Keeps R (disablePairingFlag env)) (payload : Json) :
    Keeps R (handlePairingResult env payload) := by
  refine keeps_bind (Py.keeps_ofExcept _) fun _ => keeps_bind (Py.keeps_pairing _) fun _ =>
    keeps_ite (hR.keeps_errorStatus _) ?_
  refine keeps_ite (hR.keeps_handlePairingHandshake _ payload) (keeps_ite ?_ ?_)
  · exact hR.keeps_handlePairingKeyStorage hdisable _ payload
  · exact hR.keeps_errorStatus _

/-! ### Certificates -/

theorem keeps_storePkiCertificate (sessionId : String) (payload : Json) :
    Keeps R (storePkiCertificate env sessionId payload) := by
  refine keeps_ite (keeps_throw _) (keeps_bind (Py.keeps_pairing _) fun found => ?_)
  cases found with
  | none => exact keeps_throw _
  | some contextRef =>
    refine keeps_bind (Py.keeps_ofExcept _) fun material =>
      keeps_bind (hR.keeps_setContext contextRef _) fun _ =>
        keeps_bind (Py.keeps_ofExcept _) fun keyId => keeps_bind (hR.keeps_ask _) fun _ =>
          keeps_bind (Py.keeps_ofExcept _) fun keyPayload =>
            keeps_bind (Py.keeps_when ?_) fun _ => ?_
    · exact keeps_tryCatch (hR.serving.keeps_upsertKey _ _ _) fun _ => keeps_pure _
    · exact keeps_bind (hR.keeps_setPairing fun _ => ⟨rfl, rfl⟩) fun _ =>
        keeps_bind (hR.keeps_applyCertificate sessionId _ _) fun _ => keeps_pure _

section Inner

variable {inner : Json → Py Answer} (hinner : ∀ payload, Keeps R (inner payload))

include hinner

theorem keeps_handleSecureCommand (payload : Json) :
    Keeps R (handleSecureCommand env inner payload) := by
  refine keeps_bind (Py.keeps_ofExcept _) fun _ => keeps_ite (keeps_throw _) ?_
  refine keeps_bind (Py.keeps_ofExcept _) fun _ => keeps_ite (keeps_throw _) ?_
  refine keeps_bind (Py.keeps_getPkiSessionState _) fun found => ?_
  cases found with
  | none => exact keeps_throw _
  | some ref =>
    refine keeps_bind (Py.keeps_session ref) fun _ => keeps_ite (keeps_throw _) ?_
    refine keeps_bind (Py.keeps_ofExcept _) fun _ => keeps_bind (Py.keeps_ofExcept _) fun _ =>
      keeps_bind (Py.keeps_decodeInner env _ _) fun command =>
        keeps_bind (hinner command) fun _ => ?_
    exact keeps_bind (Py.keeps_session ref) fun _ =>
      keeps_bind (hR.keeps_encryptPayload _ _ _) fun _ =>
        keeps_bind (hR.keeps_ask _) fun _ => keeps_pure _

theorem keeps_runPkiCommand (sessionId version : String) (ref : ℕ) (payload : Json) :
    Keeps R (runPkiCommand env inner sessionId version ref payload) := by
  refine keeps_bind (Py.keeps_ofExcept _) fun _ => keeps_bind (Py.keeps_ofExcept _) fun _ =>
    keeps_bind (hR.keeps_finalizeSessionState ref _ _ _) fun _ =>
      keeps_bind (Py.keeps_ofExcept _) fun _ => keeps_ite (keeps_throw _) ?_
  refine keeps_bind (Py.keeps_session ref) fun _ => keeps_bind (Py.keeps_ofExcept _) fun _ =>
    keeps_bind (Py.keeps_ofExcept _) fun _ =>
      keeps_bind (Py.keeps_decodeInner env _ _) fun command =>
        keeps_bind (hinner command) fun _ => ?_
  exact keeps_bind (Py.keeps_session ref) fun _ =>
    keeps_bind (hR.keeps_encryptPayload _ _ _) fun _ => keeps_bind (hR.keeps_ask _) fun _ =>
      keeps_bind (hR.keeps_signVehicleResponse _ _ _ _) fun _ => keeps_pure _

theorem keeps_handlePkiCommand (payload : Json) :
    Keeps R (handlePkiCommand env inner payload) := by
  refine keeps_bind (Py.keeps_ofExcept _) fun _ => keeps_ite (keeps_throw _) ?_
  refine keeps_bind (Py.keeps_ofExcept _) fun _ =>
    keeps_bind (Py.keeps_when (hR.serving.keeps_maybeStoreKeyFromCertificate _)) fun _ =>
      keeps_bind (hR.keeps_commandSession _ _) fun found => ?_
  cases found with
  | none => exact keeps_throw _
  | some ref =>
    refine keeps_bind (hR.keeps_refreshCertificateMaterial ref _) fun _ =>
      keeps_bind (Py.keeps_ofExcept _) fun _ => ?_
    exact keeps_tryCatch (hR.keeps_runPkiCommand hinner _ _ ref payload) fun _ =>
      keeps_bind (hR.keeps_ask _) fun _ => keeps_pure _

end Inner

/-! ### Typed requests -/

theorem keeps_handlePkiCertExchange (payload : Json) :
    Keeps R (handlePkiCertExchange env payload) := by
  refine keeps_bind (Py.keeps_ofExcept _) fun _ =>
    keeps_bind (Py.keeps_ofExcept _) fun certificate => keeps_ite (keeps_throw _) ?_
  exact keeps_bind (hR.keeps_storePkiCertificate _ certificate) fun _ => keeps_pure _

theorem keeps_handleInnerSecureCommand {typed : String → Json → Py Answer}
    (htyped : ∀ requestType payload, Keeps R (typed requestType payload)) (payload : Json) :
    Keeps R (handleInnerSecureCommand env typed payload) := by
  refine keeps_bind (Py.keeps_ofExcept _) fun _ => keeps_ite (htyped _ payload) ?_
  exact keeps_bind (Py.keeps_ofExcept _) fun _ =>
    keeps_ite (hR.serving.keeps_handleVehicleCommand _ payload) (keeps_throw _)

/-- A typed request keeps the relation, however deep it is nested. -/
theorem keeps_handleTypedRequest (depth : ℕ) (requestType : String) (payload : Json) :
    Keeps R (handleTypedRequest env depth requestType payload) := by
  induction depth generalizing requestType payload with
  | zero => exact keeps_throw _
  | succ depth ih =>
    -- the payload inside has one level of nesting less
    have hinner := hR.keeps_handleInnerSecureCommand ih
    refine keeps_ite (Py.keeps_handleCertRequest hR.ask payload) ?_
    refine keeps_ite (hR.serving.keeps_handleVehicleCommand _ payload) ?_
    refine keeps_ite (hR.keeps_handleSecureCommand hinner payload) ?_
    refine keeps_ite (hR.keeps_handlePkiCommand hinner payload) ?_
    refine keeps_ite (hR.keeps_handlePkiHandshake payload) ?_
    refine keeps_ite (hR.keeps_handlePkiCertExchange payload) ?_
    exact keeps_ite (hR.keeps_handlePkiSessionSeed payload) (keeps_throw _)

/-- **A command** keeps the relation. -/
theorem keeps_process (recursionLimit : ℕ) (payload : Json) :
    Keeps R (process env recursionLimit payload) := by
  refine keeps_tryCatch ?_ fun e => ?_
  · refine keeps_bind (Py.keeps_ofExcept _) fun _ =>
      keeps_ite (hR.keeps_handleTypedRequest recursionLimit _ payload) ?_
    exact keeps_bind (Py.keeps_ofExcept _) fun _ =>
      keeps_ite (hR.serving.keeps_handleVehicleCommand _ payload) (keeps_throw _)
  · exact keeps_bind (Py.keeps_ofExcept _) fun _ => keeps_bind (Py.keeps_ofExcept _) fun _ =>
      keeps_bind (hR.keeps_ask _) fun _ => keeps_pure _

end Routine

/-- **The handlers do nothing but steps.** -/
theorem routine_acts (env : Platform) : Routine env Acts where
  step h _ := .single h
  keeps_exportPkiSessionState := by
    have hask : ∀ {β : Type} (answer : ℕ → β), Keeps Acts (Py.ask answer) := fun _ w =>
      .single (.ask w _)
    refine keeps_bind (Py.keeps_pairing _) fun current => ?_
    cases current with
    | none => exact keeps_bind (hask _) fun _ => keeps_modify fun w => .single (.pair w _)
    | some ref =>
      refine keeps_bind (Py.keeps_session ref) fun _ => keeps_bind (hask _) fun result => ?_
      cases result with
      | written => exact keeps_modify fun w => .single (.pair w _)
      | refused message => exact keeps_pure _
      | truncated message => exact keeps_modify fun w => .single (.pair w _)
  put w source key keyId payload := .single (.put w source key keyId payload)
  sync w data _ := .single (.sync w data)
  write w file := .single (.write w file)

theorem acts_disablePairingFlag (env : Platform) : Keeps Acts (disablePairingFlag env) :=
  keeps_bind (fun w => .single (.ask w _)) fun _ => keeps_modify fun w => .single (.pair w _)

/-! ### The store -/

/-- The store is as it was. -/
def SameStore (w w' : World) : Prop := w'.store = w.store

instance : IsPreorder World SameStore where
  refl _ := rfl
  trans _ _ _ h h' := h'.trans h

/-- What happens away from the store leaves it alone. -/
theorem storeless_sameStore (env : Platform) : Storeless env SameStore where
  step _ h := h.store
  keeps_exportPkiSessionState := by
    refine keeps_bind (Py.keeps_pairing _) fun current => ?_
    cases current with
    | none => exact keeps_bind (fun _ => rfl) fun _ _ => rfl
    | some ref =>
      refine keeps_bind (Py.keeps_session ref) fun _ => keeps_bind (fun _ => rfl) fun result => ?_
      cases result with
      | written => exact fun _ => rfl
      | refused message => exact keeps_pure _
      | truncated message => exact fun _ => rfl

end DigitalKey

end VehicleStack
