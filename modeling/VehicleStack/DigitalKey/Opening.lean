import VehicleStack.DigitalKey.Frame

/-!
# Commands inside other commands

A `secure_command` and a `pki_command` carry another payload. Each handler has a part
before it hands that payload over, and a part after it that makes the answer. The
parts are given names here, and the handlers are shown to be made of them
(`VehicleStack.DigitalKey.handleSecureCommand_eq`,
`VehicleStack.DigitalKey.handlePkiCommand_eq`), so that what holds at the moment of
handing over can be said (`VehicleStack.DigitalKey.handedOver`).

A write is then a chain of messages, each handed over by the one before, and each
with the state of the process when its turn comes
(`VehicleStack.DigitalKey.messages`).
-/

namespace VehicleStack

namespace DigitalKey

open Effect

variable (env : Platform)

/-! ### Before and after the payload inside -/

/-- The session a command is handled in. -/
structure CommandSession where
  sessionId : String
  ref : ℕ
  /-- The version an answer states; only a PKI command has one. -/
  version : String := ""

/-- A secure command up to the moment its payload is handed over: its session, which
has to be there and verified, and the payload inside. -/
def openSecureCommand (payload : Json) : Py (CommandSession × Json) := do
  let given ← Py.ofExcept (payload.get "sessionId")
  let sessionId := pyStr env (given.or (.str ""))
  if sessionId = "" then throw (valueError "Missing sessionId for secure command payload")
  else do
    let encryptedPayload ← Py.ofExcept (payload.get "encryptedPayload")
    if !encryptedPayload.truthy then
      throw (valueError "Missing encryptedPayload for secure command payload")
    else
      match ← getPkiSessionState sessionId with
      | none => throw (valueError ("No PKI session material for session " ++ sessionId))
      | some ref => do
        let state ← Py.session ref
        if !state.signatureVerified then
          throw (valueError "PKI session not verified by client signature")
        else do
          let nonce ← Py.ofExcept (payload.get "nonce")
          let plaintext ← Py.ofExcept
            (decryptPayload env state.sessionKey (pyStr env encryptedPayload) nonce)
          let innerPayload ← decodeInner env "secure command" plaintext
          pure ({ sessionId := sessionId, ref := ref }, innerPayload)

/-- The answer to a secure command. -/
def answerSecureCommand (s : CommandSession) (payload : Json) (answer : Bool × Json) :
    Py Answer := do
  let state ← Py.session s.ref
  let envelope ← encryptPayload env state.sessionKey (env.encode (env.dumps answer.2))
    (!payload.has "nonce")
  let now ← Py.ask env.timeMs
  pure (answer.1, .obj (envelope ++ [("type", .str "secure_command"),
    ("sessionId", .str s.sessionId),
    ("success", .bool answer.1),
    ("timestamp", .int now)]))

/-- The session of a PKI command, which is recovered if it is not there, and brought up
to date. -/
def pkiCommandSession (payload : Json) : Py CommandSession := do
  let given ← Py.ofExcept (payload.getFirst ["sessionId", "session_id"])
  let sessionId := pyStr env (given.or (.str ""))
  if sessionId = "" then throw (valueError "Missing sessionId for pki_command")
  else do
    let stated ← Py.ofExcept (payload.get "certificate")
    let certificate := stated.or (.obj [])
    Py.when certificate.truthy (maybeStoreKeyFromCertificate env certificate)
    match ← commandSession env sessionId certificate with
    | none => throw (valueError ("No PKI session material for session " ++ sessionId))
    | some ref => do
      refreshCertificateMaterial env ref certificate
      let givenVersion ← Py.ofExcept (payload.get "version")
      pure
        { sessionId := sessionId
          ref := ref
          version := pyStr env (givenVersion.or (.str "2.0-PKI")) }

/-- The payload inside a PKI command, after its signature was looked at. -/
def openPkiCommand (ref : ℕ) (payload : Json) : Py Json := do
  let nonceB64 ← Py.ofExcept (payload.getFirst ["nonce", "clientNonce"])
  let signatureB64 ← Py.ofExcept (payload.get "signature")
  finalizeSessionState env ref nonceB64 signatureB64 (some payload)
  let encryptedPayload ← Py.ofExcept (payload.getFirst ["encryptedPayload", "encrypted_payload"])
  if !encryptedPayload.truthy then throw (valueError "pki_command missing encryptedPayload")
  else do
    let state ← Py.session ref
    let nonce ← Py.ofExcept (payload.get "nonce")
    let plaintext ← Py.ofExcept
      (decryptPayload env state.sessionKey (pyStr env encryptedPayload) nonce)
    decodeInner env "pki_command" plaintext

/-- The answer to a PKI command. -/
def answerPkiCommand (s : CommandSession) (answer : Bool × Json) : Py Answer := do
  let state ← Py.session s.ref
  let envelope ← encryptPayload env state.sessionKey (env.encode (env.dumps answer.2)) true
  let now ← Py.ask env.timeMs
  let encrypted := pyStr env ((envelope.lookup "encryptedPayload").getD .null)
  let signature ← signVehicleResponse env s.sessionId encrypted now none
  pure (answer.1, .obj [("version", .str s.version),
    ("type", .str "pki_response"),
    ("sessionId", .str s.sessionId),
    ("success", .bool answer.1),
    ("encryptedPayload", .str encrypted),
    ("timestamp", .int now),
    ("signature", .str signature)])

/-- The answer to a PKI command that failed. -/
def failPkiCommand (s : CommandSession) (e : PyError) : Py Answer := do
  let now ← Py.ask env.timeMs
  pure (false, .obj [("version", .str s.version),
    ("type", .str "pki_response"),
    ("sessionId", .str s.sessionId),
    ("success", .bool false),
    ("timestamp", .int now),
    ("error", .str e.message)])

/-! ### The handlers are made of them -/

/-- **A secure command**: its session and the payload inside, what handles that, the
answer. -/
theorem handleSecureCommand_eq (inner : Json → Py Answer) (payload : Json) :
    handleSecureCommand env inner payload = (do
      let opened ← openSecureCommand env payload
      let answer ← inner opened.2
      answerSecureCommand env opened.1 payload answer) := by
  unfold handleSecureCommand openSecureCommand
  simp only [bind_assoc]
  refine bind_congr fun given => ?_
  split
  · rfl
  · rw [bind_assoc]
    refine bind_congr fun encryptedPayload => ?_
    split
    · rfl
    · rw [bind_assoc]
      refine bind_congr fun found => ?_
      cases found with
      | none => rfl
      | some ref =>
        simp only [bind_assoc]
        refine bind_congr fun state => ?_
        split
        · rfl
        · simp only [bind_assoc, pure_bind]
          rfl

theorem runPkiCommand_eq (inner : Json → Py Answer) (s : CommandSession) (payload : Json) :
    runPkiCommand env inner s.sessionId s.version s.ref payload = (do
      let innerPayload ← openPkiCommand env s.ref payload
      let answer ← inner innerPayload
      answerPkiCommand env s answer) := by
  unfold runPkiCommand openPkiCommand
  simp only [bind_assoc]
  refine bind_congr fun nonceB64 => bind_congr fun signatureB64 => bind_congr fun _ =>
    bind_congr fun encryptedPayload => ?_
  split
  · rfl
  · simp only [bind_assoc]
    rfl

/-- **A PKI command**: the session, and then the payload inside, what handles it and the
answer, with whatever is raised there answered as well. -/
theorem handlePkiCommand_eq (inner : Json → Py Answer) (payload : Json) :
    handlePkiCommand env inner payload = (do
      let s ← pkiCommandSession env payload
      tryCatch
        (do
          let innerPayload ← openPkiCommand env s.ref payload
          let answer ← inner innerPayload
          answerPkiCommand env s answer)
        (failPkiCommand env s)) := by
  unfold handlePkiCommand pkiCommandSession
  simp only [bind_assoc]
  refine bind_congr fun given => ?_
  split
  · rfl
  · simp only [bind_assoc]
    refine bind_congr fun stated => bind_congr fun _ => bind_congr fun found => ?_
    cases found with
    | none => rfl
    | some ref =>
      simp only [bind_assoc, pure_bind]
      refine bind_congr fun _ => bind_congr fun givenVersion => ?_
      exact congrArg₂ _ (runPkiCommand_eq env inner ⟨_, ref, _⟩ payload) rfl

/-! ### What they do to the process -/

section Kept

variable {env} {R : World → World → Prop} [IsPreorder World R]

namespace Storeless

variable (hR : Storeless env R)

include hR

theorem keeps_openPkiCommand (ref : ℕ) (payload : Json) :
    Keeps R (openPkiCommand env ref payload) := by
  refine keeps_bind (Py.keeps_ofExcept _) fun _ => keeps_bind (Py.keeps_ofExcept _) fun _ =>
    keeps_bind (hR.keeps_finalizeSessionState ref _ _ _) fun _ =>
      keeps_bind (Py.keeps_ofExcept _) fun _ => keeps_ite (keeps_throw _) ?_
  exact keeps_bind (Py.keeps_session ref) fun _ => keeps_bind (Py.keeps_ofExcept _) fun _ =>
    keeps_bind (Py.keeps_ofExcept _) fun _ => Py.keeps_decodeInner env _ _

theorem keeps_answerPkiCommand (s : CommandSession) (answer : Bool × Json) :
    Keeps R (answerPkiCommand env s answer) :=
  keeps_bind (Py.keeps_session _) fun _ => keeps_bind (hR.keeps_encryptPayload _ _ _) fun _ =>
    keeps_bind (hR.keeps_ask _) fun _ =>
      keeps_bind (hR.keeps_signVehicleResponse _ _ _ _) fun _ => keeps_pure _

theorem keeps_failPkiCommand (s : CommandSession) (e : PyError) :
    Keeps R (failPkiCommand env s e) :=
  keeps_bind (hR.keeps_ask _) fun _ => keeps_pure _

theorem keeps_answerSecureCommand (s : CommandSession) (payload : Json) (answer : Bool × Json) :
    Keeps R (answerSecureCommand env s payload answer) :=
  keeps_bind (Py.keeps_session _) fun _ => keeps_bind (hR.keeps_encryptPayload _ _ _) fun _ =>
    keeps_bind (hR.keeps_ask _) fun _ => keeps_pure _

end Storeless

theorem keeps_openSecureCommand (payload : Json) : Keeps R (openSecureCommand env payload) := by
  refine keeps_bind (Py.keeps_ofExcept _) fun given => keeps_ite (keeps_throw _) ?_
  refine keeps_bind (Py.keeps_ofExcept _) fun _ => keeps_ite (keeps_throw _) ?_
  refine keeps_bind (Py.keeps_getPkiSessionState _) fun found => ?_
  cases found with
  | none => exact keeps_throw _
  | some ref =>
    refine keeps_bind (Py.keeps_session ref) fun _ => keeps_ite (keeps_throw _) ?_
    exact keeps_bind (Py.keeps_ofExcept _) fun _ => keeps_bind (Py.keeps_ofExcept _) fun _ =>
      keeps_bind (Py.keeps_decodeInner env _ _) fun _ => keeps_pure _

theorem Routine.keeps_pkiCommandSession (hR : Routine env R) (payload : Json) :
    Keeps R (pkiCommandSession env payload) := by
  refine keeps_bind (Py.keeps_ofExcept _) fun given => keeps_ite (keeps_throw _) ?_
  refine keeps_bind (Py.keeps_ofExcept _) fun stated =>
    keeps_bind (Py.keeps_when (hR.serving.keeps_maybeStoreKeyFromCertificate _)) fun _ =>
      keeps_bind (hR.keeps_commandSession _ _) fun found => ?_
  cases found with
  | none => exact keeps_throw _
  | some ref =>
    exact keeps_bind (hR.keeps_refreshCertificateMaterial ref _) fun _ =>
      keeps_bind (Py.keeps_ofExcept _) fun _ => keeps_pure _

end Kept

/-- The pairing manager is as it was. -/
def SamePairing (w w' : World) : Prop := w'.pairing = w.pairing

instance : IsPreorder World SamePairing where
  refl _ := rfl
  trans _ _ _ h h' := h'.trans h

theorem samePairing_flush : Keeps SamePairing (flush env) := by
  refine keeps_bind keeps_get fun w => keeps_ite ?_ (keeps_throw _)
  refine keeps_bind (fun _ => rfl) fun result => ?_
  cases result with
  | written => exact fun _ => rfl
  | refused message => exact keeps_throw _
  | truncated message => exact fun _ => rfl

/-- Storing the key of a certificate is the store's business. -/
theorem samePairing_maybeStoreKeyFromCertificate (certificate : Json) :
    Keeps SamePairing (maybeStoreKeyFromCertificate env certificate) := by
  refine keeps_bind (Py.keeps_ofExcept _) fun given => Py.keeps_when ?_
  refine keeps_bind (fun _ => rfl) fun known => Py.keeps_when ?_
  refine keeps_bind (Py.keeps_ofExcept _) fun _ => keeps_bind (Py.keeps_ofExcept _) fun _ =>
    keeps_bind (Py.keeps_ofExcept _) fun _ => keeps_bind (fun _ => rfl) fun now => ?_
  exact keeps_tryCatch (keeps_bind (Py.keeps_ofExcept _) fun _ =>
    keeps_bind (fun _ => rfl) fun _ => samePairing_flush env) fun _ => keeps_pure _

theorem unmoved_answerSecureCommand (s : CommandSession) (payload : Json)
    (answer : Bool × Json) : Keeps Unmoved (answerSecureCommand env s payload answer) :=
  keeps_bind (Py.keeps_session _) fun _ => keeps_bind (unmoved_encryptPayload env _ _ _) fun _ =>
    keeps_bind (unmoved_ask _) fun _ => keeps_pure _

theorem unmoved_answerPkiCommand (s : CommandSession) (answer : Bool × Json) :
    Keeps Unmoved (answerPkiCommand env s answer) :=
  keeps_bind (Py.keeps_session _) fun _ => keeps_bind (unmoved_encryptPayload env _ _ _) fun _ =>
    keeps_bind (unmoved_ask _) fun _ => keeps_bind (unmoved_signVehicleResponse env _ _ _ _)
      fun _ =>
      keeps_pure _

theorem unmoved_failPkiCommand (s : CommandSession) (e : PyError) :
    Keeps Unmoved (failPkiCommand env s e) :=
  keeps_bind (unmoved_ask _) fun _ => keeps_pure _

/-! ### Messages -/

/-- The commands that carry a payload. -/
inductive Carrier where
  | secureCommand
  | pkiCommand
  deriving DecidableEq

/-- The command a request is, if it is one that carries a payload. -/
def carrier? (requestType : String) : Option Carrier :=
  if requestType = "secure_command" then some .secureCommand
  else if requestType = "pki_command" then some .pkiCommand
  else none

/-- A command up to the moment its payload is handed over. -/
def openCommand : Carrier → Json → Py (CommandSession × Json)
  | .secureCommand, payload => openSecureCommand env payload
  | .pkiCommand, payload => do
    let s ← pkiCommandSession env payload
    let inner ← openPkiCommand env s.ref payload
    pure (s, inner)

/-- A payload at the moment it is handed to `_handle_inner_secure_command`: from which
session it came, and the state of the process then. -/
structure Handed where
  session : CommandSession
  payload : Json
  world : World

/-- The payload a command hands over, if it comes to that. -/
def handedOver (c : Carrier) (payload : Json) (w : World) : Option Handed :=
  match exec (openCommand env c payload) w with
  | (.ok (s, inner), w') => some ⟨s, inner, w'⟩
  | (.error _, _) => none

/-- The type of a payload inside another one, if it is a typed request there. -/
def innerRequestType (payload : Json) : Option String :=
  match payload.getD "type" (.str "") with
  | .error _ => none
  | .ok given =>
    let innerType := env.lower (pyStr env given)
    if innerType ≠ "" ∧ innerType ≠ "secure_command" then some innerType else none

/-- A typed request, and the state of the process when its turn comes. -/
structure Message where
  requestType : String
  payload : Json
  world : World

/-- The typed requests a typed request consists of, itself first, as
`_handle_typed_request` comes to them. -/
def messages : ℕ → String → Json → World → List Message
  | 0, _, _, _ => []
  | depth + 1, requestType, payload, w =>
    ⟨requestType, payload, w⟩ ::
      match (carrier? requestType).bind fun c => handedOver env c payload w with
      | none => []
      | some h =>
        match innerRequestType env h.payload with
        | none => []
        | some innerType => messages depth innerType h.payload h.world

/-- The typed requests of a write. -/
def Write.messages (recursionLimit : ℕ) (w : World) : Write → List Message
  | .pairingResult _ => []
  | .command payload =>
    match payload.getD "type" (.str "") with
    | .error _ => []
    | .ok given =>
      let requestType := env.lower (pyStr env given)
      if requestType ≠ "" then DigitalKey.messages env recursionLimit requestType payload w else []

/-- The typed requests of an activity. -/
def Activity.messages (recursionLimit : ℕ) (w : World) : Activity → List Message
  | .write given => given.messages env recursionLimit w
  | _ => []

theorem handedOver_eq_some {c : Carrier} {payload : Json} {w : World} {h : Handed} :
    handedOver env c payload w = some h ↔
      exec (openCommand env c payload) w = (.ok (h.session, h.payload), h.world) := by
  unfold handedOver
  constructor
  · intro hhanded
    split at hhanded
    · rename_i hexec
      cases hhanded
      exact hexec
    · cases hhanded
  · intro hexec
    rw [hexec]

theorem exec_openCommand_pkiCommand {payload inner : Json} {s : CommandSession} {w w₁ w₂ : World}
    (hs : exec (pkiCommandSession env payload) w = (.ok s, w₁))
    (hopen : exec (openPkiCommand env s.ref payload) w₁ = (.ok inner, w₂)) :
    exec (openCommand env .pkiCommand payload) w = (.ok (s, inner), w₂) := by
  rw [openCommand, exec_bind_of_ok hs, exec_bind_of_ok hopen]
  rfl

section Turns

variable {R : World → World → Prop} [IsPreorder World R]
  (hopen : ∀ c payload, Keeps R (openCommand env c payload))

include hopen

/-- **The turn of a message** comes after the messages before it were opened. -/
theorem rel_messages {depth : ℕ} {requestType : String} {payload : Json} {w : World} {m : Message}
    (hm : m ∈ messages env depth requestType payload w) : R w m.world := by
  induction depth generalizing requestType payload w with
  | zero => exact absurd hm List.not_mem_nil
  | succ depth ih =>
    rcases List.mem_cons.mp hm with rfl | hrest
    · exact refl_of R w
    · cases hhanded : (carrier? requestType).bind fun c => handedOver env c payload w with
      | none =>
        rw [hhanded] at hrest
        exact absurd hrest List.not_mem_nil
      | some h =>
        rw [hhanded] at hrest
        obtain ⟨c, -, hhanded⟩ := Option.bind_eq_some_iff.mp hhanded
        have hopened : R w h.world :=
          (hopen c payload).returns w _ _ ((handedOver_eq_some env).mp hhanded)
        dsimp only at hrest
        split at hrest
        · exact absurd hrest List.not_mem_nil
        · exact trans_of R hopened (ih hrest)

theorem Activity.rel_messages {recursionLimit : ℕ} {w : World} {activity : Activity} {m : Message}
    (hm : m ∈ activity.messages env recursionLimit w) : R w m.world := by
  cases activity with
  | write given =>
    cases given with
    | pairingResult payload => exact absurd hm List.not_mem_nil
    | command payload =>
      change m ∈ Write.messages env recursionLimit w (.command payload) at hm
      rw [Write.messages] at hm
      split at hm
      · exact absurd hm List.not_mem_nil
      · dsimp only at hm
        split at hm
        · exact DigitalKey.rel_messages env hopen hm
        · exact absurd hm List.not_mem_nil
  | challenge => exact absurd hm List.not_mem_nil
  | pinStatus status => exact absurd hm List.not_mem_nil
  | expiry => exact absurd hm List.not_mem_nil

end Turns

theorem acts_openCommand (c : Carrier) (payload : Json) :
    Keeps Acts (openCommand env c payload) := by
  cases c with
  | secureCommand => exact keeps_openSecureCommand payload
  | pkiCommand =>
    exact keeps_bind ((routine_acts env).keeps_pkiCommandSession payload) fun s =>
      keeps_bind ((routine_acts env).keeps_openPkiCommand s.ref payload) fun _ => keeps_pure _

end DigitalKey

end VehicleStack
