import VehicleStack.DigitalKey.Challenge
import VehicleStack.DigitalKey.Licence

/-!
# The gate in front of encrypted commands

A `secure_command` hands the payload inside over only if its session is verified.
A `pki_command` does not look: it verifies the signature it carries, and one that
carries none is handed over whatever its session is
(`VehicleStack.DigitalKey.unsigned_handedOver`).

So the two commands have the same gate only for those PKI commands that are signed,
or whose session was verified before, or that cannot be opened anyway
(`VehicleStack.DigitalKey.gated_iff`).
-/

namespace VehicleStack

namespace DigitalKey

open Effect

variable (env : Platform)

/-! ### States that are reached -/

/-- Every stored session is stored under its own id. -/
def WellStored (w : World) : Prop := Backed (fun _ => True) w

/-- A state the process comes to: after it was started, whatever it read from its files
then, after an activity, or in the course of one, when the turn of a message comes. -/
inductive Reachable (api : PairingApi) (recursionLimit : ℕ) : World → Prop where
  | start {w : World} (h : WellStored w) : Reachable api recursionLimit w
  | perform {w : World} (activity : Activity) (h : Reachable api recursionLimit w) :
    Reachable api recursionLimit (perform env api recursionLimit w activity)
  | turn {w : World} {activity : Activity} {m : Message} (h : Reachable api recursionLimit w)
    (hm : m ∈ activity.messages env recursionLimit w) : Reachable api recursionLimit m.world

theorem Reachable.performAll {api : PairingApi} {recursionLimit : ℕ} {w : World}
    (h : Reachable env api recursionLimit w) (activities : List Activity) :
    Reachable env api recursionLimit
      (DigitalKey.performAll env api recursionLimit w activities) := by
  induction activities generalizing w with
  | nil => exact h
  | cons activity activities ih => exact ih (h.perform activity)

/-- The property that every session has. -/
def Anything : List Event → String → Prop := fun _ _ => True

theorem lasting_anything : Lasting Anything := fun _ _ _ _ _ => trivial

theorem licensed_anything (m : Message) : Licensed env Anything m :=
  ⟨fun _ _ _ => trivial, fun _ _ _ _ => trivial, fun _ _ _ _ _ _ _ => trivial⟩

theorem Reachable.wellStored {api : PairingApi} {recursionLimit : ℕ} {w : World}
    (h : Reachable env api recursionLimit w) : WellStored w := by
  induction h with
  | start h => exact h
  | @perform w activity _ ih =>
    cases activity with
    | write given =>
      exact carried_handleWrite env lasting_anything recursionLimit given
        (fun m _ _ => licensed_anything env m) (fun _ _ _ _ _ _ _ => trivial) ih
    | challenge => exact (staysBacked_perform env api recursionLimit w (by rintro _ ⟨⟩)).stored ih
    | pinStatus status =>
      exact (staysBacked_perform env api recursionLimit w (by rintro _ ⟨⟩)).stored ih
    | expiry => exact (staysBacked_perform env api recursionLimit w (by rintro _ ⟨⟩)).stored ih
  | turn _ hm ih =>
    exact Activity.rel_messages env (fun c payload w =>
      carried_openCommand env lasting_anything fun _ => licensed_anything env _) hm ih

/-! ### Handing over -/

/-- **The gate**: if a command hands its payload over, its session is verified at that
moment. -/
def Gated (c : Carrier) (payload : Json) (w : World) : Prop :=
  ∀ h, handedOver env c payload w = some h →
    (pkiSessionState h.world h.session.sessionId).any (fun s => s.signatureVerified) = true

theorem Stands.pkiSessionState_eq {sessionId : String} {ref : ℕ} {verified : Bool} {w : World}
    (h : Stands sessionId ref verified w) (hne : sessionId ≠ "") :
    (pkiSessionState w sessionId).any (fun s => s.signatureVerified) = verified := by
  rw [DigitalKey.pkiSessionState_eq hne, h.stored]
  exact h.signatureVerified

/-! ### Secure commands -/

/-- A secure command is only opened for a session that is verified. -/
theorem returns_openSecureCommand (payload : Json) (w : World) :
    Returns (fun opened w' => opened.1.sessionId ≠ "" ∧
        Stands opened.1.sessionId opened.1.ref true w')
      (openSecureCommand env payload) w := by
  refine returns_bind (returns_ofExcept _ w) ?_
  rintro given w ⟨-, rfl⟩
  refine returns_ite (fun _ => returns_throw _ _) fun hne => ?_
  refine returns_bind (returns_ofExcept _ _) ?_
  rintro encryptedPayload w ⟨-, rfl⟩
  refine returns_ite (fun _ => returns_throw _ _) fun _ => ?_
  refine returns_bind (Q := fun found w' => w' = w ∧
    w.pairing.pkiSessions.get? (pyStr env (given.or (.str ""))) = found) ?_ ?_
  · rintro found w' ⟨⟩
    exact ⟨rfl, (if_pos hne).symm⟩
  · rintro found w ⟨rfl, hget⟩
    cases found with
    | none => exact returns_throw _ w
    | some ref =>
      refine returns_bind (Q := fun state w' => w' = w ∧ w.pairing.sessions.read ref = state)
        (by rintro _ _ ⟨⟩; exact ⟨rfl, rfl⟩) ?_
      rintro state w ⟨rfl, hstate⟩
      refine returns_ite (fun _ => returns_throw _ _) fun hverified => ?_
      have hstands : Stands _ ref true w := ⟨hget, by simpa [hstate] using hverified⟩
      refine returns_bind (returns_stands (Py.keeps_ofExcept _) hstands)
        fun nonce w₁ h₁ => returns_bind
          (returns_stands (Py.keeps_ofExcept _) h₁) fun plaintext w₂ h₂ =>
            returns_bind (returns_stands (Py.keeps_decodeInner env _ _) h₂)
              fun inner w₃ h₃ => returns_pure ⟨hne, h₃⟩

/-! ### PKI commands -/

/-- A signature that is there and checked leaves the session verified; without one it is
what it was. -/
theorem returns_finalizeSessionState {sessionId : String} {ref : ℕ} {verified : Bool} {w : World}
    (clientNonce signature : Json) (payload : Option Json)
    (h : Stands sessionId ref verified w) (hlt : ref < w.pairing.sessions.cells.length) :
    Returns (fun _ w' => Stands sessionId ref (verified || signature.truthy) w')
      (finalizeSessionState env ref clientNonce signature payload) w := by
  unfold finalizeSessionState
  refine returns_bind (returns_attachNonce env ref clientNonce w) fun _ w₁ hattached => ?_
  have hstands : Stands sessionId ref verified w₁ :=
    h.of_sameStanding ⟨hattached.pkiSessions, hattached.signatureVerified⟩
  refine returns_ite (fun htruthy => ?_) fun hfalsy => returns_pure ?_
  · rw [htruthy, Bool.or_true]
    refine returns_bind (Q := fun _ w' => w' = w₁) (by rintro _ _ ⟨⟩; rfl) ?_
    rintro state _ rfl
    refine returns_bind (returns_ofExcept _ _) ?_
    rintro bytes w₁ ⟨-, rfl⟩
    refine returns_bind (returns_ofExcept _ _) ?_
    rintro message w₁ ⟨-, rfl⟩
    intro _ w₂ hexec
    rcases exec_verifySignature env ref bytes message (triedKeys state) w₁ with
      ⟨e, hraised⟩ | ⟨keyMaterial, -, -, haccepted⟩
    · cases hraised.symm.trans hexec
    · have hw₂ : exec (acceptSignature env ref keyMaterial) w₁ = (.ok ⟨⟩, w₂) :=
        haccepted.symm.trans hexec
      rw [exec_acceptSignature] at hw₂
      cases hw₂
      refine ⟨hstands.stored, ?_⟩
      exact (congrArg _ (Heap.read_modify_self _ (hattached.length ▸ hlt))).trans
        (PkiSessionState.signatureVerified_accepted env _ keyMaterial)
  · rw [Bool.not_eq_true] at hfalsy
    rw [hfalsy, Bool.or_false]
    exact hstands

/-- Whether the payload names a signature. -/
def Signed (payload : Json) : Prop := (payload.get "signature").toOption.any Json.truthy = true

/-- The client nonce of a payload, if it names one. -/
def clientNonce (payload : Json) : Except PyError (Option Bytes) := do
  let nonceB64 ← payload.getFirst ["nonce", "clientNonce"]
  if nonceB64.truthy then (pyB64decode env nonceB64).map some else .ok none

/-- What an unsigned PKI command contains for a session key: its client nonce and its
payload have to be readable. -/
def readPayload (sessionKey : Bytes) (payload : Json) : Except PyError Json := do
  let _ ← clientNonce env payload
  let encryptedPayload ← payload.getFirst ["encryptedPayload", "encrypted_payload"]
  if !encryptedPayload.truthy then .error (valueError "pki_command missing encryptedPayload")
  else
    let nonce ← payload.get "nonce"
    let plaintext ← decryptPayload env sessionKey (pyStr env encryptedPayload) nonce
    env.loads plaintext

/-- There is no session that an unsigned PKI command can be read in. -/
def Unreadable (payload : Json) (w : World) : Prop :=
  ∀ s w', exec (pkiCommandSession env payload) w = (.ok s, w') →
    (readPayload env (w'.pairing.sessions.read s.ref).sessionKey payload).toOption = none

theorem returns_openPkiCommand {sessionId : String} {ref : ℕ} {verified : Bool} {w : World}
    (payload : Json) (h : Stands sessionId ref verified w)
    (hlt : ref < w.pairing.sessions.cells.length) :
    Returns (fun _ w' => (Signed payload → Stands sessionId ref true w') ∧
        (¬ Signed payload → Stands sessionId ref verified w') ∧
          (verified = true → Stands sessionId ref true w'))
      (openPkiCommand env ref payload) w := by
  refine returns_bind (returns_ofExcept _ w) ?_
  rintro nonceB64 w ⟨-, rfl⟩
  refine returns_bind (returns_ofExcept _ _) ?_
  rintro signatureB64 w ⟨hsignature, rfl⟩
  refine returns_bind (returns_finalizeSessionState env nonceB64 signatureB64 (some payload) h hlt)
    fun _ w₁ h₁ => ?_
  have hrest : Keeps (SameStanding ref) (do
      let encryptedPayload ← Py.ofExcept
        (payload.getFirst ["encryptedPayload", "encrypted_payload"])
      if !encryptedPayload.truthy then throw (valueError "pki_command missing encryptedPayload")
      else do
        let state ← Py.session ref
        let nonce ← Py.ofExcept (payload.get "nonce")
        let plaintext ← Py.ofExcept
          (decryptPayload env state.sessionKey (pyStr env encryptedPayload) nonce)
        decodeInner env "pki_command" plaintext) := by
    refine sameStanding_of_unmoved (keeps_bind (Py.keeps_ofExcept _) fun _ =>
      keeps_ite (keeps_throw _) ?_)
    exact keeps_bind (Py.keeps_session ref) fun _ => keeps_bind (Py.keeps_ofExcept _) fun _ =>
      keeps_bind (Py.keeps_ofExcept _) fun _ => Py.keeps_decodeInner env _ _
  intro inner w₂ hexec
  have h₂ : Stands sessionId ref (verified || signatureB64.truthy) w₂ :=
    returns_stands hrest h₁ inner w₂ hexec
  have hsigned : Signed payload ↔ signatureB64.truthy = true := by
    rw [Signed, hsignature]
    rfl
  refine ⟨fun hs => ?_, fun hs => ?_, fun hv => ?_⟩
  · rw [hsigned.mp hs, Bool.or_true] at h₂
    exact h₂
  · rw [hsigned, Bool.not_eq_true] at hs
    rw [hs, Bool.or_false] at h₂
    exact h₂
  · rw [hv, Bool.true_or] at h₂
    exact h₂

/-- Without a signature only the client nonce is looked at. -/
theorem exec_finalizeSessionState_of_unsigned (ref : ℕ) (nonceB64 payload : Json) (w : World)
    {signatureB64 : Json} (hfalsy : signatureB64.truthy = false) :
    (∃ w', exec (finalizeSessionState env ref nonceB64 signatureB64 (some payload)) w =
        (.ok ⟨⟩, w') ∧
      (w'.pairing.sessions.read ref).sessionKey = (w.pairing.sessions.read ref).sessionKey ∧
        ∃ nonce, (if nonceB64.truthy then (pyB64decode env nonceB64).map some else .ok none) =
          .ok nonce) ∨
    (∃ e, exec (finalizeSessionState env ref nonceB64 signatureB64 (some payload)) w =
        (.error e, w) ∧
      (if nonceB64.truthy then (pyB64decode env nonceB64).map some else .ok none) = .error e) := by
  unfold finalizeSessionState
  rw [hfalsy]
  unfold Py.when
  cases htruthy : nonceB64.truthy with
  | false => exact Or.inl ⟨w, rfl, rfl, none, rfl⟩
  | true =>
    cases hdecode : pyB64decode env nonceB64 with
    | error e => exact Or.inr ⟨e, rfl, rfl⟩
    | ok nonce =>
      refine Or.inl ⟨_, rfl, ?_, some nonce, rfl⟩
      refine Heap.apply_read_modify PkiSessionState.sessionKey ?_ ref
      exact fun _ => rfl

/-- A value that is looked at in a program and outside of one. -/
theorem toOption_exec_ofExcept_bind {α β : Type} {x : Except PyError β} {f : β → Py α}
    {g : β → Except PyError α} {w : World}
    (h : ∀ b, x = .ok b → (exec (f b) w).1.toOption = (g b).toOption) :
    (exec (Py.ofExcept x >>= f) w).1.toOption = (x >>= g).toOption := by
  cases x with
  | error e => rfl
  | ok b => exact h b rfl

/-- What an unsigned PKI command is opened to. -/
theorem toOption_exec_openPkiCommand {ref : ℕ} {payload : Json} {w : World}
    (hunsigned : ¬ Signed payload) :
    (exec (openPkiCommand env ref payload) w).1.toOption =
      (readPayload env (w.pairing.sessions.read ref).sessionKey payload).toOption := by
  unfold openPkiCommand readPayload clientNonce
  rw [bind_assoc]
  refine toOption_exec_ofExcept_bind fun nonceB64 hnonce => ?_
  obtain ⟨signatureB64, hsignature⟩ : ∃ j, payload.get "signature" = .ok j := by
    cases payload with
    | obj members => exact ⟨_, rfl⟩
    | _ => cases hnonce
  have hfalsy : signatureB64.truthy = false := by
    rw [Signed, hsignature, Bool.not_eq_true] at hunsigned
    exact hunsigned
  rw [hsignature, exec_bind_of_ok (Py.exec_ofExcept_ok w _)]
  rcases exec_finalizeSessionState_of_unsigned env ref nonceB64 payload w hfalsy with
    ⟨w', hexec, hkey, nonce, hread⟩ | ⟨e, hexec, hread⟩
  · rw [exec_bind_of_ok hexec, hread]
    change _ = Except.toOption (payload.getFirst ["encryptedPayload", "encrypted_payload"] >>= _)
    refine toOption_exec_ofExcept_bind fun encryptedPayload _ => ?_
    split
    · rfl
    · rw [Py.session, exec_bind_of_ok (Py.exec_pairing w' _), hkey]
      refine toOption_exec_ofExcept_bind fun given _ =>
        toOption_exec_ofExcept_bind fun plaintext _ => ?_
      rw [decodeInner]
      cases env.loads plaintext with
      | ok inner => rfl
      | error e =>
        dsimp only
        split
        · rfl
        · rfl
  · rw [exec_bind_of_error hexec, hread]
    rfl

theorem wellStored_pkiCommandSession {payload : Json} {s : CommandSession} {w w₁ : World}
    (hw : WellStored w) (hs : exec (pkiCommandSession env payload) w = (.ok s, w₁)) :
    WellStored w₁ := by
  have hcarried := carried_pkiCommandSession env lasting_anything payload (w := w)
    (fun _ _ _ => trivial) hw
  rw [hs] at hcarried
  exact hcarried

/-- **When the gate holds**: for secure commands, and for those PKI commands that are
signed, or whose session was verified before, or that cannot be read unsigned. -/
theorem gated_iff {api : PairingApi} {recursionLimit : ℕ} {w : World}
    (hw : Reachable env api recursionLimit w) (c : Carrier) (payload : Json) :
    Gated env c payload w ↔ c = .secureCommand ∨ Signed payload ∨
      verifiedBefore w (payloadSession env payload) = true ∨ Unreadable env payload w := by
  cases c with
  | secureCommand =>
    refine ⟨fun _ => Or.inl rfl, fun _ h hhanded => ?_⟩
    have hopened :=
      returns_openSecureCommand env payload w _ _ (handedOver_eq_some env |>.mp hhanded)
    exact hopened.2.pkiSessionState_eq hopened.1
  | pkiCommand =>
    constructor
    · intro hgated
      by_contra hcon
      simp only [reduceCtorEq, false_or, not_or, Bool.not_eq_true] at hcon
      obtain ⟨hunsigned, hbefore, hreadable⟩ := hcon
      refine hreadable fun s w₁ hs => ?_
      obtain ⟨hid, hne, -, hstands, -⟩ := returns_pkiCommandSession env payload w s w₁ hs
      have hlt := (wellStored_pkiCommandSession env hw.wellStored hs _ _ hstands.stored).lt
      rw [← toOption_exec_openPkiCommand env hunsigned]
      rcases hopen : exec (openPkiCommand env s.ref payload) w₁ with ⟨e | inner, w₂⟩
      · rfl
      · -- what was handed over has a session that is not verified
        have hstands₂ : Stands s.sessionId s.ref (verifiedBefore w s.sessionId) w₂ :=
          (returns_openPkiCommand env payload hstands hlt inner w₂ hopen).2.1 hunsigned
        have hverified := hgated ⟨s, inner, w₂⟩
          ((handedOver_eq_some env).mpr (exec_openCommand_pkiCommand env hs hopen))
        rw [hstands₂.pkiSessionState_eq hne, hid, hbefore] at hverified
        cases hverified
    · rintro hcondition h hhanded
      obtain ⟨s, w₁, hs, hrest⟩ := exec_bind_eq_ok.mp ((handedOver_eq_some env).mp hhanded)
      obtain ⟨inner, w₂, hopen, hpure⟩ := exec_bind_eq_ok.mp hrest
      obtain ⟨hsession, hworld⟩ : h.session = s ∧ h.world = w₂ := by
        cases h
        cases hpure
        exact ⟨rfl, rfl⟩
      rw [hsession, hworld]
      obtain ⟨hid, hne, -, hstands, -⟩ := returns_pkiCommandSession env payload w s w₁ hs
      have hlt := (wellStored_pkiCommandSession env hw.wellStored hs _ _ hstands.stored).lt
      have hspec := returns_openPkiCommand env payload hstands hlt inner w₂ hopen
      suffices hstands₂ : Stands s.sessionId s.ref true w₂ from hstands₂.pkiSessionState_eq hne
      by_cases hsigned : Signed payload
      · exact hspec.1 hsigned
      · rcases hcondition with hc | hsigned' | hbefore | hunreadable
        · cases hc
        · exact absurd hsigned' hsigned
        · exact hspec.2.2 (hid ▸ hbefore)
        · have hnone := hunreadable s w₁ hs
          rw [← toOption_exec_openPkiCommand env hsigned, hopen] at hnone
          cases hnone

/-! ### A command without a signature -/

/-- The process after the PIN of the first telephone was verified: its session has a key,
and nothing has been signed. -/
def pinVerified : World := performAll .plain twoTelephones 1000 {} firstVerified

theorem wellStored_empty : WellStored {} := by
  rintro sessionId ref ⟨⟩

theorem reachable_pinVerified : Reachable .plain twoTelephones 1000 pinVerified :=
  (Reachable.start wellStored_empty).performAll .plain firstVerified

/-- A PKI command that carries no signature. -/
def unsignedCommand : Json :=
  .obj [("type", .str "pki_command"), ("sessionId", .str "a"),
    ("encryptedPayload", .str "twenty-eight bytes or more of it")]

theorem gated_iff_unsignedCommand :
    Gated .plain .pkiCommand unsignedCommand pinVerified ↔
      Carrier.pkiCommand = .secureCommand ∨ Signed unsignedCommand ∨
        verifiedBefore pinVerified (payloadSession .plain unsignedCommand) = true ∨
          Unreadable .plain unsignedCommand pinVerified :=
  gated_iff .plain reachable_pinVerified .pkiCommand unsignedCommand

/-- **A command without a signature is handed over** in a session that is not verified. -/
theorem unsigned_handedOver : ¬∀ (env : Platform) (api : PairingApi) (recursionLimit : ℕ)
    (w : World), Reachable env api recursionLimit w → ∀ c payload, Gated env c payload w := by
  intro h
  have hgated := h .plain twoTelephones 1000 pinVerified reachable_pinVerified .pkiCommand
    unsignedCommand
  have hhanded : (handedOver .plain .pkiCommand unsignedCommand pinVerified).any (fun h =>
      !(pkiSessionState h.world h.session.sessionId).any fun s => s.signatureVerified) = true := by
    decide +kernel
  obtain ⟨handed, hsome, hnot⟩ := (Option.any_eq_true _ _).mp hhanded
  rw [hgated handed hsome] at hnot
  cases hnot

end DigitalKey

end VehicleStack
