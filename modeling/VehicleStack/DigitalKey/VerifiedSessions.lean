import Mathlib.Data.List.Induction
import VehicleStack.DigitalKey.Challenge
import VehicleStack.DigitalKey.Licence

/-!
# Where a verified session comes from

A session should be verified only if a signature was accepted for it, under a public
key that was bound to it before the write that carried the signature came
(`VehicleStack.DigitalKey.Proved`).

Two things get in the way. The certificate of a PKI command binds a key to the session
before the signature of the same command is checked, so a command can bring its own
key (`VehicleStack.DigitalKey.ownKey_notProved`); and a session that is recovered is as
verified as the one it is modelled on, which may be another telephone's. In runs in
which neither happens, every verified session is proved
(`VehicleStack.DigitalKey.proved_of_boundSignatures`).
-/

namespace VehicleStack

namespace DigitalKey

open Effect

variable (env : Platform) (api : PairingApi) (recursionLimit : ℕ)

/-! ### Proof of a session -/

/-- A public key is bound to a session: it is one of those a signature would be tried
under. -/
def BoundTo (w : World) (sessionId : String) (key : env.PublicKey) : Prop :=
  ∃ ref keyMaterial, w.pairing.pkiSessions.get? sessionId = some ref ∧
    keyMaterial ∈ triedKeys (w.pairing.sessions.read ref) ∧
      loadRemotePublicKey env keyMaterial = .ok key

/-- An event is the acceptance of a signature for a session, under a key that was bound
to it in some state. -/
def AcceptedBound (w : World) (sessionId : String) (e : Event) : Prop :=
  ∃ keyMaterial key, e = .signatureAccepted sessionId keyMaterial ∧
    loadRemotePublicKey env keyMaterial = .ok key ∧ BoundTo env w sessionId key

/-- In the course of an activity a signature is accepted for a session, under a key that
was bound to it when the activity began. -/
def Proves (w : World) (activity : Activity) (sessionId : String) : Prop :=
  ∃ events, (perform env api recursionLimit w activity).trace = w.trace ++ events ∧
    ∃ e ∈ events, AcceptedBound env w sessionId e

/-- Some activity of a run proves a session. -/
def Proved (w : World) (activities : List Activity) (sessionId : String) : Prop :=
  ∃ before activity after, activities = before ++ activity :: after ∧
    Proves env api recursionLimit (performAll env api recursionLimit w before) activity sessionId

/-! ### Runs without the two defects -/

/-- A PKI command among the messages of a write that comes in the state `w`, unless it is turned
down because its session is not stored and cannot be recovered. A session it recovers is not
verified, and its signature, unless the session is verified already, is valid under none of the
keys it can be tried under but those that were bound to the session when the write came. -/
structure SignedByBound (w : World) (m : Message) : Prop where
  recovered : m.world.pairing.pkiSessions.get? (payloadSession env m.payload) = none →
    Recoverable env m.world (payloadCertificate m.payload) →
      verifiedBefore m.world (payloadSession env m.payload) = false
  signed : Available env m.world (payloadSession env m.payload) (payloadCertificate m.payload) →
    verifiedBefore m.world (payloadSession env m.payload) = false →
      ∀ keyMaterial ∈ usableKeys env m.world m.payload, SignedUnder env m.payload keyMaterial →
        ∃ key, loadRemotePublicKey env keyMaterial = .ok key ∧
          BoundTo env w (payloadSession env m.payload) key

/-- No message of a run is a session seed. -/
def NoSeeds (w : World) (activities : List Activity) : Prop :=
  ∀ before activity after, activities = before ++ activity :: after →
    ∀ m ∈ activity.messages env recursionLimit (performAll env api recursionLimit w before),
      m.requestType ≠ "session_seed"

/-- No PKI command of a run brings the key it is signed with, or recovers a session that
is verified. -/
def BoundSignatures (w : World) (activities : List Activity) : Prop :=
  ∀ before activity after, activities = before ++ activity :: after →
    ∀ m ∈ activity.messages env recursionLimit (performAll env api recursionLimit w before),
      m.requestType = "pki_command" →
        SignedByBound env (performAll env api recursionLimit w before) m

/-! ### A write -/

/-- What a session has to show in the course of a write that comes in the state `w`: what
it had to show before, or an acceptance since. -/
def ProvedSince (before : String → Prop) (w : World) (t : List Event) (sessionId : String) :
    Prop :=
  before sessionId ∨ ∃ events, t = w.trace ++ events ∧ ∃ e ∈ events, AcceptedBound env w sessionId e

theorem lasting_provedSince (before : String → Prop) (w : World) :
    Lasting (ProvedSince env before w) := by
  rintro t t' sessionId ⟨later, rfl⟩ (hbefore | ⟨events, rfl, e, he, haccepted⟩)
  · exact Or.inl hbefore
  · refine Or.inr ⟨events ++ later, List.append_assoc .., e, ?_, haccepted⟩
    exact List.mem_append_left _ he

theorem provedSince_of_accepted {before : String → Prop} {w : World}
    {sessionId keyMaterial : String}
    {key : env.PublicKey} {t : List Event} (ht : w.trace <+: t)
    (hload : loadRemotePublicKey env keyMaterial = .ok key) (hbound : BoundTo env w sessionId key) :
    ProvedSince env before w (t ++ [.signatureAccepted sessionId keyMaterial]) sessionId := by
  obtain ⟨events, rfl⟩ := ht
  refine Or.inr ⟨events ++ [.signatureAccepted sessionId keyMaterial], List.append_assoc .., ?_⟩
  exact ⟨_, by simp, keyMaterial, key, rfl, hload, hbound⟩

/-- A message without the two defects has its licence. -/
theorem licensed_of_signedByBound {before : String → Prop} {w : World} {m : Message}
    (htrace : w.trace <+: m.world.trace) (hseed : m.requestType ≠ "session_seed")
    (hsigned : m.requestType = "pki_command" → SignedByBound env w m)
    (hbacked : Backed (ProvedSince env before w m.world.trace) m.world) :
    Licensed env (ProvedSince env before w) m := by
  refine ⟨fun h => absurd h hseed, fun h hnone hpossible hverified => ?_,
    fun h havailable keyMaterial hmem hkey t ht => ?_⟩
  · rw [(hsigned h).recovered hnone hpossible] at hverified
    cases hverified
  · cases hverified : verifiedBefore m.world (payloadSession env m.payload) with
    | false =>
      -- the signature is what makes it verified, and its key was bound before
      obtain ⟨key, hload, hbound⟩ := (hsigned h).signed havailable hverified keyMaterial hmem hkey
      exact provedSince_of_accepted env (htrace.trans ht) hload hbound
    | true =>
      -- the session is verified, so it has something to show already
      refine lasting_provedSince env before w (ht.trans (List.prefix_append _ _)) ?_
      cases hget : m.world.pairing.pkiSessions.get? (payloadSession env m.payload) with
      | none =>
        rw [(hsigned h).recovered hget (havailable hget)] at hverified
        cases hverified
      | some ref =>
        refine (hbacked _ ref hget).verified ?_
        rw [verifiedBefore, hget] at hverified
        exact hverified

theorem Proved.append {w : World} {activities : List Activity} {sessionId : String}
    (h : Proved env api recursionLimit w activities sessionId) (later : List Activity) :
    Proved env api recursionLimit w (activities ++ later) sessionId := by
  obtain ⟨before, activity, after, rfl, hproves⟩ := h
  exact ⟨before, activity, after ++ later, by simp, hproves⟩

/-- **One more activity** of a run without the two defects. -/
theorem backed_perform {w₀ : World} {before : List Activity} {activity : Activity}
    (hseeds : ∀ m ∈ activity.messages env recursionLimit
      (performAll env api recursionLimit w₀ before),
      m.requestType ≠ "session_seed")
    (hsigned : ∀ m ∈ activity.messages env recursionLimit
        (performAll env api recursionLimit w₀ before), m.requestType = "pki_command" →
      SignedByBound env (performAll env api recursionLimit w₀ before) m)
    (hbacked : Backed (Proved env api recursionLimit w₀ before)
      (performAll env api recursionLimit w₀ before)) :
    Backed (Proved env api recursionLimit w₀ (before ++ [activity]))
      (performAll env api recursionLimit w₀ (before ++ [activity])) := by
  rw [performAll_concat]
  obtain ⟨w, hw⟩ : ∃ w, w = performAll env api recursionLimit w₀ before := ⟨_, rfl⟩
  rw [← hw] at hseeds hsigned hbacked ⊢
  have hmono : ∀ s, Proved env api recursionLimit w₀ before s →
      Proved env api recursionLimit w₀ (before ++ [activity]) s := fun s hs => hs.append env api _ _
  have hother : ∀ {a : Activity}, (∀ write, a ≠ .write write) →
      Backed (Proved env api recursionLimit w₀ (before ++ [activity]))
        (perform env api recursionLimit w a) := fun h =>
    ((staysBacked_perform env api recursionLimit w h).stored hbacked).mono hmono
  cases activity with
  | challenge =>
    exact hother (by rintro _ ⟨⟩)
  | pinStatus status =>
    exact hother (by rintro _ ⟨⟩)
  | expiry =>
    exact hother (by rintro _ ⟨⟩)
  | write given =>
    have hcarried := carried_handleWrite env
      (lasting_provedSince env (Proved env api recursionLimit w₀ before) w) recursionLimit given
      (fun m hm hbacked' => licensed_of_signedByBound env
        (Acts.trace_prefix (Activity.rel_messages env (R := Acts) (acts_openCommand env)
          (show m ∈ (Activity.write given).messages env recursionLimit w from hm)))
        (hseeds m hm) (hsigned m hm) hbacked')
      (fun sessionId ref keyMaterial key hget hmem hload =>
        provedSince_of_accepted env List.prefix_rfl hload ⟨ref, keyMaterial, hget, hmem, hload⟩)
      (hbacked.mono fun s hs => Or.inl hs)
    refine hcarried.mono ?_
    rintro s (hs | ⟨events, htrace, hevents⟩)
    · exact hmono s hs
    · refine ⟨before, .write given, [], rfl, events, ?_, ?_⟩
      · rw [← hw]
        exact htrace
      · rw [← hw]
        exact hevents

/-! ### Runs -/

/-- **Every verified session is proved**: whenever a stored session is verified, a
signature was accepted for it earlier, under a public key that was bound to it before
the write that carried the signature came. -/
def AllProved (w : World) (activities : List Activity) : Prop :=
  ∀ before after, activities = before ++ after → ∀ sessionId ref,
    (performAll env api recursionLimit w before).pairing.pkiSessions.get? sessionId = some ref →
      ((performAll env api recursionLimit w before).pairing.sessions.read ref).signatureVerified =
        true → Proved env api recursionLimit w before sessionId

/-- **Where verified sessions come from**: in a run that starts without sessions, in
which no session is seeded, no PKI command brings the key it is signed with, and no
verified session is recovered, every verified session is proved. -/
theorem proved_of_boundSignatures {w : World} (hstart : w.pairing.pkiSessions = .empty)
    {activities : List Activity} (hseeds : NoSeeds env api recursionLimit w activities)
    (hsigned : BoundSignatures env api recursionLimit w activities) :
    AllProved env api recursionLimit w activities := by
  intro before after hsplit sessionId ref hget hverified
  suffices hbacked : Backed (Proved env api recursionLimit w before)
      (performAll env api recursionLimit w before) from
        (hbacked sessionId ref hget).verified hverified
  clear hget hverified
  induction before using List.reverseRecOn generalizing after with
  | nil =>
    intro s ref hget
    change w.pairing.pkiSessions.get? s = some ref at hget
    rw [hstart, Dict.get_empty] at hget
    cases hget
  | append_singleton before activity ih =>
    have hsplit' : activities = before ++ activity :: after := by
      rw [hsplit, List.append_assoc, List.singleton_append]
    exact backed_perform env api recursionLimit (hseeds before activity after hsplit')
      (hsigned before activity after hsplit') (ih _ hsplit')

/-! ### Two commands -/

/-- A platform on which the signatures of one key are valid. -/
def signer (name : String) : Platform :=
  { Platform.plain with
    verify := fun (key : String) _ _ =>
      if key = name then .ok () else .error ⟨.invalidSignature, ""⟩ }

/-- A PKI command for the session of the first telephone. -/
def signedCommand (certificate : Json) : Activity :=
  .write (.command (.obj [("type", .str "pki_command"), ("sessionId", .str "a"),
    ("certificate", certificate), ("signature", .str "00"), ("encryptedPayload", .str "x"),
    ("timestamp", .int 1)]))

/-- The PIN of the first telephone is verified, and then a command comes. -/
def signedRun (certificate : Json) : List Activity := firstVerified ++ [signedCommand certificate]

/-- The process when the command comes. -/
def whenSigned (name : String) : World :=
  performAll (signer name) twoTelephones 1000 {} firstVerified

/-- A run of the three activities, taken apart. -/
theorem signedRun_split {certificate : Json} {before : List Activity} {activity : Activity}
    {after : List Activity} (h : signedRun certificate = before ++ activity :: after) :
    (before = [] ∧ activity = .challenge) ∨
      (before = [.challenge] ∧ ∃ status, activity = .pinStatus status) ∨
        before = firstVerified ∧ activity = signedCommand certificate := by
  rcases before with _ | ⟨b₁, _ | ⟨b₂, _ | ⟨b₃, before⟩⟩⟩
  · cases h
    exact Or.inl ⟨rfl, rfl⟩
  · cases h
    exact Or.inr (Or.inl ⟨rfl, _, rfl⟩)
  · cases h
    exact Or.inr (Or.inr ⟨rfl, rfl⟩)
  · have hlength := congrArg List.length h
    simp [signedRun, firstVerified] at hlength

/-- Only the command has messages. -/
theorem of_mem_messages_signedRun {name : String} {certificate : Json} {before : List Activity}
    {activity : Activity} {after : List Activity} {m : Message}
    (h : signedRun certificate = before ++ activity :: after)
    (hm : m ∈ activity.messages (signer name) 1000
      (performAll (signer name) twoTelephones 1000 {} before)) :
    before = firstVerified ∧
      m ∈ (signedCommand certificate).messages (signer name) 1000 (whenSigned name) := by
  rcases signedRun_split h with ⟨-, rfl⟩ | ⟨-, status, rfl⟩ | ⟨rfl, rfl⟩
  · exact absurd hm List.not_mem_nil
  · exact absurd hm List.not_mem_nil
  · exact ⟨rfl, hm⟩

/-! ### A command that is signed with a bound key -/

theorem checked_messages :
    (((signedCommand .null).messages (signer "key a") 1000 (whenSigned "key a")).all fun m =>
      m.requestType = "pki_command" && payloadSession (signer "key a") m.payload = "a" &&
        (m.world.pairing.pkiSessions.get? "a").isSome &&
          usableKeys (signer "key a") m.world m.payload = ["key a"]) = true := by
  decide +kernel

theorem checked_whenSigned :
    ((whenSigned "key a").pairing.pkiSessions.get? "a").any
      (fun ref => triedKeys ((whenSigned "key a").pairing.sessions.read ref) = ["key a"]) =
        true := by
  decide +kernel

theorem boundTo_whenSigned : BoundTo (signer "key a") (whenSigned "key a") "a" "key a" := by
  obtain ⟨ref, hget, hkeys⟩ := (Option.any_eq_true _ _).mp checked_whenSigned
  refine ⟨ref, "key a", hget, ?_, rfl⟩
  rw [of_decide_eq_true hkeys]
  exact List.mem_singleton_self _

theorem noSeeds_signedRun : NoSeeds (signer "key a") twoTelephones 1000 {} (signedRun .null) := by
  intro before activity after hsplit m hm
  obtain ⟨-, hm⟩ := of_mem_messages_signedRun hsplit hm
  have hchecked := List.all_eq_true.mp checked_messages m hm
  simp only [Bool.and_eq_true, decide_eq_true_eq] at hchecked
  rw [hchecked.1.1.1]
  decide

theorem boundSignatures_signedRun :
    BoundSignatures (signer "key a") twoTelephones 1000 {} (signedRun .null) := by
  intro before activity after hsplit m hm _
  obtain ⟨hbefore, hcommand⟩ := of_mem_messages_signedRun hsplit hm
  subst hbefore
  have hchecked := List.all_eq_true.mp checked_messages m hcommand
  simp only [Bool.and_eq_true, decide_eq_true_eq] at hchecked
  obtain ⟨⟨⟨-, hsession⟩, hsome⟩, hkeys⟩ := hchecked
  refine ⟨fun hnone _ => ?_, fun _ _ keyMaterial hmem _ => ?_⟩
  · rw [hsession] at hnone
    rw [hnone] at hsome
    cases hsome
  · rw [hkeys, List.mem_singleton] at hmem
    subst hmem
    rw [hsession]
    exact ⟨"key a", rfl, boundTo_whenSigned⟩

/-- The session that is verified in this run is proved. -/
theorem allProved_signedRun :
    AllProved (signer "key a") twoTelephones 1000 {} (signedRun .null) :=
  proved_of_boundSignatures _ _ _ rfl noSeeds_signedRun boundSignatures_signedRun

/-! ### A command that brings its own key -/

/-- A certificate with a key of its own. -/
def ownCertificate : Json := .obj [("publicKey", .str "own key")]

/-- The state the run ends in. -/
def afterOwnKey : World :=
  performAll (signer "own key") twoTelephones 1000 {} (signedRun ownCertificate)

/-- The one signature that is accepted is accepted under the key of the command. -/
theorem trace_afterOwnKey :
    (whenSigned "own key").trace = [] ∧
      afterOwnKey.trace = [.signatureAccepted "a" "own key"] := by
  decide +kernel

/-- Before the command, the key of the telephone is the only one bound to the session. -/
theorem triedKeys_whenSigned :
    ((whenSigned "own key").pairing.pkiSessions.get? "a").all
      (fun ref => triedKeys ((whenSigned "own key").pairing.sessions.read ref) = ["key a"]) =
        true := by
  decide +kernel

theorem not_stored_challenged :
    (performAll (signer "own key") twoTelephones 1000 {}
      [.challenge]).pairing.pkiSessions.get? "a" = none := by
  decide +kernel

theorem verified_afterOwnKey :
    (afterOwnKey.pairing.pkiSessions.get? "a").any
      (fun ref => (afterOwnKey.pairing.sessions.read ref).signatureVerified) = true := by
  decide +kernel

theorem not_proved_afterOwnKey :
    ¬ Proved (signer "own key") twoTelephones 1000 {} (signedRun ownCertificate) "a" := by
  rintro ⟨before, activity, after, hsplit, events, htrace, e, he, keyMaterial, key, rfl, hload,
    ref, bound, hget, hmem, hload'⟩
  rcases signedRun_split hsplit with ⟨rfl, -⟩ | ⟨rfl, -⟩ | ⟨rfl, rfl⟩
  · cases hget
  · rw [not_stored_challenged] at hget
    cases hget
  · have hkeys := triedKeys_whenSigned
    change (whenSigned "own key").pairing.pkiSessions.get? "a" = some ref at hget
    change bound ∈ triedKeys ((whenSigned "own key").pairing.sessions.read ref) at hmem
    change afterOwnKey.trace = (whenSigned "own key").trace ++ events at htrace
    rw [hget, Option.all_some, decide_eq_true_eq] at hkeys
    rw [hkeys, List.mem_singleton] at hmem
    rw [trace_afterOwnKey.1, trace_afterOwnKey.2, List.nil_append] at htrace
    rw [← htrace, List.mem_singleton] at he
    cases he
    subst hmem
    -- the two texts are different keys
    have hne : loadRemotePublicKey (signer "own key") "own key" ≠
        loadRemotePublicKey (signer "own key") "key a" := by
      intro h
      have hkey : ("own key" : String) = "key a" := Except.ok.inj h
      revert hkey
      decide
    exact hne (hload.trans hload'.symm)

theorem noSeeds_ownKey :
    NoSeeds (signer "own key") twoTelephones 1000 {} (signedRun ownCertificate) := by
  intro before activity after hsplit m hm
  obtain ⟨-, hm⟩ := of_mem_messages_signedRun hsplit hm
  have hchecked : (((signedCommand ownCertificate).messages (signer "own key") 1000
      (whenSigned "own key")).all fun m => m.requestType = "pki_command") = true := by
    decide +kernel
  have htype := List.all_eq_true.mp hchecked m hm
  rw [decide_eq_true_eq] at htype
  rw [htype]
  decide

/-- **A command can bring its own key**: it verifies a session that nothing proves. -/
theorem ownKey_notProved : ¬∀ (env : Platform) (api : PairingApi) (recursionLimit : ℕ) (w : World)
    (activities : List Activity), w.pairing.pkiSessions = .empty → w.pairing.pkiState = none →
      w.pairing.cachedPkiPayload = none → w.pairing.pkiFile = .missing →
        NoSeeds env api recursionLimit w activities →
          AllProved env api recursionLimit w activities := by
  intro h
  have hall := h (signer "own key") twoTelephones 1000 {} (signedRun ownCertificate) rfl rfl rfl rfl
    noSeeds_ownKey _ [] (List.append_nil _).symm "a"
  obtain ⟨ref, hget, hverified⟩ := (Option.any_eq_true _ _).mp verified_afterOwnKey
  exact not_proved_afterOwnKey (hall ref hget hverified)

end DigitalKey

end VehicleStack
