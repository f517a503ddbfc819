import VehicleStack.Lib.Provenance
import VehicleStack.DigitalKey.Steps

/-!
# Which keys a command is sent for

A run is a sequence of writes, each of them a command or a pairing result, handled
one after the other. What stands between a write and the car is that the key of a
`LOCK`, `UNLOCK` or `START` has to be in the store, so the question is how a key
gets there.

`VehicleStack.DigitalKey.dispatched_accounted` answers it for every run: the key was
in the store at the start, or earlier in the run one of the three handlers that put
a key into the store put it there, or the server sent it. None of the three asks for
a signature (`VehicleStack.DigitalKey.unsigned_unlocks`): a telephone that has proved
nothing can name a key and then use it.
-/

namespace VehicleStack

namespace DigitalKey

open Effect Provenance

/-! ### What the trace grants and uses -/

/-- The commands that need a key. -/
def keyCommands : List String := ["LOCK", "UNLOCK", "START"]

/-- The keys an event puts into the store. -/
def Event.grants : Event → String → Prop
  | .stored _ key, k => key = .str k
  | .synced fresh, k => k ∈ fresh
  | _, _ => False

/-- The key an event is a command for. -/
def Event.uses : Event → String → Prop
  | .dispatched command keyId, k => command ∈ keyCommands ∧ keyId = k
  | _, _ => False

/-- What happened to the store and in the trace is accounted for. -/
abbrev Accounted : World → World → Prop :=
  Accounts Event.grants Event.uses World.trace fun w k => w.store.Has (.str k)

/-- **Every step is accounted for.** -/
theorem Step.accounted {w w' : World} (h : Step w w') : Accounted w w' := by
  cases h with
  | ask n => exact .of_eq rfl fun _ hk => hk
  | pair p => exact .of_eq rfl fun _ hk => hk
  | write file => exact .of_eq rfl fun _ hk => hk
  | accept sessionId keyPem => exact .of_event rfl (fun _ hk => Or.inl hk) fun _ huse => huse.elim
  | put source key keyId payload =>
    refine .of_event rfl (fun k hk => ?_) fun _ huse => huse.elim
    rcases (KeyStore.has_put _).mp hk with hnew | hold
    · exact Or.inr hnew.symm
    · exact Or.inl hold
  | sync data =>
    refine .of_event rfl (fun k hk => ?_) fun _ huse => huse.elim
    -- a key the server sent is fresh, or it was in the store before
    rcases Decidable.em (w.store.Has (.str k)) with hold | hfresh
    · exact Or.inl hold
    · exact Or.inr (List.mem_filter.mpr ⟨isSome_get_asKeys_iff.mp hk, by simpa using hfresh⟩)
  | query keyId =>
    refine .of_event rfl (fun _ hk => Or.inl hk) ?_
    rintro k ⟨hcommand, -⟩
    simp [keyCommands] at hcommand
  | dispatch command keyId hkey =>
    refine .of_event rfl (fun _ hk => Or.inl hk) ?_
    rintro k ⟨-, rfl⟩
    exact hkey

theorem Acts.accounted {w w' : World} (h : Acts w w') : Accounted w w' := by
  induction h with
  | refl => exact refl_of Accounted w
  | tail _ hstep ih => exact trans_of Accounted ih hstep.accounted

/-! ### Runs -/

/-- A write of the telephone. -/
inductive Write where
  /-- To the characteristic whose writes `CommandHandler.process` handles. -/
  | command (payload : Json)
  /-- To the one whose writes `PairingManager.handle_pairing_result` handles. -/
  | pairingResult (payload : Json)

variable (env : Platform) (recursionLimit : ℕ)

/-- The world after a write, whether it was answered or raised. -/
def handleWrite (w : World) : Write → World
  | .command payload => (exec (process env recursionLimit payload) w).2
  | .pairingResult payload => (exec (handlePairingResult env payload) w).2

/-- The world after some writes. -/
def handleWrites (w : World) (writes : List Write) : World :=
  writes.foldl (handleWrite env recursionLimit) w

/-- What happens in a run that starts in a world. -/
def events (w : World) (writes : List Write) : List Event :=
  (handleWrites env recursionLimit { w with trace := [] } writes).trace

theorem acts_handleWrite (w : World) (write : Write) :
    Acts w (handleWrite env recursionLimit w write) := by
  cases write with
  | command payload => exact (routine_acts env).keeps_process recursionLimit payload w
  | pairingResult payload =>
    exact (routine_acts env).keeps_handlePairingResult (acts_disablePairingFlag env) payload w

/-- **A run is a sequence of steps.** -/
theorem acts_handleWrites (w : World) (writes : List Write) :
    Acts w (handleWrites env recursionLimit w writes) := by
  induction writes generalizing w with
  | nil => exact .refl
  | cons write writes ih =>
    exact (acts_handleWrite env recursionLimit w write).trans (ih _)

/-- A run from a world, as far as keys are concerned. -/
theorem grounded_events (w : World) (writes : List Write) :
    Grounded Event.grants Event.uses (fun k => w.store.Has (.str k))
      (events env recursionLimit w writes) := by
  obtain ⟨new, htrace, -, hgrounded⟩ :=
    (acts_handleWrites env recursionLimit { w with trace := [] } writes).accounted
  rw [List.nil_append] at htrace
  rw [events, htrace]
  exact hgrounded

theorem granted_iff {before : List Event} {k : String} :
    Granted Event.grants before k ↔
      (∃ source, .stored source (.str k) ∈ before) ∨ ∃ fresh, .synced fresh ∈ before ∧
        k ∈ fresh := by
  constructor
  · rintro ⟨e, he, hgrants⟩
    cases e with
    | stored source key => exact Or.inl ⟨source, hgrants ▸ he⟩
    | synced fresh => exact Or.inr ⟨fresh, he, hgrants⟩
    | dispatched => exact hgrants.elim
    | signatureAccepted => exact hgrants.elim
  · rintro (⟨source, h⟩ | ⟨fresh, h, hk⟩)
    · exact ⟨_, h, rfl⟩
    · exact ⟨_, h, hk⟩

/-- **Where the key of a command comes from.** Whatever the writes of a run are and
however they are nested, a `LOCK`, `UNLOCK` or `START` is sent for a key that was in
the store at the start, that a pairing result, a certificate exchange or the
certificate of a PKI command put there before, or that the server sent before. -/
theorem dispatched_accounted (w : World) (writes : List Write) (before after : List Event)
    (command keyId : String)
    (hevents : events env recursionLimit w writes = before ++ .dispatched command keyId :: after)
    (hcommand : command ∈ keyCommands) :
    w.store.Has (.str keyId) ∨ (∃ source, .stored source (.str keyId) ∈ before) ∨
      ∃ fresh, .synced fresh ∈ before ∧ keyId ∈ fresh :=
  (grounded_events env recursionLimit w writes before _ after keyId hevents
    ⟨hcommand, rfl⟩).imp_right granted_iff.mp

/-! ### Keys nobody signed for -/

/-- A run in which no signature is accepted and the server sends no new key leaves the
car to the keys that were in the store. -/
def Authorised (w : World) (writes : List Write) : Prop :=
  (∀ sessionId keyPem, .signatureAccepted sessionId keyPem ∉ events env recursionLimit w writes) →
    (∀ fresh, .synced fresh ∈ events env recursionLimit w writes → fresh = []) →
      ∀ command ∈ keyCommands, ∀ keyId,
        .dispatched command keyId ∈ events env recursionLimit w writes → w.store.Has (.str keyId)

/-- A command for a key. -/
def unlockCommand : Write :=
  .command (.obj [("command", .str "UNLOCK"), ("keyId", .str "k"), ("timestamp", .int 1)])

/-- A pairing result that names a key. -/
def namingPairingResult : Write :=
  .pairingResult (.obj [("sessionId", .str "s"), ("keyId", .str "k")])

/-- A PKI command for no session, whose certificate names a key. -/
def namingPkiCommand : Write :=
  .command (.obj [("type", .str "pki_command"), ("sessionId", .str "s"),
    ("certificate", .obj [("keyId", .str "k")])])

/-- A handshake, and a certificate exchange whose certificate names a key. -/
def namingCertExchange : List Write :=
  [.command (.obj [("type", .str "handshake"), ("sessionId", .str "s"),
      ("clientPublicKey", .str "client key")]),
    .command (.obj [("type", .str "cert_exchange"), ("sessionId", .str "s"),
      ("certificate", .obj [("keyId", .str "k"), ("publicKey", .str "client key")])])]

/-- The trace of a run that names a key and then uses it. -/
def namedAndUsed (source : Source) : List Event :=
  [.stored source (.str "k"), .dispatched "UNLOCK" "k", .dispatched "GET_ALL" "k"]

theorem events_pairingResult :
    events .plain 1000 {} [namingPairingResult, unlockCommand] = namedAndUsed .pairingResult := by
  decide +kernel

theorem dispatched_accounted_pairingResult :
    ({} : World).store.Has (.str "k") ∨
      (∃ source, .stored source (.str "k") ∈ [Event.stored .pairingResult (.str "k")]) ∨
        ∃ fresh, .synced fresh ∈ [Event.stored .pairingResult (.str "k")] ∧ "k" ∈ fresh :=
  dispatched_accounted .plain 1000 {} [namingPairingResult, unlockCommand] _
    [.dispatched "GET_ALL" "k"] "UNLOCK" "k" events_pairingResult (by simp [keyCommands])

theorem events_pkiCommand :
    events .plain 1000 {} [namingPkiCommand, unlockCommand] = namedAndUsed .pkiCertificate := by
  decide +kernel

theorem events_certExchange :
    events .plain 1000 {} (namingCertExchange ++ [unlockCommand]) = namedAndUsed .certExchange := by
  decide +kernel

theorem not_authorised_of_namedAndUsed {writes : List Write} {source : Source}
    (h : events .plain 1000 {} writes = namedAndUsed source) :
    ¬ Authorised .plain 1000 {} writes := by
  intro hauthorised
  have hstored : (({} : World).store).Has (.str "k") := by
    refine hauthorised ?_ ?_ "UNLOCK" (by simp [keyCommands]) "k" ?_
    · simp [h, namedAndUsed]
    · simp [h, namedAndUsed]
    · simp [h, namedAndUsed]
  cases hstored

/-- **A key can be named and used without any signature**, by each of the three
handlers that put keys into the store. -/
theorem unsigned_unlocks :
    ¬ Authorised .plain 1000 {} [namingPairingResult, unlockCommand] ∧
      ¬ Authorised .plain 1000 {} [namingPkiCommand, unlockCommand] ∧
        ¬ Authorised .plain 1000 {} (namingCertExchange ++ [unlockCommand]) :=
  ⟨not_authorised_of_namedAndUsed events_pairingResult,
    not_authorised_of_namedAndUsed events_pkiCommand,
    not_authorised_of_namedAndUsed events_certExchange⟩

end DigitalKey

end VehicleStack
