import VehicleStack.DigitalKey.KeyStorage

/-!
# The flag that allows pairing

A challenge is given if the key store is empty or a flag file is there. `enable_pairing` makes
the file; of all that adds a key, only a pairing result that stores one removes it. A handshake
that is acknowledged and a certificate exchange leave it, so the next telephone may pair as
well (`VehicleStack.DigitalKey.Consumes`). What is shown is when a registration closes pairing
for good, until it is enabled again
(`VehicleStack.DigitalKey.closed_after_registration_iff`).
-/

namespace VehicleStack

namespace DigitalKey

open Effect

variable (env : Platform) (api : PairingApi)

/-! ### Enabling, registering, refusing -/

/-- `enable_pairing`, told whether the file could be made. -/
def enablePairing (made : Bool) : Py Unit :=
  Py.setPairing fun p => { p with pairingFlag := p.pairingFlag || made }

/-- What happens in a run in which pairing may be enabled. -/
inductive PairingStep where
  /-- `enable_pairing`. -/
  | enable (made : Bool)
  /-- An activity of the process. -/
  | activity (activity : Activity)

/-- The world after one step of such a run. -/
def pairingStep (recursionLimit : ℕ) (w : World) : PairingStep → World
  | .enable made => (exec (enablePairing made) w).2
  | .activity activity => perform env api recursionLimit w activity

/-- The world after a run in which pairing may be enabled. -/
def pairingRun (recursionLimit : ℕ) (w : World) (steps : List PairingStep) : World :=
  steps.foldl (pairingStep env api recursionLimit) w

/-- A telephone registers a key: its pairing result is acknowledged, or its certificate
exchange puts one into the store. -/
def Registers (recursionLimit : ℕ) (w : World) : Activity → Prop
  | .write (.pairingResult payload) =>
    ∃ members w', exec (handlePairingResult env payload) w = (.ok (true, .obj members), w') ∧
      members.lookup "status" = some (.str "OK")
  | .write (.command payload) =>
    ∃ key, .stored .certExchange key ∈
      (exec (process env recursionLimit payload) w).2.trace.drop w.trace.length
  | _ => False

/-- The challenge that says that pairing is not enabled. -/
def disabledChallenge (now : ℤ) : Json :=
  .obj [("status", .str "DISABLED"),
    ("message", .str "Pairing not enabled"),
    ("deviceId", .str api.deviceId),
    ("issuedAt", .int now)]

/-- `build_challenge` says that pairing is not enabled, and does nothing else. -/
def Refused (w : World) : Prop :=
  exec (buildChallenge env api) w =
    (.ok (disabledChallenge api (env.timeMs w.tick)), { w with tick := w.tick + 1 })

/-- A pairing result that is not the message of a handshake has the flag file removed, if that
can be done when its turn comes. -/
def Consumes (w : World) : Activity → Prop
  | .write (.pairingResult payload) =>
    payload.has "clientNonce" = false ∧ payload.has "signature" = false ∧
      env.unlink (w.tick + 1) = true
  | _ => False

/-- There are keys in the store. -/
def HasKeys (w : World) : Prop := w.store.keys.entries ≠ []

/-! ### When a challenge is refused -/

variable {env api}

/-- The world has been asked for as much, or more. -/
def Later (w w' : World) : Prop := w.tick ≤ w'.tick

instance : IsPreorder World Later where
  refl _ := le_rfl
  trans _ _ _ h h' := Nat.le_trans h h'

theorem storeless_later (env : Platform) : Storeless env Later where
  step _ h := h.tick_le
  keeps_exportPkiSessionState := by
    refine keeps_bind (Py.keeps_pairing _) fun current => ?_
    cases current with
    | none => exact keeps_bind (fun w => Nat.le_succ w.tick) fun _ w => refl_of Later w
    | some ref =>
      refine keeps_bind (Py.keeps_session ref) fun _ =>
        keeps_bind (fun w => Nat.le_succ w.tick) fun result => ?_
      cases result with
      | written => exact fun w => refl_of Later w
      | refused message => exact keeps_pure _
      | truncated message => exact fun w => refl_of Later w

/-- **A challenge is refused** exactly if there are keys and no flag. -/
theorem refused_iff {w : World} :
    Refused env api w ↔ HasKeys w ∧ w.pairing.pairingFlag = false := by
  have hallowed : exec isPairingAllowed w =
      (.ok (w.store.keys.entries.isEmpty || w.pairing.pairingFlag), w) := rfl
  have hiff : (w.store.keys.entries.isEmpty || w.pairing.pairingFlag) = false ↔
      HasKeys w ∧ w.pairing.pairingFlag = false := by
    rw [Bool.or_eq_false_iff, HasKeys, ← Bool.not_eq_true, List.isEmpty_iff]
  rw [← hiff, Refused, buildChallenge, exec_bind_of_ok hallowed]
  cases w.store.keys.entries.isEmpty || w.pairing.pairingFlag with
  | false => exact iff_of_true rfl rfl
  | true =>
    refine iff_of_false (fun h => ?_) Bool.noConfusion
    -- what is asked before a PIN is requested, and afterwards the world is asked for more
    have htick := congrArg (fun r => r.2.tick) h
    rw [if_pos rfl, exec_bind_of_ok (Py.exec_ask w _), exec_bind_of_ok (Py.exec_ask _ _)] at htick
    have hmore := (storeless_later env).keeps_allowedChallenge api
      (env.b64encode (env.urandom w.tick 16)) (env.timeMs (w.tick + 1))
      { w with tick := w.tick + 1 + 1 }
    exact absurd (Nat.le_trans hmore (Nat.le_of_eq htick)) (Nat.not_succ_le_self _)

/-! ### Who touches the flag -/

/-- The flag is as it was. -/
def SameFlag (w w' : World) : Prop := w'.pairing.pairingFlag = w.pairing.pairingFlag

instance : IsPreorder World SameFlag where
  refl _ := rfl
  trans _ _ _ h h' := h'.trans h

/-- Nothing but `_disable_pairing_flag` touches the flag. -/
theorem routine_sameFlag (env : Platform) : Routine env SameFlag where
  step _ h := h.pairingFlag
  keeps_exportPkiSessionState := by
    refine keeps_bind (Py.keeps_pairing _) fun current => ?_
    cases current with
    | none => exact keeps_bind (fun _ => rfl) fun _ _ => rfl
    | some ref =>
      refine keeps_bind (Py.keeps_session ref) fun _ => keeps_bind (fun _ => rfl) fun result => ?_
      cases result with
      | written => exact fun _ => rfl
      | refused message => exact keeps_pure _
      | truncated message => exact fun _ => rfl
  put _ _ _ _ _ := rfl
  sync _ _ _ := rfl
  write _ _ := rfl

/-- The flag is not there. -/
def NoFlag (w : World) : Prop := w.pairing.pairingFlag = false

theorem SameFlag.preserves {w w' : World} (h : SameFlag w w') : Preserves NoFlag w w' :=
  fun hflag => Eq.trans h hflag

/-- **A flag that is gone stays gone** until pairing is enabled. -/
theorem noFlag_performAll (recursionLimit : ℕ) {w : World} (h : NoFlag w)
    (activities : List Activity) : NoFlag (performAll env api recursionLimit w activities) := by
  have hroutine : Routine env (Preserves NoFlag) :=
    { step := fun h haside => SameFlag.preserves ((routine_sameFlag env).step h haside)
      keeps_exportPkiSessionState := fun w =>
        SameFlag.preserves ((routine_sameFlag env).keeps_exportPkiSessionState w)
      put := fun _ _ _ _ _ => id
      sync := fun _ _ _ => id
      write := fun _ _ => id }
  refine hroutine.rel_performAll api recursionLimit (fun w hflag => ?_) w activities h
  change (w.pairing.pairingFlag && !env.unlink w.tick) = false
  rw [hflag, Bool.false_and]

/-- **What a registration does to the flag**: it stays, unless the registration consumes it. -/
theorem noFlag_of_registers_iff {recursionLimit : ℕ} {w : World} {registration : Activity}
    (h : Registers env recursionLimit w registration) :
    NoFlag (perform env api recursionLimit w registration) ↔
      NoFlag w ∨ Consumes env w registration := by
  cases registration with
  | challenge => exact h.elim
  | pinStatus status => exact h.elim
  | expiry => exact h.elim
  | write write =>
    cases write with
    | command payload =>
      have hsame := (routine_sameFlag env).keeps_process recursionLimit payload w
      exact (iff_of_eq (congrArg (· = false) hsame)).trans (or_iff_left id).symm
    | pairingResult payload =>
      obtain ⟨members, w', hexec, -⟩ := h
      have hperform : perform env api recursionLimit w (.write (.pairingResult payload)) = w' :=
        congrArg Prod.snd hexec
      obtain ⟨sessionId, hexec⟩ := exec_handlePairingResult_eq_ok hexec
      rw [hperform]
      split at hexec
      · rename_i hhandshake
        have hsame := ((routine_sameFlag env).keeps_handlePairingHandshake sessionId
          payload).returns
          w _ _ hexec
        refine (iff_of_eq (congrArg (· = false) hsame)).trans (or_iff_left ?_).symm
        rintro ⟨hnonce, hsignature, -⟩
        rw [hnonce, hsignature] at hhandshake
        exact absurd hhandshake Bool.false_ne_true
      · rename_i hstorage
        obtain ⟨keyId, synced, w₁, hsync, rfl, -⟩ := exec_handlePairingKeyStorage_eq_ok hexec
        have hflag : w₁.pairing.pairingFlag = (w.pairing.pairingFlag && !env.unlink (w.tick + 1)) :=
          congrArg PairingManager.pairingFlag (exec_syncKeysFromServer_eq_ok hsync).1
        have hmembers := Bool.or_eq_false_iff.mp (Bool.eq_false_iff.mpr hstorage)
        refine (iff_of_eq (congrArg (· = false) hflag)).trans ?_
        rw [Bool.and_eq_false_iff, Bool.not_eq_false', NoFlag, Consumes, and_iff_right hmembers.1,
          and_iff_right hmembers.2]

/-! ### Keys in the store -/

theorem hasKeys_iff {w : World} : HasKeys w ↔ ∃ key, w.store.Has key := by
  constructor
  · intro h
    obtain ⟨e, he⟩ := List.exists_mem_of_ne_nil _ h
    exact ⟨e.1, Dict.get?_isSome_iff.mpr (List.mem_map_of_mem he)⟩
  · rintro ⟨key, hkey⟩ hnil
    have hmem := Dict.get?_isSome_iff.mp hkey
    rw [Dict.keys, hnil] at hmem
    exact absurd hmem List.not_mem_nil

theorem hasKeys_putKey (w : World) (source : Source) (key : DictKey) (keyId payload : Json) :
    HasKeys (w.putKey source key keyId payload) :=
  hasKeys_iff.mpr ⟨key, (KeyStore.has_put key).mpr (Or.inl rfl)⟩

theorem hasKeys_replaceKeys (w : World) {data : Dict String Json} (h : data.entries ≠ []) :
    HasKeys (w.replaceKeys data) := by
  obtain ⟨e, he⟩ := List.exists_mem_of_ne_nil _ h
  exact hasKeys_iff.mpr ⟨.str e.1, isSome_get_asKeys_iff.mpr (List.mem_map_of_mem he)⟩

/-- **A store that has keys** is never emptied. -/
theorem routine_hasKeys (env : Platform) : Routine env (Preserves HasKeys) where
  step _ h hkeys := by
    rw [HasKeys, h.store]
    exact hkeys
  keeps_exportPkiSessionState w hkeys := by
    rw [HasKeys, (storeless_sameStore env).keeps_exportPkiSessionState w]
    exact hkeys
  put w source key keyId payload _ := hasKeys_putKey w source key keyId payload
  sync w _ hdata _ := hasKeys_replaceKeys w hdata
  write _ _ := id

/-- The key of a certificate is in the store once it has been looked at. -/
theorem hasKeys_maybeStoreKeyFromCertificate (w : World) :
    HasKeys (exec (maybeStoreKeyFromCertificate env (.obj [("keyId", .str "k")])) w).2 := by
  have hknown : exec (knowsKey "k") w = (.ok ((w.store.getKey "k").any Json.truthy), w) := rfl
  have hmember : ∀ {β : Type} (f : Json → Py β) (name : String) (w : World),
      exec (Py.ofExcept ((Json.obj [("keyId", .str "k")]).get name) >>= f) w =
        exec (f ((List.lookup name [("keyId", Json.str "k")]).getD .null)) w := fun _ _ _ => rfl
  change HasKeys (exec (knowsKey "k" >>= fun known => Py.when (!known) _) w).2
  rw [exec_bind_of_ok hknown]
  cases hany : (w.store.getKey "k").any Json.truthy with
  | true =>
    obtain ⟨payload, hpayload, -⟩ := (Option.any_eq_true _ _).mp hany
    exact hasKeys_iff.mpr ⟨_, has_of_getKey hpayload⟩
  | false =>
    rw [Py.when, if_pos Bool.not_false, hmember, hmember, hmember,
      exec_bind_of_ok (Py.exec_ask w _)]
    refine exec_tryCatch_of_preserves ?_ fun _ => keeps_pure _
    rw [exec_upsertKey env _ rfl]
    exact (routine_hasKeys env).serving.keeps_flush _ (hasKeys_putKey _ _ _ _ _)

/-- `str.lower`, as far as ASCII goes. -/
def lowerAscii (lower : String → String) (text : String) : String :=
  if text.toList.all fun c => c.toNat < 128 then
    String.ofList (text.toList.map Char.toLower)
  else lower text

/-- A platform whose `str.lower` is Python's on ASCII. -/
def Platform.withLower (env : Platform) : Platform := { env with lower := lowerAscii env.lower }

theorem lower_pki_command : env.withLower.lower "pki_command" = "pki_command" := rfl

/-- A PKI command puts the key of its certificate into the store, whatever becomes of it. -/
theorem hasKeys_handlePkiCommand {inner : Json → Py Answer}
    (hinner : ∀ payload, Keeps (Preserves HasKeys) (inner payload)) {payload : Json}
    (hsession : payload.getFirst ["sessionId", "session_id"] = .ok (.str "s"))
    (hcertificate : payload.get "certificate" = .ok (.obj [("keyId", .str "k")])) (w : World) :
    HasKeys (exec (handlePkiCommand env inner payload) w).2 := by
  have hroutine := routine_hasKeys env
  have hid : pyStr env ((Json.str "s").or (.str "")) ≠ "" := by
    change "s" ≠ ""
    decide
  have hor : (Json.obj [("keyId", .str "k")]).or (.obj []) = .obj [("keyId", .str "k")] := rfl
  rw [handlePkiCommand, hsession, exec_bind_of_ok (Py.exec_ofExcept_ok w _)]
  dsimp only
  rw [if_neg hid, hcertificate, exec_bind_of_ok (Py.exec_ofExcept_ok w _), hor]
  refine exec_bind_of_preserves (hasKeys_maybeStoreKeyFromCertificate w) fun _ =>
    keeps_bind (hroutine.keeps_commandSession _ _) fun found => ?_
  cases found with
  | none => exact keeps_throw _
  | some ref =>
    refine keeps_bind (hroutine.keeps_refreshCertificateMaterial ref _) fun _ =>
      keeps_bind (Py.keeps_ofExcept _) fun _ => keeps_tryCatch ?_ fun _ => ?_
    · exact hroutine.keeps_runPkiCommand hinner _ _ ref _
    · exact keeps_bind (hroutine.keeps_ask _) fun _ => keeps_pure _

theorem handleTypedRequest_pkiCommand (depth : ℕ) (payload : Json) :
    handleTypedRequest env (depth + 1) "pki_command" payload =
      handlePkiCommand env (handleInnerSecureCommand env (handleTypedRequest env depth))
        payload := by
  rw [handleTypedRequest, if_neg (by decide), if_neg (by decide), if_neg (by decide), if_pos rfl]

/-- A telephone without a session can put a key into the store. -/
theorem hasKeys_namingPkiCommand (api : PairingApi) (recursionLimit : ℕ) (w : World) :
    HasKeys (perform env.withLower api (recursionLimit + 1) w (.write namingPkiCommand)) := by
  have hroutine := routine_hasKeys env.withLower
  obtain ⟨payload, hpayload⟩ : ∃ payload, payload = Json.obj [("type", .str "pki_command"),
    ("sessionId", .str "s"), ("certificate", .obj [("keyId", .str "k")])] := ⟨_, rfl⟩
  have htype : payload.getD "type" (.str "") = .ok (.str "pki_command") := by
    rw [hpayload]
    rfl
  have hlower : env.withLower.lower (pyStr env.withLower (.str "pki_command")) = "pki_command" :=
    lower_pki_command
  change HasKeys (handleWrite env.withLower (recursionLimit + 1) w namingPkiCommand)
  rw [namingPkiCommand, ← hpayload, handleWrite, process]
  refine exec_tryCatch_of_preserves ?_ fun e => ?_
  · rw [htype, exec_bind_of_ok (Py.exec_ofExcept_ok w _)]
    dsimp only
    rw [hlower, if_pos (by decide), handleTypedRequest_pkiCommand]
    refine hasKeys_handlePkiCommand
      (hroutine.keeps_handleInnerSecureCommand fun requestType payload =>
      hroutine.keeps_handleTypedRequest recursionLimit requestType payload) ?_ ?_ w
    · rw [hpayload]
      rfl
    · rw [hpayload]
      rfl
  · exact keeps_bind (Py.keeps_ofExcept _) fun _ => keeps_bind (Py.keeps_ofExcept _) fun _ =>
      keeps_bind (hroutine.keeps_ask _) fun _ => keeps_pure _

/-! ### One key at a time -/

/-- **When a registration closes pairing**: from then on, until pairing is enabled, a challenge
is refused whenever there are keys, exactly if the flag was not there or the registration
consumes it. -/
theorem closed_after_registration_iff (env : Platform) (api : PairingApi) (recursionLimit : ℕ)
    (w : World) (steps : List PairingStep) (registration : Activity)
    (h : Registers env.withLower (recursionLimit + 1)
      (pairingRun env.withLower api (recursionLimit + 1) w steps) registration) :
    (∀ activities,
      HasKeys (performAll env.withLower api (recursionLimit + 1)
        (pairingRun env.withLower api (recursionLimit + 1) w
          (steps ++ [.activity registration])) activities) →
      Refused env.withLower api (performAll env.withLower api (recursionLimit + 1)
        (pairingRun env.withLower api (recursionLimit + 1) w
          (steps ++ [.activity registration])) activities)) ↔
    NoFlag (pairingRun env.withLower api (recursionLimit + 1) w steps) ∨
      Consumes env.withLower (pairingRun env.withLower api (recursionLimit + 1) w steps)
        registration := by
  have hlast : pairingRun env.withLower api (recursionLimit + 1) w
      (steps ++ [.activity registration]) = perform env.withLower api (recursionLimit + 1)
        (pairingRun env.withLower api (recursionLimit + 1) w steps) registration :=
    List.foldl_concat ..
  rw [hlast, ← @noFlag_of_registers_iff _ api _ _ _ h]
  constructor
  · intro hclosed
    -- another telephone names a key, and the flag is as the registration left it
    have hrefused := hclosed [.write namingPkiCommand]
      (hasKeys_namingPkiCommand api recursionLimit _)
    have hflag := (refused_iff.mp hrefused).2
    exact Eq.trans
      ((routine_sameFlag env.withLower).keeps_process (recursionLimit + 1) _ _).symm hflag
  · intro hflag activities hkeys
    exact refused_iff.mpr ⟨hkeys, noFlag_performAll (recursionLimit + 1) hflag activities⟩

/-! ### A certificate exchange -/

/-- Pairing is enabled, and a telephone completes the handshake. -/
def enabledHandshake : List PairingStep :=
  [.enable true,
    .activity (.write (.command (.obj [("type", .str "handshake"),
      ("sessionId", .str "s"),
      ("clientPublicKey", .str "client key")])))]

/-- Its certificate exchange names a key. -/
def certExchange : Activity :=
  .write (.command (.obj [("type", .str "cert_exchange"),
    ("sessionId", .str "s"),
    ("certificate", .obj [("keyId", .str "k"), ("publicKey", .str "client key")])]))

theorem registers_certExchange :
    Registers Platform.plain.withLower 1
      (pairingRun Platform.plain.withLower twoTelephones 1 {} enabledHandshake) certExchange :=
  ⟨.str "k", by decide +kernel⟩

theorem closed_after_registration_iff_certExchange :
    (∀ activities,
      HasKeys (performAll Platform.plain.withLower twoTelephones 1
        (pairingRun Platform.plain.withLower twoTelephones 1 {}
          (enabledHandshake ++ [.activity certExchange])) activities) →
      Refused Platform.plain.withLower twoTelephones
        (performAll Platform.plain.withLower twoTelephones 1
          (pairingRun Platform.plain.withLower twoTelephones 1 {}
            (enabledHandshake ++ [.activity certExchange])) activities)) ↔
    NoFlag (pairingRun Platform.plain.withLower twoTelephones 1 {} enabledHandshake) ∨
      Consumes Platform.plain.withLower
        (pairingRun Platform.plain.withLower twoTelephones 1 {} enabledHandshake) certExchange :=
  closed_after_registration_iff .plain twoTelephones 0 {} enabledHandshake certExchange
    registers_certExchange

/-- After a certificate exchange the next telephone is given a challenge. -/
theorem certExchange_leavesOpen : ¬∀ (env : Platform) (api : PairingApi) (recursionLimit : ℕ)
    (steps : List PairingStep) (registration : Activity) (activities : List Activity),
    Registers env recursionLimit (pairingRun env api recursionLimit {} steps) registration →
      HasKeys (performAll env api recursionLimit
        (pairingRun env api recursionLimit {} (steps ++ [.activity registration])) activities) →
      Refused env api (performAll env api recursionLimit
        (pairingRun env api recursionLimit {} (steps ++ [.activity registration])) activities) := by
  intro h
  have hkeys : HasKeys (performAll Platform.plain.withLower twoTelephones 1
      (pairingRun Platform.plain.withLower twoTelephones 1 {}
        (enabledHandshake ++ [.activity certExchange])) []) :=
    hasKeys_iff.mpr ⟨.str "k", by decide +kernel⟩
  have hrefused := h Platform.plain.withLower twoTelephones 1 enabledHandshake certExchange []
    registers_certExchange hkeys
  have hflag : (performAll Platform.plain.withLower twoTelephones 1
      (pairingRun Platform.plain.withLower twoTelephones 1 {}
        (enabledHandshake ++ [.activity certExchange])) []).pairing.pairingFlag = true := by
    decide +kernel
  exact absurd ((refused_iff.mp hrefused).2.symm.trans hflag) Bool.false_ne_true

end DigitalKey

end VehicleStack
