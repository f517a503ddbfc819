import VehicleStack.DigitalKey.Challenge

/-!
# A key that is acknowledged

A pairing result that names a key is answered with `"Key stored"` once the key is in the
store and the file is written. But before the answer goes out the server is asked for its
keys, and what it says replaces the store. Whether the key is still there then is up to the
server (`VehicleStack.DigitalKey.ServerKeeps`), and
`VehicleStack.DigitalKey.acknowledgedKey_isSome_iff` is the main result.
-/

namespace VehicleStack

namespace DigitalKey

open Effect

variable (env : Platform)

/-! ### What the server names -/

/-- The key id of an entry of the server's list, if it has one. -/
def entryKey (entry : Json) : Option String :=
  if entry.isDict then
    match entry.getFirst ["keyId", "id"] with
    | .ok keyId => if keyId.isNone then none else some (pyStr env keyId)
    | .error _ => none
  else none

/-- The keys the server names. -/
def namedKeys (entries : List Json) : List String := entries.filterMap (entryKey env)

/-- What the loop of `sync_keys_from_server` does with one entry. -/
def syncEntry (mapping : Dict String Json) (entry : Json) : Except PyError (Dict String Json) :=
  if entry.isDict then do
    let keyId ← entry.getFirst ["keyId", "id"]
    .ok (if keyId.isNone then mapping else mapping.set (pyStr env keyId) entry)
  else .ok mapping

variable {env}

/-- No entry raises; one with a key id is stored under it. -/
theorem syncEntry_eq (mapping : Dict String Json) (entry : Json) :
    syncEntry env mapping entry =
      .ok (match entryKey env entry with
        | some key => mapping.set key entry
        | none => mapping) := by
  cases entry with
  | obj members =>
    obtain ⟨keyId, hkeyId⟩ := Json.exists_getFirst members ["keyId", "id"]
    rw [syncEntry, entryKey, hkeyId]
    cases keyId <;> rfl
  | null => rfl
  | bool b => rfl
  | int z => rfl
  | float bits => rfl
  | str s => rfl
  | arr items => rfl

/-- **What the server's list becomes**: a mapping from the keys it names. -/
theorem exists_syncMapping_eq (entries : List Json) :
    ∃ mapping, syncMapping env entries = .ok mapping ∧
      ∀ k, k ∈ mapping.keys ↔ k ∈ namedKeys env entries := by
  have hfold : ∀ (entries : List Json) (d : Dict String Json), ∃ mapping,
      entries.foldlM (syncEntry env) d = .ok mapping ∧
        ∀ k, k ∈ mapping.keys ↔ k ∈ d.keys ∨ k ∈ namedKeys env entries := by
    intro entries
    induction entries with
    | nil => exact fun d => ⟨d, rfl, fun k => by simp [namedKeys]⟩
    | cons entry entries ih =>
      intro d
      rw [List.foldlM_cons, syncEntry_eq]
      obtain ⟨mapping, hmapping, hkeys⟩ := ih (match entryKey env entry with
        | some key => d.set key entry
        | none => d)
      refine ⟨mapping, hmapping, fun k => ?_⟩
      rw [hkeys, namedKeys, namedKeys, List.filterMap_cons]
      cases entryKey env entry with
      | none => rfl
      | some key =>
        dsimp only
        rw [← Dict.get?_isSome_iff, Dict.get_set, List.mem_cons, ← Dict.get?_isSome_iff]
        by_cases hk : k = key <;> simp [hk]
  obtain ⟨mapping, hmapping, hkeys⟩ := hfold entries .empty
  refine ⟨mapping, hmapping, fun k => (hkeys k).trans (or_iff_right ?_)⟩
  exact List.not_mem_nil

/-! ### The key before the server is asked -/

/-- The world once a key was stored and its acknowledgement is on the way, before the server
is asked for its keys. -/
def keyStored (env : Platform) (w : World) (sessionId keyId : String) (payload : Json) : World :=
  let stored := w.putKey .pairingResult (.str keyId) (.str keyId) payload
  { stored with
    store := { stored.store with file := .object (stored.store.members env) }
    pairing :=
      { w.pairing with
        pinSessionState := w.pairing.pinSessionState.map fun pin =>
          if pin.sessionId = sessionId then { pin with status := "KEY_STORED", active := false }
          else pin
        pairingFlag := w.pairing.pairingFlag && !env.unlink (w.tick + 1)
        pinPoller := false }
    tick := w.tick + 2 }

/-- **A key storage that is acknowledged**: the key was stored, and then the server was
asked. -/
theorem exec_handlePairingKeyStorage_eq_ok {w w' : World} {sessionId : String}
    {payload answer : Json}
    (h : exec (handlePairingKeyStorage env sessionId payload) w = (.ok (true, answer), w')) :
    ∃ keyId synced w₁,
      exec (syncKeysFromServer env) (keyStored env w sessionId keyId payload) = (.ok synced, w₁) ∧
      w' = { w₁ with tick := w₁.tick + 1 } ∧
      answer = .obj [("status", .str "OK"), ("message", .str "Key stored"),
        ("sessionId", .str sessionId), ("keyId", .str keyId),
        ("timestamp", .int (env.timeMs w₁.tick))] := by
  cases hget : payload.get "keyId" with
  | error e =>
    rw [handlePairingKeyStorage, hget, exec_bind_of_error (Py.exec_ofExcept_error w e)] at h
    cases h
  | ok given =>
    rw [handlePairingKeyStorage, hget, exec_bind_of_ok (Py.exec_ofExcept_ok w given)] at h
    dsimp only at h
    obtain ⟨keyId, hkeyId⟩ : ∃ keyId, keyId = pyStr env (given.or (.str "")) := ⟨_, rfl⟩
    rw [← hkeyId] at h
    split at h
    · cases h
    · obtain ⟨failed, w₂, hfailed, h⟩ := exec_bind_eq_ok.mp h
      cases failed with
      | some e => cases h
      | none =>
        -- the upsert returned, so the file was written
        have hupsert : exec (upsertKey env .pairingResult (.str keyId) payload) w =
          (.ok ⟨⟩, w₂) := by
          rw [exec_tryCatch, exec_bind] at hfailed
          rcases hres : exec (upsertKey env .pairingResult (.str keyId) payload) w with
            ⟨e | u, w₃⟩ <;>
            rw [hres] at hfailed
          · cases hfailed
          · cases hfailed
            rfl
        rw [exec_upsertKey env w rfl] at hupsert
        obtain ⟨-, -, rfl⟩ := exec_flush_eq_ok env hupsert
        dsimp only at h
        rw [exec_bind_of_ok (Py.exec_setPairing _ _), disablePairingFlag, bind_assoc,
          exec_bind_of_ok (Py.exec_ask _ _), exec_bind_of_ok (Py.exec_setPairing _ _),
          stopPinStatusPoller, exec_bind_of_ok (Py.exec_setPairing _ _)] at h
        obtain ⟨synced, w₁, hsync, h⟩ := exec_bind_eq_ok.mp h
        refine ⟨keyId, synced, w₁, hsync, ?_⟩
        rw [exec_bind_of_ok (Py.exec_ask _ _)] at h
        cases h
        exact ⟨rfl, rfl⟩

/-! ### What the server leaves -/

/-- The keys the server names when it is asked now; none if it is not there or does not
answer. -/
def answeredKeys (env : Platform) (n : ℕ) : List String :=
  if env.apiClient then
    match env.fetchKeys n with
    | .ok entries => namedKeys env entries
    | .error _ => []
  else []

/-- The server names the key, or none at all. -/
def ServerKeeps (env : Platform) (n : ℕ) (keyId : String) : Prop :=
  answeredKeys env n = [] ∨ keyId ∈ answeredKeys env n

/-- **A synchronisation that returns** leaves the store alone, or leaves the keys the server
names; the manager it leaves alone. -/
theorem exec_syncKeysFromServer_eq_ok {w w' : World} {synced : Bool}
    (h : exec (syncKeysFromServer env) w = (.ok synced, w')) :
    w'.pairing = w.pairing ∧ (answeredKeys env w.tick = [] → w'.store = w.store) ∧
      (answeredKeys env w.tick ≠ [] →
        ∀ k, w'.store.Has (.str k) ↔ k ∈ answeredKeys env w.tick) := by
  rw [syncKeysFromServer] at h
  split at h
  · rename_i hclient
    rw [exec_bind_of_ok (Py.exec_ask w _)] at h
    rw [answeredKeys, if_pos hclient]
    cases hfetch : env.fetchKeys w.tick with
    | error e =>
      rw [hfetch] at h
      dsimp only at h
      split at h
      · cases h
        exact ⟨rfl, fun _ => rfl, fun hne => absurd rfl hne⟩
      · cases h
    | ok entries =>
      obtain ⟨mapping, hmapping, hkeys⟩ := @exists_syncMapping_eq env entries
      rw [hfetch] at h
      dsimp only at h ⊢
      rw [hmapping, exec_bind_of_ok (Py.exec_ofExcept_ok _ mapping)] at h
      split at h
      · rename_i hempty
        cases h
        refine ⟨rfl, fun _ => rfl, fun hne => absurd ?_ hne⟩
        refine List.eq_nil_iff_forall_not_mem.mpr fun k hk => ?_
        have hmem := (hkeys k).mpr hk
        rw [Dict.keys, List.isEmpty_iff.mp hempty] at hmem
        exact absurd hmem List.not_mem_nil
      · rename_i hempty
        obtain ⟨u, w₁, hreplace, h⟩ := exec_bind_eq_ok.mp h
        cases h
        rw [exec_replaceAll] at hreplace
        obtain ⟨-, -, rfl⟩ := exec_flush_eq_ok env hreplace
        refine ⟨rfl, fun hnil => ?_, fun _ k => isSome_get_asKeys_iff.trans (hkeys k)⟩
        obtain ⟨e, he⟩ := List.exists_mem_of_ne_nil _ fun hnil => hempty (List.isEmpty_iff.mpr hnil)
        have hmem := (hkeys e.1).mp (List.mem_map_of_mem he)
        rw [hnil] at hmem
        exact absurd hmem List.not_mem_nil
  · rename_i hclient
    rw [answeredKeys, if_neg hclient]
    cases h
    exact ⟨rfl, fun _ => rfl, fun hne => absurd rfl hne⟩

/-! ### Which acknowledgements name a key -/

/-- The acknowledgement of a handshake names no key. -/
theorem returns_handlePairingHandshake (sessionId : String) (payload : Json) (w : World) :
    Returns (fun answer _ => answer.1 = true →
      ∃ members, answer.2 = .obj members ∧ members.lookup "keyId" = none)
      (handlePairingHandshake env sessionId payload) w := by
  have hfailed : ∀ (members : List (String × Json)) (w : World),
      Returns (fun (answer : Answer) _ => answer.1 = true →
        ∃ members, answer.2 = .obj members ∧ members.lookup "keyId" = none)
        (errorStatus env members) w := by
    rintro members w answer w' ⟨⟩ ⟨⟩
  refine returns_bind (returns_true _ w) fun found w _ => ?_
  cases found with
  | none => exact hfailed _ w
  | some ref =>
    refine returns_bind (returns_true _ w) fun _ w _ => returns_ite (fun _ => hfailed _ w)
      fun _ => ?_
    refine returns_bind (returns_true _ w) fun _ w _ => returns_bind (returns_true _ w) fun _ w _ =>
      returns_bind (returns_true _ w) fun verified w _ => ?_
    cases verified with
    | some e => exact hfailed _ w
    | none =>
      refine returns_bind (returns_true _ w) fun _ w _ => returns_bind (returns_true _ w)
        fun _ w _ =>
        returns_bind (returns_true _ w) fun _ w _ => returns_bind (returns_true _ w) fun _ w _ =>
          returns_bind (returns_true _ w) fun _ w _ => returns_bind (returns_true _ w)
            fun state w _ =>
            returns_bind (returns_true _ w) fun now w _ => returns_pure fun _ => ⟨_, rfl, ?_⟩
      split <;> rfl

/-- What a pairing result does: it is the message of a handshake or of a key, or it fails. -/
theorem exec_handlePairingResult_eq_ok {w w' : World} {payload answer : Json}
    (h : exec (handlePairingResult env payload) w = (.ok (true, answer), w')) :
    ∃ sessionId,
      if payload.has "clientNonce" || payload.has "signature" then
        exec (handlePairingHandshake env sessionId payload) w = (.ok (true, answer), w')
      else exec (handlePairingKeyStorage env sessionId payload) w = (.ok (true, answer), w') := by
  rw [handlePairingResult] at h
  cases hget : payload.get "sessionId" with
  | error e =>
    rw [hget, exec_bind_of_error (Py.exec_ofExcept_error w e)] at h
    cases h
  | ok given =>
    rw [hget, exec_bind_of_ok (Py.exec_ofExcept_ok w given),
      exec_bind_of_ok (Py.exec_pairing w _)] at h
    dsimp only at h
    obtain ⟨sessionId, hsession⟩ : ∃ sessionId, sessionId =
        if pyStr env (given.or (.str "")) = "" then w.pairing.fallbackSession
        else pyStr env (given.or (.str "")) := ⟨_, rfl⟩
    rw [← hsession] at h
    refine ⟨sessionId, ?_⟩
    split at h
    · cases h
    · split at h
      · rename_i hhandshake
        rw [if_pos hhandshake]
        exact h
      · rename_i hhandshake
        rw [if_neg hhandshake]
        split at h
        · exact h
        · cases h

/-- **A key acknowledged as stored is stored**, exactly if the server, which is asked in
between, names it or names no key. -/
theorem acknowledgedKey_isSome_iff {w w' : World} {payload : Json} {members : List (String × Json)}
    {keyId : String}
    (h : exec (handlePairingResult env payload) w = (.ok (true, .obj members), w'))
    (hkeyId : members.lookup "keyId" = some (.str keyId)) :
    (w'.store.getKey keyId).isSome ↔ ServerKeeps env (w.tick + 2) keyId := by
  obtain ⟨sessionId, h⟩ := exec_handlePairingResult_eq_ok h
  split at h
  · obtain ⟨members', hmembers, hnone⟩ :=
      returns_handlePairingHandshake sessionId payload w _ _ h rfl
    cases hmembers
    rw [hnone] at hkeyId
    cases hkeyId
  · obtain ⟨key, synced, w₁, hsync, rfl, hanswer⟩ := exec_handlePairingKeyStorage_eq_ok h
    have hkey : key = keyId := by
      cases hanswer
      exact Json.str.inj (Option.some.inj hkeyId)
    subst hkey
    obtain ⟨-, hkept, hreplaced⟩ := exec_syncKeysFromServer_eq_ok hsync
    have hstored : (keyStored env w sessionId key payload).store.Has (.str key) :=
      KeyStore.has_put (.str key) |>.mpr (Or.inl rfl)
    rw [KeyStore.isSome_getKey_iff, ServerKeeps]
    by_cases hnames : answeredKeys env (w.tick + 2) = []
    · refine iff_of_true ?_ (Or.inl hnames)
      rw [hkept hnames]
      exact hstored
    · rw [or_iff_right hnames]
      exact hreplaced hnames key

/-- A server that knows another key. -/
def otherKeyServer : Platform :=
  { Platform.plain with
    apiClient := true
    fetchKeys := fun _ => .ok [.obj [("keyId", .str "other")]] }

/-- A pairing result that names the key `k`. -/
def keyResult : Json := .obj [("sessionId", .str "s"), ("keyId", .str "k")]

theorem acknowledgedKey_isSome_iff_otherKey :
    ((exec (handlePairingResult otherKeyServer keyResult) {}).2.store.getKey "k").isSome ↔
      ServerKeeps otherKeyServer 2 "k" :=
  @acknowledgedKey_isSome_iff otherKeyServer {} _ keyResult
    [("status", .str "OK"), ("message", .str "Key stored"), ("sessionId", .str "s"),
      ("keyId", .str "k"), ("timestamp", .int 0)] "k" rfl rfl

/-- The first key of a vehicle is acknowledged and gone, if the server knows another one. -/
theorem otherKey_replaces : ¬∀ (env : Platform) (api : PairingApi) (recursionLimit : ℕ)
    (activities : List Activity) (payload : Json) (members : List (String × Json))
    (keyId : String) (w' : World),
    exec (handlePairingResult env payload) (performAll env api recursionLimit {} activities) =
        (.ok (true, .obj members), w') →
      members.lookup "keyId" = some (.str keyId) → (w'.store.getKey keyId).isSome := by
  intro h
  have hstored := h otherKeyServer twoTelephones 0 [] keyResult
    [("status", .str "OK"), ("message", .str "Key stored"), ("sessionId", .str "s"),
      ("keyId", .str "k"), ("timestamp", .int 0)] "k" _ rfl rfl
  exact absurd hstored (by decide)

end DigitalKey

end VehicleStack
