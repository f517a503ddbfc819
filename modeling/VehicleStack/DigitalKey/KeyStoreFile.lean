import VehicleStack.Lib.Mealy
import VehicleStack.DigitalKey.KeyStore

/-!
# The key store and its file

`upsert_key` and `replace_all` change the keys in memory and then write the file. A call that
returns leaves a file from which the same keys are read again, unless a key is no string: in the
file it is one. A call that raises has changed the keys in memory, unless the key cannot be one
at all or had the payload before. When the file agrees with the memory after every call that
returns, and neither has changed after every call that raises, is
`VehicleStack.DigitalKey.persists_iff`.
-/

namespace VehicleStack

namespace DigitalKey

open Effect

variable (env : Platform)

/-! ### What is read again -/

/-- The members of the file as keys; of two members of one name the second counts. -/
def keysOf (members : List (String × Json)) : Dict DictKey (Json × Json) :=
  members.foldl (fun d e => d.set (.str e.1) (.str e.1, e.2)) .empty

/-- `_load_from_disk`, of a new store. -/
def KeyStore.load (file : FileText) : KeyStore :=
  match file with
  | .object members => { keys := keysOf members, file := file }
  | _ => { file := file }

/-- The same payloads under the same keys. -/
def SameKeys (s t : KeyStore) : Prop :=
  ∀ key, (s.keys.get? key).map Prod.snd = (t.keys.get? key).map Prod.snd

/-- Every key is a string. -/
def StringKeys (s : KeyStore) : Prop := ∀ key ∈ s.keys.keys, ∃ k, key = .str k

/-- A key that is a string was given as one. -/
def WellKeyed (s : KeyStore) : Prop :=
  ∀ k given payload, s.keys.get? (.str k) = some (given, payload) → given = .str k

theorem get_foldl_set_eq_some_iff {members : List (String × Json)}
    (hnodup : (members.map Prod.fst).Nodup) {d : Dict DictKey (Json × Json)} {k : String}
    {a : Json × Json} :
    (members.foldl (fun d e => d.set (.str e.1) (.str e.1, e.2)) d).get? (.str k) = some a ↔
      (a.1 = .str k ∧ (k, a.2) ∈ members) ∨
        (k ∉ members.map Prod.fst ∧ d.get? (.str k) = some a) := by
  induction members generalizing d with
  | nil => simp
  | cons e members ih =>
    rw [List.map_cons, List.nodup_cons] at hnodup
    rw [List.foldl_cons, ih hnodup.2, Dict.get_set]
    by_cases hk : k = e.1
    · subst hk
      have hmem : (e.1, a.2) ∉ members := fun h =>
        hnodup.1 (List.mem_map.mpr ⟨_, h, rfl⟩)
      rw [if_pos rfl, List.mem_cons, List.map_cons, List.mem_cons]
      constructor
      · rintro (⟨-, h⟩ | ⟨-, h⟩)
        · exact absurd h hmem
        · rw [← Option.some.inj h]
          exact Or.inl ⟨rfl, Or.inl rfl⟩
      · rintro (⟨hgiven, h | h⟩ | ⟨h, -⟩)
        · refine Or.inr ⟨hnodup.1, ?_⟩
          rw [← hgiven, ← congrArg Prod.snd h]
        · exact absurd h hmem
        · exact absurd (Or.inl rfl) h
    · have hne : (k, a.2) ≠ e := fun h => hk (congrArg Prod.fst h)
      rw [if_neg fun h => hk (DictKey.str.inj h), List.mem_cons, List.map_cons, List.mem_cons]
      constructor
      · rintro (⟨hgiven, h⟩ | ⟨h, hget⟩)
        · exact Or.inl ⟨hgiven, Or.inr h⟩
        · exact Or.inr ⟨not_or.mpr ⟨hk, h⟩, hget⟩
      · rintro (⟨hgiven, h⟩ | ⟨h, hget⟩)
        · exact Or.inl ⟨hgiven, h.resolve_left hne⟩
        · exact Or.inr ⟨(not_or.mp h).2, hget⟩

/-- What is read of a file with one member for each name. -/
theorem get_keysOf_eq_some_iff {members : List (String × Json)}
    (hnodup : (members.map Prod.fst).Nodup) {k : String} {a : Json × Json} :
    (keysOf members).get? (.str k) = some a ↔ a.1 = .str k ∧ (k, a.2) ∈ members := by
  rw [keysOf, get_foldl_set_eq_some_iff hnodup, Dict.get_empty]
  exact or_iff_left fun h => Option.some_ne_none a h.2.symm

/-- The keys that are read are strings. -/
theorem get_keysOf_of_ne_str (members : List (String × Json)) {key : DictKey}
    (hkey : ∀ k, key ≠ .str k) : (keysOf members).get? key = none := by
  have hfold : ∀ d : Dict DictKey (Json × Json), (members.foldl
      (fun d e => d.set (.str e.1) (.str e.1, e.2)) d).get? key = d.get? key := by
    induction members with
    | nil => exact fun d => rfl
    | cons e members ih =>
      intro d
      rw [List.foldl_cons, ih, Dict.get_set, if_neg (hkey e.1)]
  exact hfold .empty

/-- With string keys, each given as one, the file has the members of the memory. -/
theorem StringKeys.members_eq {s : KeyStore} (h : StringKeys s) (hwell : WellKeyed s) :
    (s.members env).map (fun e => (DictKey.str e.1, (Json.str e.1, e.2))) = s.keys.entries := by
  rw [KeyStore.members, List.map_map]
  refine (List.map_congr_left fun e he => ?_).trans s.keys.entries.map_id
  obtain ⟨k, hk⟩ := h e.1 (List.mem_map_of_mem he)
  have hget : s.keys.get? (.str k) = some e.2 := Dict.get?_eq_some_iff.mpr (hk ▸ he)
  have hgiven : e.2.1 = .str k := hwell k e.2.1 e.2.2 hget
  rw [Function.comp_apply, hgiven]
  exact Prod.ext hk.symm (Prod.ext hgiven.symm rfl)

variable {env}

/-- **What is read again is what was written**, if and only if every key is a string. -/
theorem sameKeys_load_iff {s : KeyStore} (hwell : WellKeyed s) :
    SameKeys (.load (.object (s.members env))) s ↔ StringKeys s := by
  constructor
  · intro h key hkey
    by_contra hnot
    have hnone : (keysOf (s.members env)).get? key = none :=
      get_keysOf_of_ne_str _ fun k hk => hnot ⟨k, hk⟩
    have hsome : (s.keys.get? key).isSome = true := Dict.get?_isSome_iff.mpr hkey
    have hread : ((keysOf (s.members env)).get? key).map Prod.snd =
        (s.keys.get? key).map Prod.snd := h key
    rw [hnone, Option.map_none, eq_comm, Option.map_eq_none_iff] at hread
    rw [hread] at hsome
    cases hsome
  · intro h key
    have hmembers := h.members_eq env hwell
    have hnodup : ((s.members env).map Prod.fst).Nodup := by
      have hkeys := s.keys.nodup_keys
      rw [← hmembers, List.map_map] at hkeys
      refine List.Nodup.of_map DictKey.str ?_
      rw [List.map_map]
      exact hkeys
    by_cases hkey : ∃ k, key = .str k
    · obtain ⟨k, rfl⟩ := hkey
      have hiff : ∀ a, (keysOf (s.members env)).get? (.str k) = some a ↔
          s.keys.get? (.str k) = some a := by
        intro a
        rw [get_keysOf_eq_some_iff hnodup, Dict.get?_eq_some_iff, ← hmembers, List.mem_map]
        constructor
        · rintro ⟨hgiven, hmem⟩
          exact ⟨_, hmem, Prod.ext rfl (Prod.ext hgiven.symm rfl)⟩
        · rintro ⟨e, he, heq⟩
          cases heq
          exact ⟨rfl, he⟩
      exact congrArg _ (Option.ext hiff)
    · have hstr : ∀ k, key ≠ .str k := fun k hk => hkey ⟨k, hk⟩
      have hnone : s.keys.get? key = none :=
        Dict.get?_eq_none_iff.mpr fun hmem => hkey (h key hmem)
      show ((keysOf (s.members env)).get? key).map Prod.snd = (s.keys.get? key).map Prod.snd
      rw [get_keysOf_of_ne_str _ hstr, hnone]

/-! ### Calls -/

/-- A call of the store. -/
inductive KeyStoreCall where
  | upsertKey (source : Source) (keyId payload : Json)
  | replaceAll (data : Dict String Json)

variable (env) in
/-- What runs. -/
def KeyStoreCall.program : KeyStoreCall → Py Unit
  | .upsertKey source keyId payload => DigitalKey.upsertKey env source keyId payload
  | .replaceAll data => DigitalKey.replaceAll env data

variable (env) in
/-- The world after a call, and whether it raises. -/
def KeyStoreCall.perform (w : World) (call : KeyStoreCall) : World × Except PyError Unit :=
  ((exec (call.program env) w).2, (exec (call.program env) w).1)

/-- The keys in memory that a call wants, if the key id can be a key. -/
def KeyStoreCall.wanted (s : KeyStore) : KeyStoreCall → Except PyError KeyStore
  | .upsertKey _ keyId payload => keyId.dictKey.map fun key => s.put key keyId payload
  | .replaceAll data => .ok { s with keys := asKeys data }

variable (env) in
/-- What is expected of a call: if it returns, the file holds what the memory does, and if it
raises, neither has changed. -/
def Persists (w : World) (call : KeyStoreCall) : Prop :=
  match exec (call.program env) w with
  | (.ok _, w') => SameKeys (.load w'.store.file) w'.store
  | (.error _, w') => SameKeys w'.store w.store ∧ w'.store.file = w.store.file

variable (env) in
/-- When a call does what is expected: what it wants has string keys if the file is written; and
else it wants what is there, and the file is not emptied. -/
def Persistable (w : World) (call : KeyStoreCall) : Prop :=
  ∀ s, call.wanted w.store = .ok s →
    if s.sortable = true ∧ env.writeText w.tick = .written then StringKeys s
    else SameKeys s w.store ∧
      ∀ message, s.sortable = true → env.writeText w.tick = .truncated message →
        w.store.file = .empty

/-! ### One call -/

variable {w : World} {call : KeyStoreCall}

theorem exec_program_of_error {e : PyError} (h : call.wanted w.store = .error e) :
    exec (call.program env) w = (.error e, w) := by
  cases call with
  | replaceAll data => cases h
  | upsertKey source keyId payload =>
    rw [KeyStoreCall.wanted] at h
    cases hkey : keyId.dictKey with
    | error e' =>
      rw [hkey] at h
      cases h
      exact exec_upsertKey_of_error env w hkey
    | ok key =>
      rw [hkey] at h
      cases h

variable (env) in
/-- A call that has keys to write writes them. -/
theorem exec_program_of_ok {s : KeyStore} (h : call.wanted w.store = .ok s) :
    ∃ w₁ : World, w₁.store = s ∧ w₁.tick = w.tick ∧
      exec (call.program env) w = exec (flush env) w₁ := by
  cases call with
  | replaceAll data =>
    cases h
    exact ⟨w.replaceKeys data, rfl, rfl, exec_replaceAll env w data⟩
  | upsertKey source keyId payload =>
    rw [KeyStoreCall.wanted] at h
    cases hkey : keyId.dictKey with
    | error e => rw [hkey] at h; cases h
    | ok key =>
      rw [hkey] at h
      cases h
      exact ⟨w.putKey source key keyId payload, rfl, rfl, exec_upsertKey env w hkey⟩

theorem KeyStoreCall.file_wanted {s t : KeyStore} (h : call.wanted s = .ok t) :
    t.file = s.file := by
  cases call with
  | replaceAll data =>
    cases h
    rfl
  | upsertKey source keyId payload =>
    rw [wanted] at h
    cases hkey : keyId.dictKey with
    | error e => rw [hkey] at h; cases h
    | ok key =>
      rw [hkey] at h
      cases h
      rfl

theorem Json.eq_str_of_dictKey {j : Json} {k : String} (h : j.dictKey = .ok (.str k)) :
    j = .str k := by
  cases j with
  | str s => cases h; rfl
  | float bits =>
    rw [Json.dictKey] at h
    split at h <;> cases h
  | _ => cases h

/-- Keys that are strings stay what they were given as. -/
theorem WellKeyed.put {s : KeyStore} (h : WellKeyed s) {key : DictKey} {keyId payload : Json}
    (hkey : keyId.dictKey = .ok key) : WellKeyed (s.put key keyId payload) := by
  intro k given payload' hget
  rw [KeyStore.put, Dict.get_set] at hget
  split_ifs at hget with hk
  · subst hk
    cases hget
    cases hold : s.keys.get? (.str k) with
    | none => exact Json.eq_str_of_dictKey hkey
    | some old => exact h k old.1 old.2 hold
  · exact h k given payload' hget

theorem wellKeyed_foldl_set (members : List (String × Json)) {s : KeyStore} (h : WellKeyed s) :
    WellKeyed { s with
      keys := members.foldl (fun d e => d.set (.str e.1) (.str e.1, e.2)) s.keys } := by
  induction members generalizing s with
  | nil => exact h
  | cons e members ih =>
    refine ih (s := { s with keys := s.keys.set (.str e.1) (.str e.1, e.2) }) ?_
    intro k given payload hget
    rw [Dict.get_set] at hget
    split_ifs at hget with hk
    · cases hget
      exact congrArg _ (DictKey.str.inj hk).symm
    · exact h k given payload hget

theorem WellKeyed.wanted {s t : KeyStore} (h : WellKeyed s) (hwanted : call.wanted s = .ok t) :
    WellKeyed t := by
  cases call with
  | replaceAll data =>
    cases hwanted
    exact wellKeyed_foldl_set data.entries (s := { s with keys := .empty }) nofun
  | upsertKey source keyId payload =>
    rw [KeyStoreCall.wanted] at hwanted
    cases hkey : keyId.dictKey with
    | error e => rw [hkey] at hwanted; cases hwanted
    | ok key =>
      rw [hkey] at hwanted
      cases hwanted
      exact h.put hkey

theorem wellKeyed_load (file : FileText) : WellKeyed (.load file) := by
  cases file with
  | object members => exact wellKeyed_foldl_set members (s := { file := .object members }) nofun
  | _ => nofun

variable (env w call) in
/-- A call changes the memory to what it wants, or not at all. -/
theorem keys_perform : (∃ s, call.wanted w.store = .ok s ∧
      (call.perform env w).1.store.keys = s.keys) ∨
    (call.perform env w).1.store.keys = w.store.keys := by
  cases hwanted : call.wanted w.store with
  | error e => exact Or.inr (congrArg (fun r => r.2.store.keys) (exec_program_of_error hwanted))
  | ok s =>
    refine Or.inl ⟨s, rfl, ?_⟩
    obtain ⟨w₁, rfl, -, hexec⟩ := exec_program_of_ok env hwanted
    rw [KeyStoreCall.perform, hexec]
    exact keys_flush env w₁

theorem WellKeyed.perform (h : WellKeyed w.store) : WellKeyed (call.perform env w).1.store := by
  intro k given payload hget
  rcases keys_perform env w call with ⟨s, hwanted, hkeys⟩ | hkeys
  · exact h.wanted hwanted k given payload (hkeys ▸ hget)
  · exact h k given payload (hkeys ▸ hget)

/-- **One call** does what is expected if and only if it can. -/
theorem persists_iff_persistable (hwell : WellKeyed w.store) :
    Persists env w call ↔ Persistable env w call := by
  rw [Persists, Persistable]
  cases hwanted : call.wanted w.store with
  | error e =>
    rw [exec_program_of_error hwanted]
    exact ⟨fun _ => nofun, fun _ => ⟨fun _ => rfl, rfl⟩⟩
  | ok s =>
    have hforall : ∀ P : KeyStore → Prop,
        (∀ t, (.ok s : Except PyError KeyStore) = .ok t → P t) ↔ P s :=
      fun P => ⟨fun h => h s rfl, fun h t ht => Except.ok.inj ht ▸ h⟩
    rw [hforall]
    have hs : WellKeyed s := hwell.wanted hwanted
    have hfile : s.file = w.store.file := KeyStoreCall.file_wanted hwanted
    obtain ⟨w₁, rfl, htick, hexec⟩ := exec_program_of_ok env hwanted
    rw [hexec, exec_flush, ← htick]
    by_cases hsortable : w₁.store.sortable = true
    · rw [if_pos hsortable]
      cases env.writeText w₁.tick with
      | written =>
        dsimp only
        rw [if_pos ⟨hsortable, rfl⟩]
        exact sameKeys_load_iff hs
      | refused message =>
        dsimp only
        rw [if_neg fun h => by cases h.2]
        exact ⟨fun h => ⟨h.1, nofun⟩, fun h => ⟨h.1, hfile⟩⟩
      | truncated message =>
        dsimp only
        rw [if_neg fun h => by cases h.2]
        exact ⟨fun h => ⟨h.1, fun _ _ _ => h.2.symm⟩,
          fun h => ⟨h.1, (h.2 message hsortable rfl).symm⟩⟩
    · rw [if_neg hsortable, if_neg fun h => hsortable h.1]
      exact ⟨fun h => ⟨h.1, fun _ h' => absurd h' hsortable⟩, fun h => ⟨h.1, hfile⟩⟩

/-! ### Every run -/

/-- **The file equals the memory**, after every call of a run that starts with a store that was
loaded, if and only if every call can see to it. -/
theorem persists_iff (env : Platform) (w : World) (file : FileText) (calls : List KeyStoreCall) :
    Mealy.AtEach (KeyStoreCall.perform env) (Persists env) { w with store := .load file } calls ↔
      Mealy.AtEach (KeyStoreCall.perform env) (Persistable env) { w with store := .load file }
        calls :=
  Mealy.atEach_congr (I := fun w => WellKeyed w.store) (wellKeyed_load file)
    (fun _ _ h => h.perform) (fun _ _ h => persists_iff_persistable h) calls

/-- A key that cannot be written is in memory all the same. -/
theorem refusedKey_remembered : ¬∀ (env : Platform) (file : FileText) (calls : List KeyStoreCall),
    Mealy.AtEach (KeyStoreCall.perform env) (Persists env) { store := .load file } calls := by
  intro h
  have hkeys := (h { Platform.plain with writeText := fun _ => .refused "No space left on device" }
    .missing [.upsertKey .pairingResult (.str "k") (.obj [])] [] _ [] rfl).1 (.str "k")
  cases hkeys

end DigitalKey

end VehicleStack
