import VehicleStack.DigitalKey.World

/-!
# The key store

`key_store.py`. Keys are looked up by strings, but they are stored under whatever
value the caller has, and the file is a JSON object, in which every key is a
string; the members are written in the order of their keys, which no reader of the
file depends on and which the model leaves as it is.

An `upsert_key` that cannot write the file raises after the store in memory has
been changed.
-/

namespace VehicleStack

namespace DigitalKey

variable (env : Platform)

/-- The key is in the store. -/
def KeyStore.Has (s : KeyStore) (key : DictKey) : Prop := (s.keys.get? key).isSome

instance (s : KeyStore) (key : DictKey) : Decidable (s.Has key) :=
  inferInstanceAs (Decidable ((s.keys.get? key).isSome = true))

/-- `get_key`. -/
def KeyStore.getKey (s : KeyStore) (keyId : String) : Option Json :=
  (s.keys.get? (.str keyId)).map Prod.snd

/-- Whether `json.dumps` can sort the keys: not those of different kinds. -/
def KeyStore.sortable (s : KeyStore) : Bool :=
  let isStr : DictKey → Bool := fun k => match k with | .str _ => true | _ => false
  let isNumber : DictKey → Bool := fun k => match k with | .int _ | .float _ => true | _ => false
  s.keys.keys.length ≤ 1 || s.keys.keys.all isStr || s.keys.keys.all isNumber

/-- A key as a member name of a JSON object. -/
def memberName : Json → String
  | .null => "null"
  | .bool b => if b then "true" else "false"
  | j => pyStr env j

/-- `_flush`. The message of the `TypeError` names the types of one pair. -/
def flush : Py Unit := do
  let w ← get
  if w.store.sortable then
    let members := w.store.keys.entries.map fun e => (memberName env e.2.1, e.2.2)
    match ← Py.ask env.writeText with
    | .written => modify fun w => { w with store := { w.store with file := .object members } }
    | .refused message => throw ⟨.osError, message⟩
    | .truncated message => do
      modify fun w => { w with store := { w.store with file := .empty } }
      throw ⟨.osError, message⟩
  else throw ⟨.typeError, "'<' not supported between instances of 'str' and 'int'"⟩

/-- Giving a key a payload; a key that is there stays the value it was given as. -/
def KeyStore.put (s : KeyStore) (key : DictKey) (keyId payload : Json) : KeyStore :=
  let given := ((s.keys.get? key).map Prod.fst).getD keyId
  { s with keys := s.keys.set key (given, payload) }

/-- `upsert_key`. -/
def upsertKey (source : Source) (keyId payload : Json) : Py Unit := do
  let key ← Py.ofExcept keyId.dictKey
  modify fun w =>
    { w with
      store := w.store.put key keyId payload
      trace := w.trace ++ [.stored source key] }
  flush env

/-- A mapping from key ids as the contents of the store. -/
def asKeys (data : Dict String Json) : Dict DictKey (Json × Json) :=
  data.entries.foldl (fun d e => d.set (.str e.1) (.str e.1, e.2)) .empty

/-- `replace_all`. -/
def replaceAll (data : Dict String Json) : Py Unit := do
  modify fun w =>
    { w with
      store := { w.store with keys := asKeys data }
      trace := w.trace ++ [.synced (data.keys.filter fun k => ¬ w.store.Has (.str k))] }
  flush env

/-! ### What the store's programs do -/

section exec

open Effect

variable (w : World)

/-- What is written: the members of the file. -/
def KeyStore.members (s : KeyStore) : List (String × Json) :=
  s.keys.entries.map fun e => (memberName env e.2.1, e.2.2)

/-- **Writing the file**: it takes the members, stays as it is, or is emptied. -/
theorem exec_flush :
    exec (flush env) w =
      if w.store.sortable then
        match env.writeText w.tick with
        | .written =>
          (.ok ⟨⟩,
            { w with
              store := { w.store with file := .object (w.store.members env) }
              tick := w.tick + 1 })
        | .refused message => (.error ⟨.osError, message⟩, { w with tick := w.tick + 1 })
        | .truncated message =>
          (.error ⟨.osError, message⟩,
            { w with
              store := { w.store with file := .empty }
              tick := w.tick + 1 })
      else
        (.error ⟨.typeError, "'<' not supported between instances of 'str' and 'int'"⟩, w) := by
  rw [flush, exec_bind_of_ok (exec_get w)]
  split
  · rw [exec_bind_of_ok (Py.exec_ask w _)]
    cases env.writeText w.tick <;> rfl
  · rfl

/-- Writing the file leaves the keys. -/
theorem keys_flush : (exec (flush env) w).2.store.keys = w.store.keys := by
  rw [exec_flush]
  split_ifs
  · cases env.writeText w.tick <;> rfl
  · rfl

/-- A write that succeeds. -/
theorem exec_flush_eq_ok {w w' : World} {u : Unit} (h : exec (flush env) w = (.ok u, w')) :
    w.store.sortable = true ∧ env.writeText w.tick = .written ∧
      w' =
        { w with
          store := { w.store with file := .object (w.store.members env) }
          tick := w.tick + 1 } := by
  rw [exec_flush] at h
  split at h
  · rename_i hsortable
    split at h
    · rename_i hwritten
      exact ⟨hsortable, hwritten, (Prod.mk.inj h).2.symm⟩
    · cases h
    · cases h
  · cases h

/-- Putting a key into the store, before the file is written. -/
def World.putKey (source : Source) (key : DictKey) (keyId payload : Json) : World :=
  { w with
    store := w.store.put key keyId payload
    trace := w.trace ++ [.stored source key] }

theorem exec_upsertKey {source : Source} {keyId payload : Json} {key : DictKey}
    (hkey : keyId.dictKey = .ok key) :
    exec (upsertKey env source keyId payload) w =
      exec (flush env) (w.putKey source key keyId payload) := by
  rw [upsertKey, hkey, exec_bind_of_ok (Py.exec_ofExcept_ok w key),
    exec_bind_of_ok (exec_modify _ w)]
  rfl

theorem exec_upsertKey_of_error {source : Source} {keyId payload : Json} {e : PyError}
    (hkey : keyId.dictKey = .error e) :
    exec (upsertKey env source keyId payload) w = (.error e, w) := by
  rw [upsertKey, hkey]
  exact exec_bind_of_error rfl

/-- Replacing the keys of the store, before the file is written. -/
def World.replaceKeys (data : Dict String Json) : World :=
  { w with
    store := { w.store with keys := asKeys data }
    trace := w.trace ++ [.synced (data.keys.filter fun k => ¬ w.store.Has (.str k))] }

theorem exec_replaceAll (data : Dict String Json) :
    exec (replaceAll env data) w = exec (flush env) (w.replaceKeys data) := by
  rw [replaceAll, exec_bind_of_ok (exec_modify _ w)]
  rfl

end exec

/-! ### What is in the store -/

theorem KeyStore.has_put {s : KeyStore} {key : DictKey} {keyId payload : Json} (j : DictKey) :
    (s.put key keyId payload).Has j ↔ j = key ∨ s.Has j := by
  rw [Has, put, Dict.get_set]
  by_cases h : j = key <;> simp [h, Has]

theorem has_of_getKey {s : KeyStore} {keyId : String} {payload : Json}
    (h : s.getKey keyId = some payload) : s.Has (.str keyId) := by
  obtain ⟨e, he, -⟩ := Option.map_eq_some_iff.mp h
  rw [KeyStore.Has, he]
  rfl

/-- **What the contents of the store are then**: the keys of the mapping. -/
theorem isSome_get_asKeys_iff {data : Dict String Json} {k : String} :
    ((asKeys data).get? (.str k)).isSome ↔ k ∈ data.keys := by
  have hfold : ∀ (l : List (String × Json)) (d : Dict DictKey (Json × Json)),
      ((l.foldl (fun d e => d.set (.str e.1) (.str e.1, e.2)) d).get? (.str k)).isSome ↔
        (d.get? (.str k)).isSome ∨ k ∈ l.map Prod.fst := by
    intro l
    induction l with
    | nil => exact fun d => by simp
    | cons e l ih =>
      intro d
      rw [List.foldl_cons, ih, List.map_cons, List.mem_cons, Dict.get_set]
      by_cases hk : k = e.1 <;> simp [hk]
  refine (hfold data.entries .empty).trans (or_iff_right ?_)
  rintro ⟨⟩

theorem KeyStore.isSome_getKey_iff {s : KeyStore} {keyId : String} :
    (s.getKey keyId).isSome ↔ s.Has (.str keyId) := by
  rw [getKey, Option.isSome_map, Has]

end DigitalKey

end VehicleStack
