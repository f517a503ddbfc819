import Mathlib.Data.List.Basic
import Mathlib.Data.List.Nodup

/-!
# Dictionaries in insertion order

A finite map that remembers in which order its keys first came, as the
dictionaries of scripting languages do. No key occurs twice, which is part of the
type. Setting a key that is there keeps its place; a new key goes to the end.

`VehicleStack.Dict.get_set` is what is needed to reason about the contents.
-/

namespace VehicleStack

/-- A finite map from `κ` to `α` that keeps the order of its keys. -/
structure Dict (κ α : Type) where
  entries : List (κ × α)
  nodup_keys : (entries.map Prod.fst).Nodup

namespace Dict

variable {κ α : Type}

/-- The dictionary without entries. -/
def empty : Dict κ α := ⟨[], List.nodup_nil⟩

instance : Inhabited (Dict κ α) := ⟨empty⟩

/-- The keys, in order. -/
def keys (d : Dict κ α) : List κ := d.entries.map Prod.fst

variable [DecidableEq κ]

/-- The value of a key. -/
def get? (d : Dict κ α) (k : κ) : Option α :=
  (d.entries.find? fun e => e.1 = k).map Prod.snd

/-- Giving a key a value. -/
def set (d : Dict κ α) (k : κ) (a : α) : Dict κ α :=
  if h : k ∈ d.keys then
    { entries := d.entries.map fun e => if e.1 = k then (e.1, a) else e
      nodup_keys := by
        have hkeys : (d.entries.map fun e => if e.1 = k then (e.1, a) else e).map Prod.fst =
            d.entries.map Prod.fst := by
          rw [List.map_map]
          refine List.map_congr_left fun e _ => ?_
          rw [Function.comp_apply]
          split <;> rfl
        rw [hkeys]
        exact d.nodup_keys }
  else
    { entries := d.entries ++ [(k, a)]
      nodup_keys := by
        rw [List.map_append, List.map_singleton]
        exact List.Nodup.append d.nodup_keys (List.nodup_singleton k)
          (List.disjoint_singleton.mpr h) }

/-- Removing a key, if it is there. -/
def erase (d : Dict κ α) (k : κ) : Dict κ α where
  entries := d.entries.filter fun e => e.1 ≠ k
  nodup_keys := d.nodup_keys.sublist (List.filter_sublist.map _)

theorem get?_isSome_iff {d : Dict κ α} {k : κ} : (d.get? k).isSome ↔ k ∈ d.keys := by
  rw [get?, Option.isSome_map, List.find?_isSome, keys, List.mem_map]
  simp

@[simp]
theorem get_empty (k : κ) : (empty : Dict κ α).get? k = none := rfl

theorem get?_eq_none_iff {d : Dict κ α} {k : κ} : d.get? k = none ↔ k ∉ d.keys := by
  rw [← get?_isSome_iff, Option.not_isSome_iff_eq_none]

/-- The value of a key is what its entry says. -/
theorem get?_eq_some_iff {d : Dict κ α} {k : κ} {a : α} :
    d.get? k = some a ↔ (k, a) ∈ d.entries := by
  constructor
  · intro h
    obtain ⟨e, hfind, rfl⟩ := Option.map_eq_some_iff.mp h
    have hkey : e.1 = k := by simpa using List.find?_some hfind
    exact hkey ▸ List.mem_of_find?_eq_some hfind
  · intro hmem
    have hsome : (d.get? k).isSome = true := get?_isSome_iff.mpr (List.mem_map_of_mem hmem)
    obtain ⟨found, hfind⟩ := Option.isSome_iff_exists.mp (Option.isSome_map.symm.trans hsome)
    have hkey : found.1 = k := by simpa using List.find?_some hfind
    -- one entry for each key
    have hsame : found = (k, a) :=
      List.inj_on_of_nodup_map d.nodup_keys (List.mem_of_find?_eq_some hfind) hmem hkey
    rw [get?, hfind, hsame, Option.map_some]

/-- Looking for a key in entries of which one key has been given a new value. -/
theorem find?_map_set (l : List (κ × α)) (k j : κ) (a : α) :
    (l.map fun e => if e.1 = k then (e.1, a) else e).find? (fun e => e.1 = j) =
      (l.find? fun e => e.1 = j).map fun e => if e.1 = k then (e.1, a) else e := by
  have hkey : ∀ e : κ × α, (if e.1 = k then (e.1, a) else e).1 = e.1 := by
    intro e
    split <;> rfl
  rw [List.find?_map]
  congr 2
  funext e
  rw [Function.comp_apply, hkey]

theorem get_set_of_mem {d : Dict κ α} {k : κ} (hmem : k ∈ d.keys) (j : κ) (a : α) :
    (d.set k a).get? j = if j = k then some a else d.get? j := by
  rw [set, dif_pos hmem, get?, find?_map_set, Option.map_map]
  rcases hfind : d.entries.find? fun e => e.1 = j with _ | e
  · have hj : d.get? j = none := by rw [get?, hfind, Option.map_none]
    have hjk : j ≠ k := fun h => get?_eq_none_iff.mp hj (h ▸ hmem)
    rw [if_neg hjk, hj, hfind, Option.map_none]
  · have hkey : e.1 = j := by simpa using List.find?_some hfind
    rw [get?, hfind, Option.map_some, Option.map_some, Function.comp_apply, hkey]
    split <;> rfl

theorem get_set_of_not_mem {d : Dict κ α} {k : κ} (hmem : k ∉ d.keys) (j : κ) (a : α) :
    (d.set k a).get? j = if j = k then some a else d.get? j := by
  rw [set, dif_neg hmem, get?, List.find?_append, Option.map_or, ← get?]
  by_cases hjk : j = k
  · rw [if_pos hjk, hjk, get?_eq_none_iff.mpr hmem]
    simp
  · rw [if_neg hjk]
    simp [Ne.symm hjk]

/-- **What a set changes**: the value of its key and nothing else. -/
theorem get_set (d : Dict κ α) (k j : κ) (a : α) :
    (d.set k a).get? j = if j = k then some a else d.get? j := by
  rcases Decidable.em (k ∈ d.keys) with hmem | hmem
  · exact get_set_of_mem hmem j a
  · exact get_set_of_not_mem hmem j a

/-- What is left after a removal was there before. -/
theorem get?_of_get?_erase {d : Dict κ α} {k j : κ} {a : α} (h : (d.erase k).get? j = some a) :
    d.get? j = some a := by
  rw [get?, erase, List.find?_filter] at h
  obtain ⟨e, hfind, rfl⟩ := Option.map_eq_some_iff.mp h
  have hkey : e.1 ≠ k ∧ e.1 = j := by simpa using List.find?_some hfind
  -- the entries of this key are not the ones that were removed
  have hsame : (fun e : κ × α => decide (decide (e.1 ≠ k) = true ∧ decide (e.1 = j) = true)) =
      fun e => decide (e.1 = j) := by
    funext e'
    refine decide_eq_decide.mpr ⟨fun h => of_decide_eq_true h.2, fun hj => ?_⟩
    refine ⟨decide_eq_true ?_, decide_eq_true hj⟩
    rw [hj, ← hkey.2]
    exact hkey.1
  rw [hsame] at hfind
  rw [get?, hfind, Option.map_some]

end Dict

end VehicleStack
