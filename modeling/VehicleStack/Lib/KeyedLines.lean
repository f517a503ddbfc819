import Mathlib.Data.List.Basic
import Mathlib.Data.List.Induction
import Mathlib.Data.Option.Basic

/-!
# Lines some of which are entries

A list of lines, some of which name a key and a value, as a table. A reader may let the first
entry of a key count, or the last; a writer that replaces the first entry of a key, or appends
one (`VehicleStack.KeyedLines.put`), changes the values of that key and of no other
(`VehicleStack.KeyedLines.values_put`, `VehicleStack.KeyedLines.values_put_of_ne`).

A writer that looks at the last entry to see whether there is anything to do, and then replaces
the first, is `VehicleStack.KeyedLines.store` on the values of the key. If there are several of
them the last one stays, and a value equal to it is never stored
(`VehicleStack.KeyedLines.head?_foldl_store`).
-/

namespace VehicleStack

namespace KeyedLines

open List

variable {ι κ ν : Type*} [DecidableEq κ] (read : ι → Option (κ × ν))

/-- The value of a line, if it is an entry of the key. -/
def value? (k : κ) (line : ι) : Option ν :=
  (read line).bind fun e => if e.1 = k then some e.2 else none

/-- The values of a key, in the order of the lines. -/
def values (k : κ) (lines : List ι) : List ν := lines.filterMap (value? read k)

/-- The lines with the first entry of a key replaced by another line, if there is one. -/
def replaceFirst (k : κ) (line : ι) : List ι → Option (List ι)
  | [] => none
  | l :: ls =>
    if (value? read k l).isSome then some (line :: ls) else (replaceFirst k line ls).map (l :: ·)

/-- The lines with the first entry of a key replaced by another line, or the line behind them. -/
def put (k : κ) (line : ι) (lines : List ι) : List ι :=
  (replaceFirst read k line lines).getD (lines ++ [line])

variable {read}

theorem value?_self {line : ι} {k : κ} {v : ν} (h : read line = some (k, v)) :
    value? read k line = some v := by
  rw [value?, h]
  exact if_pos rfl

theorem value?_of_ne {line : ι} {j k : κ} {v : ν} (h : read line = some (k, v)) (hne : j ≠ k) :
    value? read j line = none := by
  rw [value?, h]
  exact if_neg hne.symm

theorem values_cons_of_none {k : κ} {l : ι} (h : value? read k l = none) (ls : List ι) :
    values read k (l :: ls) = values read k ls := filterMap_cons_none h

theorem values_cons_of_some {k : κ} {l : ι} {v : ν} (h : value? read k l = some v) (ls : List ι) :
    values read k (l :: ls) = v :: values read k ls := filterMap_cons_some h

theorem values_append (k : κ) (ls ls' : List ι) :
    values read k (ls ++ ls') = values read k ls ++ values read k ls' := filterMap_append

/-- A line has one key. -/
theorem value?_eq_none_of_ne {j k : κ} {l : ι} {v : ν} (h : value? read k l = some v)
    (hne : j ≠ k) : value? read j l = none := by
  obtain ⟨⟨k', w⟩, hread, hk⟩ := Option.bind_eq_some_iff.mp h
  obtain ⟨hkey, -⟩ := Option.ite_none_right_eq_some.mp hk
  exact value?_of_ne (hread.trans (congrArg (fun k => some (k, w)) hkey)) hne

/-- The replacement by the place of the first entry. -/
theorem replaceFirst_eq_findIdx? (k : κ) (line : ι) (lines : List ι) :
    replaceFirst read k line lines =
      (lines.findIdx? fun l => (value? read k l).isSome).map fun i => lines.set i line := by
  induction lines with
  | nil => rfl
  | cons l ls ih =>
    rw [replaceFirst, findIdx?_cons, ih]
    split_ifs with hl
    · rfl
    · rw [Option.map_map, Option.map_map]
      rfl

/-- Lines without an entry of the key. -/
theorem replaceFirst_eq_none_iff {k : κ} {line : ι} {lines : List ι} :
    replaceFirst read k line lines = none ↔ values read k lines = [] := by
  induction lines with
  | nil => exact iff_of_true rfl rfl
  | cons l ls ih =>
    rw [replaceFirst]
    rcases hl : value? read k l with _ | v
    · rw [values_cons_of_none hl, if_neg (by simp), Option.map_eq_none_iff]
      exact ih
    · rw [values_cons_of_some hl]
      exact iff_of_false (by simp) (cons_ne_nil _ _)

theorem replaceFirst_mem {k : κ} {line : ι} {lines lines' : List ι}
    (h : replaceFirst read k line lines = some lines') :
    line ∈ lines' ∧ ∀ l ∈ lines', l = line ∨ l ∈ lines := by
  induction lines generalizing lines' with
  | nil => cases h
  | cons l ls ih =>
    rw [replaceFirst] at h
    split_ifs at h
    · obtain rfl := Option.some.inj h
      exact ⟨mem_cons_self, fun x hx => (mem_cons.mp hx).imp id (mem_cons_of_mem _)⟩
    · obtain ⟨rest, hrest, rfl⟩ := Option.map_eq_some_iff.mp h
      obtain ⟨hself, hother⟩ := ih hrest
      refine ⟨mem_cons_of_mem _ hself, fun x hx => ?_⟩
      rcases mem_cons.mp hx with rfl | hx'
      · exact Or.inr mem_cons_self
      · exact (hother x hx').imp id (mem_cons_of_mem _)

theorem self_mem_put {k : κ} {line : ι} {lines : List ι} : line ∈ put read k line lines := by
  rw [put]
  rcases h : replaceFirst read k line lines with _ | lines'
  · exact mem_append_right _ (mem_singleton_self _)
  · exact (replaceFirst_mem h).1

/-- No other line is new. -/
theorem mem_put {k : κ} {line l : ι} {lines : List ι} (hl : l ∈ put read k line lines) :
    l = line ∨ l ∈ lines := by
  rw [put] at hl
  rcases h : replaceFirst read k line lines with _ | lines'
  · rw [h, Option.getD_none] at hl
    exact (mem_append.mp hl).symm.imp mem_singleton.mp id
  · rw [h, Option.getD_some] at hl
    exact (replaceFirst_mem h).2 l hl

/-- What a replacement does to the values of the keys. -/
theorem values_replaceFirst {k : κ} {line : ι} {v : ν} (h : read line = some (k, v))
    {lines lines' : List ι} (hput : replaceFirst read k line lines = some lines') :
    values read k lines' = v :: (values read k lines).tail ∧
      ∀ j, j ≠ k → values read j lines' = values read j lines := by
  induction lines generalizing lines' with
  | nil => cases hput
  | cons l ls ih =>
    rw [replaceFirst] at hput
    rcases hl : value? read k l with _ | w
    · rw [hl, if_neg (by simp)] at hput
      obtain ⟨rest, hrest, rfl⟩ := Option.map_eq_some_iff.mp hput
      obtain ⟨hself, hother⟩ := ih hrest
      refine ⟨?_, fun j hj => ?_⟩
      · rw [values_cons_of_none hl, values_cons_of_none hl]
        exact hself
      · rcases hj' : value? read j l with _ | x
        · rw [values_cons_of_none hj', values_cons_of_none hj', hother j hj]
        · rw [values_cons_of_some hj', values_cons_of_some hj', hother j hj]
    · rw [hl, Option.isSome_some, if_pos rfl] at hput
      obtain rfl := Option.some.inj hput
      refine ⟨?_, fun j hj => ?_⟩
      · rw [values_cons_of_some (value?_self h), values_cons_of_some hl, tail_cons]
      · rw [values_cons_of_none (value?_of_ne h hj),
          values_cons_of_none (value?_eq_none_of_ne hl hj)]

/-- **The values of the key** after an entry was put: the first one is replaced. -/
theorem values_put {k : κ} {line : ι} {v : ν} (h : read line = some (k, v)) (lines : List ι) :
    values read k (put read k line lines) = v :: (values read k lines).tail := by
  rw [put]
  rcases hput : replaceFirst read k line lines with _ | lines'
  · have hnone := replaceFirst_eq_none_iff.mp hput
    rw [hnone, Option.getD_none, values_append, hnone, values_cons_of_some (value?_self h)]
    rfl
  · exact (values_replaceFirst h hput).1

/-- **The values of any other key** stay as they are. -/
theorem values_put_of_ne {j k : κ} {line : ι} {v : ν} (h : read line = some (k, v)) (hne : j ≠ k)
    (lines : List ι) : values read j (put read k line lines) = values read j lines := by
  rw [put]
  rcases hput : replaceFirst read k line lines with _ | lines'
  · rw [Option.getD_none, values_append, values_cons_of_none (value?_of_ne h hne)]
    exact append_nil _
  · exact (values_replaceFirst h hput).2 j hne

/-- Lines that are no entries do not matter. -/
theorem values_filter {p : ι → Bool} (hp : ∀ l, p l = false → read l = none) (k : κ)
    (lines : List ι) : values read k (lines.filter p) = values read k lines := by
  induction lines with
  | nil => rfl
  | cons l ls ih =>
    rcases hl : p l with _ | _
    · have hnone : value? read k l = none := by rw [value?, hp l hl, Option.bind_none]
      rw [filter_cons_of_neg (by rw [hl]; decide), values_cons_of_none hnone, ih]
    · rw [filter_cons_of_pos hl]
      rcases hk : value? read k l with _ | v
      · rw [values_cons_of_none hk, values_cons_of_none hk, ih]
      · rw [values_cons_of_some hk, values_cons_of_some hk, ih]

/-! ### A writer that looks at the last entry -/

variable [DecidableEq ν]

/-- Storing a value, unless it is the last one there is. -/
def store (vs : List ν) (v : ν) : List ν := if vs.getLast? = some v then vs else v :: vs.tail

/-- The values that are stored, of those that are meant to be. -/
def stored (vs ws : List ν) : List ν :=
  if 2 ≤ vs.length then ws.filter fun w => vs.getLast? ≠ some w else ws

theorem mem_stored {vs ws : List ν} {w : ν} (h : w ∈ stored vs ws) : w ∈ ws := by
  rw [stored] at h
  split_ifs at h
  · exact (mem_filter.mp h).1
  · exact h

/-- Several values stay several, and the last of them stays. -/
theorem store_of_two_le {vs : List ν} (h : 2 ≤ vs.length) (v : ν) :
    2 ≤ (store vs v).length ∧ (store vs v).getLast? = vs.getLast? := by
  rw [store]
  split_ifs with hlast
  · exact ⟨h, rfl⟩
  · obtain ⟨a, b, rest, rfl⟩ : ∃ a b rest, vs = a :: b :: rest := by
      rcases vs with _ | ⟨a, _ | ⟨b, rest⟩⟩
      · cases h
      · exact absurd h (by simp)
      · exact ⟨a, b, rest, rfl⟩
    exact ⟨by simp, rfl⟩

/-- At most one value stays at most one. -/
theorem store_of_length_lt {vs : List ν} (h : vs.length < 2) (v : ν) :
    store vs v = [v] := by
  rcases vs with _ | ⟨a, _ | ⟨b, rest⟩⟩
  · rfl
  · rw [store]
    split_ifs with hlast
    · exact congrArg (fun a => [a]) (Option.some.inj hlast)
    · rfl
  · exact absurd h (by simp)

theorem foldl_store_of_two_le {vs : List ν} (h : 2 ≤ vs.length) (ws : List ν) :
    2 ≤ (ws.foldl store vs).length ∧ (ws.foldl store vs).getLast? = vs.getLast? := by
  induction ws using List.reverseRecOn with
  | nil => exact ⟨h, rfl⟩
  | append_singleton ws w ih =>
    obtain ⟨hlen, hlast⟩ := store_of_two_le ih.1 w
    rw [foldl_append, foldl_cons, foldl_nil]
    exact ⟨hlen, hlast.trans ih.2⟩

theorem length_foldl_store_lt {vs : List ν} (h : vs.length < 2) (ws : List ν) :
    (ws.foldl store vs).length < 2 := by
  induction ws using List.reverseRecOn with
  | nil => exact h
  | append_singleton ws w ih =>
    rw [foldl_append, foldl_cons, foldl_nil, store_of_length_lt ih]
    exact Nat.one_lt_two

/-- **The first value after any number of stores**: the last one that was stored, or the first
one there was. -/
theorem head?_foldl_store (vs ws : List ν) :
    (ws.foldl store vs).head? = (stored vs ws).getLast?.or vs.head? := by
  induction ws using List.reverseRecOn with
  | nil => rw [foldl_nil, stored, filter_nil, ite_self, getLast?_nil, Option.none_or]
  | append_singleton ws w ih =>
    rw [foldl_append, foldl_cons, foldl_nil]
    by_cases hlen : 2 ≤ vs.length
    · obtain ⟨-, hlast⟩ := foldl_store_of_two_le hlen ws
      rw [stored, if_pos hlen] at ih ⊢
      by_cases hw : vs.getLast? = some w
      · rw [store, if_pos (hlast.trans hw), filter_append,
          filter_cons_of_neg (by simp [hw]), filter_nil, append_nil]
        exact ih
      · rw [store, if_neg fun h => hw (hlast.symm.trans h), filter_append,
          filter_cons_of_pos (by simp [hw]), filter_nil, getLast?_concat]
        rfl
    · rw [stored, if_neg hlen, getLast?_concat,
        store_of_length_lt (length_foldl_store_lt (Nat.not_le.mp hlen) ws)]
      rfl

end KeyedLines

end VehicleStack
