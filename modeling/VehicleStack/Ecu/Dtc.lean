import VehicleStack.Lib.FirstDistinct

/-!
# The store of trouble codes

`DTC_Report`, `DTC_Add` and `DTC_Clear` of `can.c`, on the list of the first
`g_dtcCount` cells of `g_dtcList`. The array has sixteen cells, which is a field
of the store here, so a store with more entries cannot be built.

What a report does to an entry depends on `detectCnt`, an `unsigned char`, which
starts at one and goes up with every report. What a function leaves of the entry of
its own code is `VehicleStack.Ecu.DtcStore.lookup_dtcReport_self` and
`VehicleStack.Ecu.DtcStore.lookup_dtcAdd_self`; the other codes it leaves alone.
-/

namespace VehicleStack

namespace Ecu

/-- `DtcEntry_t`. -/
structure DtcEntry where
  dtcCode : ℕ
  status : UInt8
  detectCnt : UInt8
  deriving DecidableEq

/-- `MAX_DTC_COUNT`. -/
def maxDtcCount : ℕ := 16

/-- `g_dtcList` up to `g_dtcCount`. -/
structure DtcStore where
  entries : List DtcEntry := []
  length_le : entries.length ≤ maxDtcCount := by exact Nat.zero_le _
  deriving DecidableEq

/-! ### One entry -/

namespace DtcEntry

/-- What `DTC_Report` does to the entry of its code. -/
def detect (e : DtcEntry) : DtcEntry :=
  if e.detectCnt = 0 then { e with detectCnt := 1, status := 0x01 }
  else { e with detectCnt := e.detectCnt + 1, status := 0x40 }

/-- What `DTC_Add` does to the entry of its code after reporting it. -/
def raise (status : UInt8) (e : DtcEntry) : DtcEntry :=
  if e.status < status then
    if status = 0x40 ∧ e.detectCnt < 2 then { e with status := status, detectCnt := 2 }
    else { e with status := status }
  else e

/-- The entry `DTC_Report` makes for a code it does not find. -/
def fresh (code : ℕ) : DtcEntry := { dtcCode := code, status := 0x01, detectCnt := 1 }

@[simp]
theorem dtcCode_detect (e : DtcEntry) : e.detect.dtcCode = e.dtcCode := by
  rw [detect]
  split <;> rfl

@[simp]
theorem dtcCode_raise (status : UInt8) (e : DtcEntry) : (e.raise status).dtcCode = e.dtcCode := by
  rw [raise]
  split_ifs <;> rfl

/-- The counter has wrapped: it reads as if the code had never been detected. -/
def Wrapped (e : DtcEntry) : Prop := e.detectCnt = 0

instance : DecidablePred Wrapped := fun e => inferInstanceAs (Decidable (e.detectCnt = 0))

theorem detect_of_wrapped {e : DtcEntry} (h : e.Wrapped) :
    e.detect = { e with detectCnt := 1, status := 0x01 } := if_pos h

theorem detect_of_not_wrapped {e : DtcEntry} (h : ¬ e.Wrapped) :
    e.detect = { e with detectCnt := e.detectCnt + 1, status := 0x40 } := if_neg h

end DtcEntry

/-! ### The store -/

/-- Changing the first entry of a code, which is where the loops over `g_dtcList`
stop. -/
def updateFirst (code : ℕ) (f : DtcEntry → DtcEntry) : List DtcEntry → List DtcEntry
  | [] => []
  | e :: es => if e.dtcCode = code then f e :: es else e :: updateFirst code f es

@[simp]
theorem length_updateFirst (code : ℕ) (f : DtcEntry → DtcEntry) (es : List DtcEntry) :
    (updateFirst code f es).length = es.length := by
  induction es with
  | nil => rfl
  | cons e es ih =>
    rw [updateFirst]
    split
    · rfl
    · rw [List.length_cons, List.length_cons, ih]

theorem map_dtcCode_updateFirst {code : ℕ} {f : DtcEntry → DtcEntry}
    (hf : ∀ e, (f e).dtcCode = e.dtcCode) (es : List DtcEntry) :
    (updateFirst code f es).map DtcEntry.dtcCode = es.map DtcEntry.dtcCode := by
  induction es with
  | nil => rfl
  | cons e es ih =>
    rw [updateFirst]
    split
    · rw [List.map_cons, List.map_cons, hf]
    · rw [List.map_cons, List.map_cons, ih]

namespace DtcStore

/-- The entry of a code. -/
def lookup (s : DtcStore) (code : ℕ) : Option DtcEntry :=
  s.entries.find? fun e => e.dtcCode = code

/-- Changing the entry of a code. -/
def update (s : DtcStore) (code : ℕ) (f : DtcEntry → DtcEntry) : DtcStore where
  entries := updateFirst code f s.entries
  length_le := (length_updateFirst code f s.entries).symm ▸ s.length_le

/-- The store with one more entry. -/
def push (s : DtcStore) (e : DtcEntry) (h : s.entries.length < maxDtcCount) : DtcStore where
  entries := s.entries ++ [e]
  length_le := by
    rw [List.length_append, List.length_singleton]
    exact h

/-- `DTC_Report`. -/
def dtcReport (s : DtcStore) (code : ℕ) : DtcStore :=
  if (s.lookup code).isSome then s.update code DtcEntry.detect
  else if h : s.entries.length < maxDtcCount then s.push (DtcEntry.fresh code) h
  else s

/-- `DTC_Add`. -/
def dtcAdd (s : DtcStore) (code : ℕ) (status : UInt8) : DtcStore :=
  (s.dtcReport code).update code (DtcEntry.raise status)

/-- `DTC_Clear`. -/
def dtcClear (_ : DtcStore) : DtcStore := {}

theorem lookup_update_self {s : DtcStore} {code : ℕ} {f : DtcEntry → DtcEntry}
    (hf : ∀ e, (f e).dtcCode = e.dtcCode) :
    (s.update code f).lookup code = (s.lookup code).map f := by
  obtain ⟨es, hes⟩ := s
  simp only [lookup, update]
  clear hes
  induction es with
  | nil => rfl
  | cons e es ih =>
    by_cases he : e.dtcCode = code
    · simp [updateFirst, he, hf]
    · simpa [updateFirst, he] using ih

theorem lookup_push (s : DtcStore) (e : DtcEntry) (h : s.entries.length < maxDtcCount) (c : ℕ) :
    (s.push e h).lookup c = (s.lookup c).or (if e.dtcCode = c then some e else none) := by
  simp only [lookup, push, List.find?_append, List.find?_singleton, decide_eq_true_eq]

theorem lookup_update_of_ne {s : DtcStore} {code c : ℕ} {f : DtcEntry → DtcEntry}
    (hf : ∀ e, (f e).dtcCode = e.dtcCode) (hne : c ≠ code) :
    (s.update code f).lookup c = s.lookup c := by
  obtain ⟨es, hes⟩ := s
  simp only [lookup, update]
  clear hes
  induction es with
  | nil => rfl
  | cons e es ih =>
    by_cases he : e.dtcCode = code
    · simp [updateFirst, he, hf, Ne.symm hne]
    · by_cases hec : e.dtcCode = c
      · simp [updateFirst, hec, hne]
      · simpa [updateFirst, he, hec] using ih

/-- **What a report leaves of its own code**: the entry detected once more, or a
fresh one if there is room. -/
theorem lookup_dtcReport_self (s : DtcStore) (code : ℕ) :
    (s.dtcReport code).lookup code =
      match s.lookup code with
      | some e => some e.detect
      | none => if s.entries.length < maxDtcCount then some (DtcEntry.fresh code) else none := by
  rw [dtcReport]
  cases hlookup : s.lookup code with
  | some e =>
    rw [Option.isSome_some, if_pos rfl, lookup_update_self DtcEntry.dtcCode_detect, hlookup]
    rfl
  | none =>
    rw [Option.isSome_none, if_neg Bool.false_ne_true]
    by_cases hroom : s.entries.length < maxDtcCount
    · rw [dif_pos hroom, lookup_push, hlookup]
      simp [DtcEntry.fresh, hroom]
    · rw [dif_neg hroom, hlookup]
      simp [hroom]

/-- A report leaves the other codes alone. -/
theorem lookup_dtcReport_of_ne {s : DtcStore} {code c : ℕ} (hne : c ≠ code) :
    (s.dtcReport code).lookup c = s.lookup c := by
  rw [dtcReport]
  split_ifs with hstored hroom
  · exact lookup_update_of_ne DtcEntry.dtcCode_detect hne
  · have hother : ¬ (DtcEntry.fresh code).dtcCode = c := Ne.symm hne
    rw [lookup_push, if_neg hother, Option.or_none]
  · rfl

theorem lookup_dtcAdd_self (s : DtcStore) (code : ℕ) (status : UInt8) :
    (s.dtcAdd code status).lookup code =
      ((s.dtcReport code).lookup code).map (DtcEntry.raise status) :=
  lookup_update_self (DtcEntry.dtcCode_raise status)

theorem lookup_dtcAdd_of_ne {s : DtcStore} {code c : ℕ} {status : UInt8} (hne : c ≠ code) :
    (s.dtcAdd code status).lookup c = s.lookup c :=
  (lookup_update_of_ne (DtcEntry.dtcCode_raise status) hne).trans (lookup_dtcReport_of_ne hne)

theorem lookup_isSome_iff {s : DtcStore} {code : ℕ} :
    (s.lookup code).isSome ↔ code ∈ s.entries.map DtcEntry.dtcCode := by
  simp [lookup, List.find?_isSome]

/-- **A report takes the store on like its history**: if the store holds the codes of
what was reported, it does so with one more report. -/
theorem map_dtcCode_dtcReport {s : DtcStore} {codes : List ℕ}
    (h : s.entries.map DtcEntry.dtcCode = firstDistinct maxDtcCount codes) (code : ℕ) :
    (s.dtcReport code).entries.map DtcEntry.dtcCode =
      firstDistinct maxDtcCount (codes ++ [code]) := by
  have hlen : s.entries.length = (firstDistinct maxDtcCount codes).length := by
    rw [← h, List.length_map]
  rw [dtcReport]
  by_cases hstored : (s.lookup code).isSome
  · have hmem := lookup_isSome_iff.mp hstored
    rw [if_pos hstored, firstDistinct_concat_of_mem (h ▸ hmem), ← h]
    exact map_dtcCode_updateFirst DtcEntry.dtcCode_detect _
  · have hnew : code ∉ firstDistinct maxDtcCount codes := fun hmem =>
      hstored (lookup_isSome_iff.mpr (h ▸ hmem))
    rw [if_neg hstored]
    by_cases hroom : s.entries.length < maxDtcCount
    · rw [dif_pos hroom, firstDistinct_concat_of_room hnew (hlen ▸ hroom), ← h]
      exact List.map_append
    · rw [dif_neg hroom, firstDistinct_concat_of_full (by omega), h]

/-- A report never drops an entry. -/
theorem length_le_dtcReport (s : DtcStore) (code : ℕ) :
    s.entries.length ≤ (s.dtcReport code).entries.length := by
  rw [dtcReport]
  split_ifs
  · exact Nat.le_of_eq (length_updateFirst _ _ _).symm
  · rw [push, List.length_append]
    exact Nat.le_add_right _ _
  · exact Nat.le_refl _

end DtcStore

end Ecu

end VehicleStack
