import Mathlib.Data.List.Basic
import Mathlib.Data.List.Induction
import Mathlib.Algebra.Order.Ring.Int
import Mathlib.Tactic.Ring
import Mathlib.Tactic.NormNum

/-!
# Big-endian integers

Fixed-width integers as bytes, most significant byte first, the way network
protocols carry them. A width `k` holds the residues modulo `256 ^ k`; a signed
integer of that width is its residue, and reading it back takes the balanced
representative, so a value that fits is read back unchanged
(`VehicleStack.BigEndian.ofIntBytes_toIntBytes`).
-/

namespace VehicleStack

namespace BigEndian

/-- The number some bytes spell, most significant first. -/
def ofBytes (bs : List UInt8) : ℕ := bs.foldl (fun n b => n * 256 + b.toNat) 0

/-- The `k` low bytes of a number, most significant first. -/
def toBytes : ℕ → ℕ → List UInt8
  | 0, _ => []
  | k + 1, n => toBytes k (n / 256) ++ [UInt8.ofNat n]

theorem ofBytes_concat (bs : List UInt8) (b : UInt8) :
    ofBytes (bs ++ [b]) = ofBytes bs * 256 + b.toNat := by
  rw [ofBytes, List.foldl_append]
  rfl

theorem ofBytes_append (bs cs : List UInt8) :
    ofBytes (bs ++ cs) = ofBytes bs * 256 ^ cs.length + ofBytes cs := by
  induction cs using List.reverseRecOn with
  | nil => simp [ofBytes]
  | append_singleton cs c ih =>
    rw [← List.append_assoc, ofBytes_concat, ofBytes_concat, ih, List.length_append,
      List.length_singleton]
    ring

@[simp]
theorem length_toBytes (k n : ℕ) : (toBytes k n).length = k := by
  induction k generalizing n with
  | zero => rfl
  | succ k ih => rw [toBytes, List.length_append, ih, List.length_singleton]

/-- Reading back the low bytes of a number gives its residue. -/
theorem ofBytes_toBytes (k n : ℕ) : ofBytes (toBytes k n) = n % 256 ^ k := by
  induction k generalizing n with
  | zero => rw [pow_zero, Nat.mod_one]; rfl
  | succ k ih =>
    have hbyte : (UInt8.ofNat n).toNat = n % 256 := UInt8.toNat_ofNat'
    rw [toBytes, ofBytes_concat, ih, hbyte, pow_succ', Nat.mod_mul]
    ring

/-- What some bytes spell is below the bound of their width. -/
theorem ofBytes_lt (bs : List UInt8) : ofBytes bs < 256 ^ bs.length := by
  induction bs using List.reverseRecOn with
  | nil => exact Nat.one_pos
  | append_singleton bs b ih =>
    have hbyte := b.toNat_lt
    rw [ofBytes_concat, List.length_append, List.length_singleton, pow_succ]
    omega

/-- Greater bytes spell a greater number. -/
theorem ofBytes_map_le {ι : Type*} {f g : ι → UInt8} (h : ∀ i, (f i).toNat ≤ (g i).toNat)
    (is : List ι) : ofBytes (is.map f) ≤ ofBytes (is.map g) := by
  induction is using List.reverseRecOn with
  | nil => exact Nat.le_refl _
  | append_singleton is i ih =>
    have hbyte := h i
    rw [List.map_append, List.map_append, List.map_singleton, List.map_singleton, ofBytes_concat,
      ofBytes_concat]
    omega

/-- The bytes of a signed integer of width `k`. -/
def toIntBytes (k : ℕ) (z : ℤ) : List UInt8 := toBytes k (z % 256 ^ k).toNat

/-- The signed integer some bytes spell. -/
def ofIntBytes (bs : List UInt8) : ℤ := Int.bmod (ofBytes bs) (256 ^ bs.length)

@[simp]
theorem length_toIntBytes (k : ℕ) (z : ℤ) : (toIntBytes k z).length = k :=
  length_toBytes k _

/-- **A signed integer that fits its width is read back unchanged.** -/
theorem ofIntBytes_toIntBytes {k : ℕ} {z : ℤ} (hlo : -(256 ^ k : ℤ) ≤ 2 * z)
    (hhi : 2 * z < 256 ^ k) : ofIntBytes (toIntBytes k z) = z := by
  have hpos : (0 : ℤ) < 256 ^ k := by positivity
  have hcast : ((256 ^ k : ℕ) : ℤ) = 256 ^ k := by norm_cast
  have hres : (((z % 256 ^ k).toNat % 256 ^ k : ℕ) : ℤ) = z % 256 ^ k := by
    rw [Int.natCast_mod, hcast, Int.toNat_of_nonneg (Int.emod_nonneg z hpos.ne'), Int.emod_emod]
  rw [ofIntBytes, length_toIntBytes, toIntBytes, ofBytes_toBytes, hres, ← hcast,
    Int.emod_bmod]
  exact Int.bmod_eq_of_le_mul_two (by rw [hcast]; omega) (by rw [hcast]; omega)

/-- A number in the lower half of its width is read as it is. -/
theorem ofIntBytes_of_le {bs : List UInt8} {n : ℕ} (hn : 2 * n < 256 ^ bs.length)
    (h : ofBytes bs ≤ n) : ofIntBytes bs = ofBytes bs :=
  Int.bmod_eq_of_le_mul_two (by omega) (by omega)

/-- **A small range of signed integers** is the range of the numbers their bytes spell. -/
theorem ofIntBytes_mem_iff {bs : List UInt8} {n : ℕ} (hn : 2 * n < 256 ^ bs.length) :
    (0 ≤ ofIntBytes bs ∧ ofIntBytes bs ≤ n) ↔ ofBytes bs ≤ n := by
  constructor
  · rintro ⟨hlo, hhi⟩
    by_contra hgt
    have hlt := ofBytes_lt bs
    rw [ofIntBytes, Int.bmod_def, Int.emod_eq_of_lt (by omega) (by omega)] at hlo hhi
    split at hlo <;> omega
  · intro h
    rw [ofIntBytes_of_le hn h]
    omega

/-- Bytes of one width that are read alike spell the same number. -/
theorem ofBytes_eq_of_ofIntBytes_eq {bs cs : List UInt8} (hlen : bs.length = cs.length)
    (h : ofIntBytes bs = ofIntBytes cs) : ofBytes bs = ofBytes cs := by
  have hb := ofBytes_lt bs
  have hc := ofBytes_lt cs
  rw [hlen] at hb
  rw [ofIntBytes, ofIntBytes, hlen] at h
  have hmod := congrArg (· % ((256 ^ cs.length : ℕ) : ℤ)) h
  simp only [Int.bmod_emod] at hmod
  rw [Int.emod_eq_of_lt (by omega) (by omega), Int.emod_eq_of_lt (by omega) (by omega)] at hmod
  omega

end BigEndian

end VehicleStack
