import Mathlib.Algebra.Group.Int.Even
import Mathlib.Data.Int.Log
import Mathlib.Data.Rat.Floor

/-!
# Rounding to a number of significant bits

Arithmetic in binary floating point rounds each result to the nearest number of `p`
significant bits, and of two that are as near to the one whose last bit is zero. Here the
exponent is not bounded, so this is what the arithmetic does where it neither overflows nor
underflows.

A number `q` that is not negative is rounded by taking it for a number of units, where the
unit is the weight of its last significant bit, and rounding that number to an integer
(`VehicleStack.roundEven`, `VehicleStack.roundBits`). This keeps the order
(`VehicleStack.roundBits_mono`), and integers of up to `p` bits
(`VehicleStack.roundBits_natCast`). Of a fraction of integers, it takes away a remainder
(`VehicleStack.evenRem`).
-/

namespace VehicleStack

variable {K : Type*} [Field K] [LinearOrder K] [IsStrictOrderedRing K] [FloorRing K]

/-! ### To an integer -/

/-- The nearest integer, and of two that are as near the even one. -/
def roundEven (q : K) : ℤ :=
  if 2 * Int.fract q < 1 ∨ 2 * Int.fract q = 1 ∧ Even ⌊q⌋ then ⌊q⌋ else ⌊q⌋ + 1

variable {q q' : K} {m : ℤ}

omit [IsStrictOrderedRing K] in
theorem floor_le_roundEven (q : K) : ⌊q⌋ ≤ roundEven q := by
  rw [roundEven]
  split_ifs <;> omega

omit [IsStrictOrderedRing K] in
theorem roundEven_le_floor_succ (q : K) : roundEven q ≤ ⌊q⌋ + 1 := by
  rw [roundEven]
  split_ifs <;> omega

@[simp]
theorem roundEven_intCast (m : ℤ) : roundEven (m : K) = m := by
  rw [roundEven, Int.fract_intCast, Int.floor_intCast, mul_zero, if_pos (Or.inl one_pos)]

/-- What is less than a half below an integer is not rounded to less. -/
theorem le_roundEven (h : (m : K) - 1 / 2 < q) : m ≤ roundEven q := by
  rcases le_or_gt m ⌊q⌋ with hle | hlt
  · exact hle.trans (floor_le_roundEven q)
  · have hfloor : ⌊q⌋ + 1 = m := by
      have hbelow : m - 1 ≤ ⌊q⌋ := Int.le_floor.mpr (by push_cast; linarith)
      omega
    have hfract : 1 < 2 * Int.fract q := by
      rw [← hfloor] at h
      push_cast at h
      rw [Int.fract]
      linarith
    rw [roundEven, if_neg, hfloor]
    rintro (hless | ⟨heq, -⟩) <;> linarith

theorem abs_roundEven_sub_le (q : K) : |roundEven q - q| ≤ 1 / 2 := by
  have hnonneg := Int.fract_nonneg q
  have hlt := Int.fract_lt_one q
  have hfract := Int.self_sub_floor q
  rw [roundEven, abs_le]
  split_ifs with hdown
  · have hless : 2 * Int.fract q ≤ 1 := hdown.elim le_of_lt fun htie => htie.1.le
    constructor <;> linarith
  · have hmore : 1 ≤ 2 * Int.fract q := not_lt.mp fun hless => hdown (Or.inl hless)
    push_cast
    constructor <;> linarith

theorem roundEven_mono (h : q ≤ q') : roundEven q ≤ roundEven q' := by
  rcases (Int.floor_mono h).lt_or_eq with hlt | heq
  · exact (roundEven_le_floor_succ q).trans (hlt.trans_le (floor_le_roundEven q'))
  · have hfract : 2 * Int.fract q ≤ 2 * Int.fract q' := by
      rw [Int.fract, Int.fract, heq]
      linarith
    by_cases hup : 2 * Int.fract q < 1 ∨ 2 * Int.fract q = 1 ∧ Even ⌊q⌋
    · rw [roundEven, if_pos hup, heq]
      exact floor_le_roundEven q'
    · -- `q` is rounded up, so `q'` is
      have hup' : ¬ (2 * Int.fract q' < 1 ∨ 2 * Int.fract q' = 1 ∧ Even ⌊q'⌋) := by
        rintro (hless | ⟨htie, heven⟩)
        · exact hup (Or.inl (hfract.trans_lt hless))
        · rcases (hfract.trans_eq htie).lt_or_eq with hless | htie'
          · exact hup (Or.inl hless)
          · exact hup (Or.inr ⟨htie', heq ▸ heven⟩)
      rw [roundEven, roundEven, if_neg hup, if_neg hup', heq]

/-! ### What is taken away from a fraction -/

/-- The remainder of `m` by `n` to the nearest multiple, and of two that are as near to the even
one. -/
def evenRem (m n : ℕ) : ℤ :=
  if 2 * (m % n) < n ∨ 2 * (m % n) = n ∧ Even (m / n) then (m % n : ℕ) else (m % n : ℕ) - (n : ℤ)

theorem abs_evenRem_le (m : ℕ) {n : ℕ} (hn : 0 < n) : 2 * |evenRem m n| ≤ n := by
  have hlt := Nat.mod_lt m hn
  rw [evenRem]
  split_ifs with hdown
  · rw [abs_of_nonneg (Int.natCast_nonneg _)]
    omega
  · rw [abs_of_nonpos (by omega)]
    omega

theorem evenRem_le (m n : ℕ) : evenRem m n ≤ m := by
  have hle := Nat.mod_le m n
  rw [evenRem]
  split_ifs <;> omega

@[simp]
theorem evenRem_one (m : ℕ) : evenRem m 1 = 0 := by
  rw [evenRem, Nat.mod_one, if_pos (Or.inl (by decide)), Nat.cast_zero]

theorem dvd_sub_evenRem (m n : ℕ) : (n : ℤ) ∣ m - evenRem m n := by
  have hdiv : (m : ℤ) = n * (m / n : ℕ) + (m % n : ℕ) := by
    exact_mod_cast (Nat.div_add_mod m n).symm
  rw [evenRem]
  split_ifs
  · exact ⟨(m / n : ℕ), by omega⟩
  · exact ⟨(m / n : ℕ) + 1, by rw [mul_add, mul_one]; omega⟩

/-- The nearest multiple of `n`, and of two that are as near the even one. -/
def nearestMultiple (m n : ℕ) : ℤ := m - evenRem m n

/-- **Rounding a fraction takes away a remainder.** -/
theorem roundEven_div (m : ℕ) {n : ℕ} (hn : 0 < n) :
    (roundEven ((m : K) / n)) * (n : ℤ) = m - evenRem m n := by
  have hn' : (0 : K) < n := Nat.cast_pos.mpr hn
  have hfloor : ⌊(m : K) / n⌋ = (m / n : ℕ) := by
    rw [Int.floor_div_natCast, Int.floor_natCast, Int.natCast_ediv]
  have hfract : Int.fract ((m : K) / n) = (m % n : ℕ) / n :=
    Int.fract_div_natCast_eq_div_natCast_mod
  have hdiv : (m : ℤ) = n * (m / n : ℕ) + (m % n : ℕ) := by
    exact_mod_cast (Nat.div_add_mod m n).symm
  have hless : 2 * Int.fract ((m : K) / n) < 1 ↔ 2 * (m % n) < n := by
    rw [hfract, mul_div_assoc', div_lt_one hn']
    exact_mod_cast Iff.rfl
  have htie : 2 * Int.fract ((m : K) / n) = 1 ↔ 2 * (m % n) = n := by
    rw [hfract, mul_div_assoc', div_eq_one_iff_eq hn'.ne']
    exact_mod_cast Iff.rfl
  have hdown : (2 * Int.fract ((m : K) / n) < 1 ∨
      2 * Int.fract ((m : K) / n) = 1 ∧ Even ⌊(m : K) / n⌋) ↔
      2 * (m % n) < n ∨ 2 * (m % n) = n ∧ Even (m / n) :=
    or_congr hless (and_congr htie (by rw [hfloor, Int.even_coe_nat]))
  rw [roundEven, evenRem, hfloor]
  by_cases hless' : 2 * (m % n) < n ∨ 2 * (m % n) = n ∧ Even (m / n)
  · rw [hfloor] at hdown
    rw [if_pos (hdown.mpr hless'), if_pos hless', mul_comm]
    omega
  · rw [hfloor] at hdown
    rw [if_neg (mt hdown.mp hless'), if_neg hless', add_mul, one_mul, mul_comm]
    omega

/-! ### To significant bits -/

/-- A number that is not negative, to `p` significant bits: so many units as the nearest integer
says, where the unit is the weight of the last of the bits. -/
def roundBits (p : ℕ) (q : K) : K :=
  roundEven (q / 2 ^ (Int.log 2 q + 1 - p)) * 2 ^ (Int.log 2 q + 1 - p)

variable {p : ℕ} {k : ℤ}

/-- What is a number of units is not changed. -/
theorem roundBits_of_eq (hm : q = m * 2 ^ (Int.log 2 q + 1 - p)) : roundBits p q = q := by
  have hunit : (2 : K) ^ (Int.log 2 q + 1 - p) ≠ 0 := zpow_ne_zero _ two_ne_zero
  have hdiv : q / 2 ^ (Int.log 2 q + 1 - p) = m := (div_eq_iff hunit).mpr hm
  rw [roundBits, hdiv, roundEven_intCast, ← hm]

/-- A power of two in units of a smaller one. -/
theorem zpow_eq_mul (n : ℕ) (k : ℤ) : (2 : K) ^ k = ((2 ^ n : ℤ) : K) * 2 ^ (k - n) := by
  push_cast
  rw [← zpow_natCast, ← zpow_add₀ two_pos.ne', add_sub_cancel]

/-- Half a unit. -/
theorem half_mul_zpow (k : ℤ) : 1 / 2 * (2 : K) ^ (k + 1 - p) = 2 ^ (k - p) := by
  rw [show k + 1 - (p : ℤ) = k - p + 1 by omega, zpow_add_one₀ two_pos.ne', mul_comm _ (2 : K),
    one_div, inv_mul_cancel_left₀ two_pos.ne']

/-- Powers of two are kept. -/
theorem roundBits_zpow (hp : 0 < p) (k : ℤ) : roundBits p ((2 : K) ^ k) = 2 ^ k := by
  have hlog : Int.log 2 ((2 : K) ^ k) = k := by
    exact_mod_cast Int.log_zpow (R := K) Nat.one_lt_two k
  refine roundBits_of_eq (m := 2 ^ (p - 1)) ?_
  rw [hlog, show k + 1 - (p : ℤ) = k - (p - 1 : ℕ) by omega]
  exact zpow_eq_mul (p - 1) k

@[simp]
theorem roundBits_zero (p : ℕ) : roundBits p (0 : K) = 0 := by
  have hzero : (0 : K) / 2 ^ (Int.log 2 (0 : K) + 1 - p) = (0 : ℤ) := by
    rw [zero_div, Int.cast_zero]
  rw [roundBits, hzero, roundEven_intCast, Int.cast_zero, zero_mul]

/-- Between two powers of two. -/
theorem log_eq (hlo : 2 ^ k ≤ q) (hlt : q < 2 ^ (k + 1)) : Int.log 2 q = k := by
  have hpos : 0 < q := (zpow_pos two_pos k).trans_le hlo
  have hle : k ≤ Int.log 2 q :=
    (Int.zpow_le_iff_le_log Nat.one_lt_two hpos).mp (by exact_mod_cast hlo)
  have hge : Int.log 2 q < k + 1 :=
    (Int.lt_zpow_iff_log_lt Nat.one_lt_two hpos).mp (by exact_mod_cast hlt)
  omega

theorem zpow_log_le (hpos : 0 < q) : 2 ^ Int.log 2 q ≤ q := by
  exact_mod_cast Int.zpow_log_le_self Nat.one_lt_two hpos

theorem lt_zpow_log (q : K) : q < 2 ^ (Int.log 2 q + 1) := by
  exact_mod_cast Int.lt_zpow_succ_log_self Nat.one_lt_two q

/-- **Between two powers of two** the unit is the same, and the upper one may be included. -/
theorem roundBits_of_mem (hp : 0 < p) (hlo : 2 ^ k ≤ q) (hhi : q ≤ 2 ^ (k + 1)) :
    roundBits p q = roundEven (q / 2 ^ (k + 1 - p)) * 2 ^ (k + 1 - p) := by
  rcases hhi.lt_or_eq with hlt | rfl
  · rw [roundBits, log_eq hlo hlt]
  · have hdiv : (2 : K) ^ (k + 1) / 2 ^ (k + 1 - p) = (2 ^ p : ℤ) :=
      (div_eq_iff (zpow_ne_zero _ two_ne_zero)).mpr (zpow_eq_mul p (k + 1))
    rw [roundBits_zpow hp, hdiv, roundEven_intCast]
    exact zpow_eq_mul p (k + 1)

/-- Rounding does not leave the interval between two powers of two. -/
theorem roundBits_mem (hp : 0 < p) (hlo : 2 ^ k ≤ q) (hhi : q ≤ 2 ^ (k + 1)) :
    2 ^ k ≤ roundBits p q ∧ roundBits p q ≤ 2 ^ (k + 1) := by
  have hunit : (0 : K) < 2 ^ (k + 1 - p) := zpow_pos two_pos _
  have hlow := zpow_eq_mul (K := K) (p - 1) k
  have hhigh := zpow_eq_mul (K := K) p (k + 1)
  rw [show k - ((p - 1 : ℕ) : ℤ) = k + 1 - p by omega] at hlow
  rw [roundBits_of_mem hp hlo hhi]
  constructor
  · rw [hlow] at hlo ⊢
    refine mul_le_mul_of_nonneg_right (Int.cast_le.mpr ?_) hunit.le
    refine (roundEven_intCast (K := K) _).symm.trans_le (roundEven_mono ?_)
    rwa [le_div_iff₀ hunit]
  · rw [hhigh] at hhi ⊢
    refine mul_le_mul_of_nonneg_right (Int.cast_le.mpr ?_) hunit.le
    refine (roundEven_mono ?_).trans_eq (roundEven_intCast (K := K) _)
    rwa [div_le_iff₀ hunit]

theorem roundBits_nonneg (hp : 0 < p) (h : 0 ≤ q) : 0 ≤ roundBits p q := by
  rcases h.lt_or_eq with hpos | rfl
  · exact (zpow_pos two_pos _).le.trans
      (roundBits_mem hp (zpow_log_le hpos) (lt_zpow_log q).le).1
  · rw [roundBits_zero]

/-- **Rounding keeps the order.** -/
theorem roundBits_mono (hp : 0 < p) (hq : 0 ≤ q) (h : q ≤ q') : roundBits p q ≤ roundBits p q' := by
  rcases hq.lt_or_eq with hpos | rfl
  · have hmem := roundBits_mem hp (zpow_log_le hpos) (lt_zpow_log q).le
    have hpos' := hpos.trans_le h
    have hmem' := roundBits_mem hp (zpow_log_le hpos') (lt_zpow_log q').le
    rcases (Int.log_mono_right hpos h (b := 2)).lt_or_eq with hlt | heq
    · -- a power of two is between them
      exact hmem.2.trans ((zpow_le_zpow_right₀ one_le_two hlt).trans hmem'.1)
    · have hunit : (0 : K) < 2 ^ (Int.log 2 q' + 1 - p) := zpow_pos two_pos _
      rw [roundBits, roundBits, heq]
      exact mul_le_mul_of_nonneg_right
        (Int.cast_le.mpr (roundEven_mono (div_le_div_of_nonneg_right h hunit.le))) hunit.le
  · rw [roundBits_zero]
    exact roundBits_nonneg hp h

/-- **Integers of up to `p` bits are kept.** -/
theorem roundBits_natCast (hp : 0 < p) {n : ℕ} (hn : n ≤ 2 ^ p) : roundBits p (n : K) = n := by
  rcases hn.lt_or_eq with hlt | rfl
  · rcases n.eq_zero_or_pos with rfl | hpos
    · rw [Nat.cast_zero, roundBits_zero]
    · have hlog : Nat.log 2 n < p := Nat.log_lt_of_lt_pow hpos.ne' hlt
      refine roundBits_of_eq (m := n * 2 ^ (p - 1 - Nat.log 2 n)) ?_
      rw [Int.log_natCast]
      push_cast
      rw [← zpow_natCast (2 : K) (p - 1 - Nat.log 2 n), mul_assoc, ← zpow_add₀ two_ne_zero,
        show ((p - 1 - Nat.log 2 n : ℕ) : ℤ) + ((Nat.log 2 n : ℤ) + 1 - p) = 0 by omega,
        zpow_zero, mul_one]
  · have := roundBits_zpow (K := K) hp p
    rw [zpow_natCast] at this
    exact_mod_cast this

/-- **The error** is at most half a unit. -/
theorem abs_roundBits_sub_le (hpos : 0 < q) (hlt : q < 2 ^ (k + 1)) :
    |roundBits p q - q| ≤ 2 ^ (k - p) := by
  have hk : Int.log 2 q < k + 1 :=
    (Int.lt_zpow_iff_log_lt Nat.one_lt_two hpos).mp (by exact_mod_cast hlt)
  have hunit : (0 : K) < 2 ^ (Int.log 2 q + 1 - p) := zpow_pos two_pos _
  calc |roundBits p q - q|
      = |(roundEven (q / 2 ^ (Int.log 2 q + 1 - p)) - q / 2 ^ (Int.log 2 q + 1 - p)) *
          2 ^ (Int.log 2 q + 1 - p)| := by
        rw [roundBits, sub_mul, div_mul_cancel₀ _ hunit.ne']
    _ ≤ 1 / 2 * 2 ^ (Int.log 2 q + 1 - p) := by
        rw [abs_mul, abs_of_pos hunit]
        exact mul_le_mul_of_nonneg_right (abs_roundEven_sub_le _) hunit.le
    _ ≤ 2 ^ (k - p) := by
        rw [half_mul_zpow]
        exact zpow_le_zpow_right₀ one_le_two (by omega)

/-- **An integer that is near** is not passed: `q` is not rounded to less, if it is less than half
a unit below. -/
theorem le_roundBits_of_near (hlo : 2 ^ k ≤ q) (hhi : q < 2 ^ p)
    (hnear : (m : K) - 2 ^ (k - p) < q) : (m : K) ≤ roundBits p q := by
  have hpos : 0 < q := (zpow_pos two_pos k).trans_le hlo
  have hk : k ≤ Int.log 2 q :=
    (Int.zpow_le_iff_le_log Nat.one_lt_two hpos).mp (by exact_mod_cast hlo)
  have hp : Int.log 2 q < p :=
    (Int.lt_zpow_iff_log_lt Nat.one_lt_two hpos).mp (by exact_mod_cast hhi)
  obtain ⟨n, hn⟩ := Int.eq_ofNat_of_zero_le (by omega : 0 ≤ (p : ℤ) - (Int.log 2 q + 1))
  have hunit : (0 : K) < 2 ^ (Int.log 2 q + 1 - p) := zpow_pos two_pos _
  have hgrid : (m : K) = ((m * 2 ^ n : ℤ) : K) * 2 ^ (Int.log 2 q + 1 - p) := by
    have hone := zpow_eq_mul (K := K) n 0
    rw [zpow_zero, show 0 - (n : ℤ) = Int.log 2 q + 1 - p by omega] at hone
    rw [Int.cast_mul, mul_assoc, ← hone, mul_one]
  have hhalf : (2 : K) ^ (k - p) ≤ 1 / 2 * 2 ^ (Int.log 2 q + 1 - p) := by
    rw [half_mul_zpow]
    exact zpow_le_zpow_right₀ one_le_two (by omega)
  rw [roundBits, hgrid]
  refine mul_le_mul_of_nonneg_right (Int.cast_le.mpr (le_roundEven ?_)) hunit.le
  rw [lt_div_iff₀ hunit, sub_mul, ← hgrid]
  linarith

/-- **Rounding a quotient takes away a remainder**, by the distance `w` of two neighbouring
quotients times the divisor. -/
theorem roundBits_div (hp : 0 < p) {n d w : ℕ} (hd : 0 < d) (hw : (w : K) = d * 2 ^ (k + 1 - p))
    (hlo : 2 ^ k ≤ (n : K) / d) (hhi : (n : K) / d ≤ 2 ^ (k + 1)) :
    roundBits p ((n : K) / d) = ((n - evenRem n w : ℤ) : K) / d := by
  have hd' : (0 : K) < d := Nat.cast_pos.mpr hd
  have hunit : (0 : K) < 2 ^ (k + 1 - p) := zpow_pos two_pos _
  have hpos : 0 < w := by
    rw [← Nat.cast_pos (α := K), hw]
    exact mul_pos hd' hunit
  rw [roundBits_of_mem hp hlo hhi, div_div, ← hw, ← roundEven_div (K := K) n hpos,
    eq_div_iff hd'.ne', Int.cast_mul, Int.cast_natCast, hw]
  ring

/-- **Rounding an integer takes away a remainder**, by the weight of the bits that do not fit. -/
theorem roundBits_natCast_eq (hp : 0 < p) (n : ℕ) :
    roundBits p (n : K) = ((n - evenRem n (2 ^ (Nat.log 2 n + 1 - p)) : ℤ) : K) := by
  rcases lt_or_ge n (2 ^ p) with hlt | hge
  · have hlog : Nat.log 2 n + 1 - p = 0 := by
      rcases n.eq_zero_or_pos with rfl | hpos
      · rw [Nat.log_zero_right]
        omega
      · have := Nat.log_lt_of_lt_pow hpos.ne' hlt
        omega
    rw [roundBits_natCast hp hlt.le, hlog, pow_zero, evenRem_one, sub_zero, Int.cast_natCast]
  · have hne : n ≠ 0 := ((Nat.two_pow_pos p).trans_le hge).ne'
    have hlog : p ≤ Nat.log 2 n := Nat.le_log_of_pow_le Nat.one_lt_two hge
    have hunit : ((2 ^ (Nat.log 2 n + 1 - p) : ℕ) : K) =
        (1 : ℕ) * 2 ^ ((Nat.log 2 n : ℤ) + 1 - p) := by
      rw [Nat.cast_one, one_mul, Nat.cast_pow, Nat.cast_ofNat, ← zpow_natCast]
      congr 1
      omega
    have hlo : (2 : K) ^ (Nat.log 2 n : ℤ) ≤ (n : K) / (1 : ℕ) := by
      rw [Nat.cast_one, div_one, zpow_natCast]
      exact_mod_cast Nat.pow_log_le_self 2 hne
    have hhi : (n : K) / (1 : ℕ) ≤ (2 : K) ^ ((Nat.log 2 n : ℤ) + 1) := by
      rw [Nat.cast_one, div_one, ← Nat.cast_add_one, zpow_natCast]
      exact_mod_cast (Nat.lt_pow_succ_log_self Nat.one_lt_two n).le
    have hdiv := roundBits_div hp Nat.one_pos hunit hlo hhi
    rwa [Nat.cast_one, div_one, div_one] at hdiv

end VehicleStack
