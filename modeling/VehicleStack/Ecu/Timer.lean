import Mathlib.Algebra.Order.Floor.Semifield
import Mathlib.Data.Nat.Cast.Order.Field
import Mathlib.Tactic.IntervalCases
import Mathlib.Tactic.NormNum
import VehicleStack.Ecu.Ultrasonic
import VehicleStack.Lib.SignificantBits

/-!
# The system timer

`STM0_getTime10ns` and `STM0_getTimeUs` of `stm.c`. The timer counts hundredths of a
microsecond in 64 bits, which are read in two halves, the upper one twice
(`VehicleStack.Ecu.Timer.stm0GetTime10ns_mem`). The count is divided by a `float`, so both
the count and the quotient are rounded to 24 significant bits, and the fraction is cut off
at the end.

What the two roundings cut off are two remainders with a sign
(`VehicleStack.Ecu.Timer.cut`, `VehicleStack.Ecu.Timer.rest`). The main result is
`VehicleStack.Ecu.Timer.timeUs_precise`: timestamps are in order at all times, and the two
edges of an echo are measured precisely exactly if the count of each is below `2 ^ 29`,
which is 5.4 seconds after power-on, or its two remainders add up to no more than a
microsecond. The first count for which they do not is 536871901. Later the timestamps are
multiples of what grows with the count (`VehicleStack.Ecu.Timer.spacing_dvd_timeUs`), 8192
microseconds after a day, and an echo takes no time (`VehicleStack.Ecu.Timer.echo_lost`).
-/

namespace VehicleStack

namespace Ecu

namespace Timer

/-! ### Reading the timer -/

/-- What a round of the loop in `STM0_getTime10ns` reads, in this order. -/
structure Reads where
  upper1 : UInt32
  lower : UInt32
  upper2 : UInt32

/-- `STM0_getTime10ns`, by the rounds of its loop; nothing as long as it goes on. -/
def stm0GetTime10ns : List Reads → Option UInt64
  | [] => none
  | r :: rounds =>
    if r.upper1 ≠ r.upper2 then stm0GetTime10ns rounds
    else some ((r.upper1.toUInt64 <<< 32) ||| r.lower.toUInt64)

/-- What is read of a timer at three times. -/
def Reads.at (t : UInt64 × UInt64 × UInt64) : Reads where
  upper1 := (t.1 >>> 32).toUInt32
  lower := t.2.1.toUInt32
  upper2 := (t.2.2 >>> 32).toUInt32

/-- The upper half of a count. -/
theorem toNat_upper (t : UInt64) : (t >>> 32).toUInt32.toNat = t.toNat / 2 ^ 32 := by
  have hlt := t.toNat_lt
  rw [UInt64.toNat_toUInt32, UInt64.toNat_shiftRight]
  show t.toNat >>> 32 % 2 ^ 32 = _
  rw [Nat.shiftRight_eq_div_pow, Nat.mod_eq_of_lt (by omega)]

/-- Two halves put together. -/
theorem toNat_halves (upper lower : UInt32) :
    ((upper.toUInt64 <<< 32) ||| lower.toUInt64).toNat = upper.toNat * 2 ^ 32 + lower.toNat := by
  have hupper := upper.toNat_lt
  have hlower := lower.toNat_lt
  rw [UInt64.toNat_or, UInt64.toNat_shiftLeft, UInt32.toNat_toUInt64, UInt32.toNat_toUInt64]
  show upper.toNat <<< 32 % 2 ^ 64 ||| lower.toNat = _
  rw [Nat.mod_eq_of_lt (by rw [Nat.shiftLeft_eq]; omega),
    ← Nat.shiftLeft_add_eq_or_of_lt hlower, Nat.shiftLeft_eq]

/-- The timer does not run backwards while it is read. -/
def Forward (rounds : List (UInt64 × UInt64 × UInt64)) : Prop :=
  ∀ t ∈ rounds, t.1 ≤ t.2.1 ∧ t.2.1 ≤ t.2.2

/-- **The two halves belong together**: the count returned is the one the timer had when its lower
half was read. -/
theorem stm0GetTime10ns_mem {rounds : List (UInt64 × UInt64 × UInt64)} (h : Forward rounds)
    {c : UInt64} (hc : stm0GetTime10ns (rounds.map Reads.at) = some c) :
    ∃ t ∈ rounds, c = t.2.1 := by
  induction rounds with
  | nil => cases hc
  | cons t rounds ih =>
    rw [List.map_cons, stm0GetTime10ns] at hc
    split at hc
    · obtain ⟨t', ht', heq⟩ := ih (fun t ht => h t (List.mem_cons_of_mem _ ht)) hc
      exact ⟨t', List.mem_cons_of_mem _ ht', heq⟩
    · rename_i hsame
      refine ⟨t, List.mem_cons_self, ?_⟩
      obtain ⟨hlo, hhi⟩ := h t List.mem_cons_self
      have hupper := congrArg UInt32.toNat (not_not.mp hsame)
      rw [Reads.at, toNat_upper, toNat_upper] at hupper
      have hlower : t.2.1.toUInt32.toNat = t.2.1.toNat % 2 ^ 32 := UInt64.toNat_toUInt32 _
      rw [UInt64.le_iff_toNat_le] at hlo hhi
      rw [← Option.some.inj hc, ← UInt64.toNat_inj, toNat_halves, Reads.at, toNat_upper, hlower]
      omega

/-! ### The time in microseconds -/

/-- A conversion from an integer to `float`. -/
def toFloat (n : ℕ) : ℚ := roundBits 24 n

/-- A division in `float`. -/
def floatDiv (a b : ℚ) : ℚ := roundBits 24 (a / b)

/-- `frequency`. -/
def frequency : ℚ := toFloat 100000000

/-- What `STM0_getTimeUs` makes of a count. -/
def timeUs (result : UInt64) : UInt64 :=
  UInt64.ofNat ⌊floatDiv (toFloat result.toNat) (floatDiv frequency (toFloat 1000000))⌋₊

/-- `STM0_getTimeUs`, by the rounds of the loop. -/
def stm0GetTimeUs (rounds : List Reads) : Option UInt64 := (stm0GetTime10ns rounds).map timeUs

/-- A timestamp is within a microsecond of the timer. -/
def Precise (c : UInt64) : Prop := |100 * ((timeUs c).toNat : ℤ) - c.toNat| ≤ 100

instance : DecidablePred Precise := fun _ => inferInstanceAs (Decidable (_ ≤ _))

/-- The difference of two timestamps is within two microseconds of the time between them. -/
def PreciseElapsed (rise fall : UInt64) : Prop :=
  |100 * ((timeUs fall - timeUs rise).toNat : ℤ) - (fall.toNat - rise.toNat)| ≤ 200

instance (rise fall : UInt64) : Decidable (PreciseElapsed rise fall) :=
  inferInstanceAs (Decidable (_ ≤ _))

/-- Two timestamps and the time between them are as precise as that. -/
def Measured (rise fall : UInt64) : Prop :=
  Precise rise ∧ Precise fall ∧ (rise ≤ fall → PreciseElapsed rise fall)

/-! ### What is cut off -/

/-- How many bits of a count do not fit in a `float`. -/
def cutBits (c : ℕ) : ℕ := Nat.log 2 c - 23

/-- These bits, as a number with a sign. -/
def cut (c : ℕ) : ℤ := evenRem c (2 ^ cutBits c)

/-- The count without them. -/
def converted (c : ℕ) : ℕ := (c - cut c).toNat

/-- The distance of two neighbouring quotients, in counts. -/
def spacing (c : ℕ) : ℕ :=
  if converted c < 25 * 2 ^ (cutBits c + 19) then 25 * 2 ^ (cutBits c - 5)
  else 25 * 2 ^ (cutBits c - 4)

/-- What is missing from the quotient, in counts: up to the nearest neighbour, and from there to a
whole microsecond. -/
def rest (c : ℕ) : ℤ :=
  let r := evenRem (converted c) (spacing c)
  r + (converted c - r) % 100

/-- What is missing from a timestamp, in counts, and more than there is if it is negative. -/
def missed (c : ℕ) : ℤ := cut c + rest c

/-- **The counts that are precise**; the first one that is not is 536871901. -/
def Fine (c : UInt64) : Prop := c.toNat < 2 ^ 29 ∨ |missed c.toNat| ≤ 100

instance : DecidablePred Fine := fun _ => inferInstanceAs (Decidable (_ ∨ _))

/-! ### The two roundings -/

theorem floatDiv_frequency : floatDiv frequency (toFloat 1000000) = 100 := by decide +kernel

/-- **The conversion** cuts off the bits that do not fit. -/
theorem toFloat_eq (c : ℕ) : toFloat c = converted c := by
  have hnonneg : 0 ≤ (c : ℤ) - cut c := sub_nonneg.mpr (evenRem_le c _)
  rw [toFloat, roundBits_natCast_eq (by decide), converted]
  show ((c - cut c : ℤ) : ℚ) = _
  rw [← Int.toNat_of_nonneg hnonneg, Int.cast_natCast, Int.toNat_natCast]

theorem converted_eq (c : ℕ) : (converted c : ℤ) = c - cut c :=
  Int.toNat_of_nonneg (sub_nonneg.mpr (evenRem_le c _))

theorem dvd_converted (c : ℕ) : 2 ^ cutBits c ∣ converted c := by
  have hdvd : ((2 ^ cutBits c : ℕ) : ℤ) ∣ c - cut c := dvd_sub_evenRem c (2 ^ cutBits c)
  rwa [← converted_eq, Int.natCast_dvd_natCast] at hdvd

/-- The converted count has the leading bit of the count, or is the next power of two. -/
theorem converted_mem {c : ℕ} (h : 2 ^ 23 ≤ c) :
    2 ^ (cutBits c + 23) ≤ converted c ∧ converted c ≤ 2 ^ (cutBits c + 24) := by
  have hne : c ≠ 0 := by omega
  have hlog : 23 ≤ Nat.log 2 c := Nat.le_log_of_pow_le Nat.one_lt_two h
  have hbits : cutBits c + 23 = Nat.log 2 c := Nat.sub_add_cancel hlog
  have hlo : (2 : ℚ) ^ (Nat.log 2 c : ℤ) ≤ c := by
    rw [zpow_natCast]
    exact_mod_cast Nat.pow_log_le_self 2 hne
  have hhi : (c : ℚ) ≤ 2 ^ ((Nat.log 2 c : ℤ) + 1) := by
    rw [← Nat.cast_add_one, zpow_natCast]
    exact_mod_cast (Nat.lt_pow_succ_log_self Nat.one_lt_two c).le
  have hmem := roundBits_mem (p := 24) (by decide) hlo hhi
  rw [← toFloat, toFloat_eq, ← Nat.cast_add_one, zpow_natCast, zpow_natCast] at hmem
  rw [hbits, show cutBits c + 24 = Nat.log 2 c + 1 by omega]
  exact_mod_cast hmem

/-- Powers of two are not passed. -/
theorem converted_le {c k : ℕ} (h : c ≤ 2 ^ k) : converted c ≤ 2 ^ k := by
  have hle : (c : ℚ) ≤ 2 ^ (k : ℤ) := by
    rw [zpow_natCast]
    exact_mod_cast h
  have hround := roundBits_mono (p := 24) (by decide) (Nat.cast_nonneg _) hle
  rw [roundBits_zpow (by decide), ← toFloat, toFloat_eq, zpow_natCast] at hround
  exact_mod_cast hround

theorem converted_mono {c c' : ℕ} (h : c ≤ c') : converted c ≤ converted c' := by
  have hround := roundBits_mono (p := 24) (by decide) (Nat.cast_nonneg _)
    (Nat.cast_le (α := ℚ).mpr h)
  rw [← toFloat, ← toFloat, toFloat_eq, toFloat_eq] at hround
  exact_mod_cast hround

theorem quotient_nonneg (c : ℕ) : 0 ≤ roundBits 24 ((converted c : ℚ) / 100) :=
  roundBits_nonneg (by decide) (by positivity)

/-- **The timestamp** is the quotient rounded down. -/
theorem toNat_timeUs (c : UInt64) :
    (timeUs c).toNat = ⌊roundBits 24 ((converted c.toNat : ℚ) / 100)⌋₊ := by
  have hquotient : (converted c.toNat : ℚ) / 100 ≤ 2 ^ (58 : ℤ) := by
    have hle : (converted c.toNat : ℚ) ≤ 2 ^ 64 := by exact_mod_cast converted_le c.toNat_lt.le
    rw [div_le_iff₀ (by norm_num)]
    exact hle.trans (by norm_num)
  have hle := roundBits_mono (p := 24) (by decide) (by positivity) hquotient
  rw [roundBits_zpow (by decide)] at hle
  have hlt : ⌊roundBits 24 ((converted c.toNat : ℚ) / 100)⌋₊ < 2 ^ 64 := by
    rw [Nat.floor_lt (quotient_nonneg _)]
    exact hle.trans_lt (by norm_num)
  rw [timeUs, floatDiv_frequency, toFloat_eq, floatDiv, UInt64.toNat_ofNat_of_lt' hlt]

/-- **Timestamps are in order.** -/
theorem timeUs_mono {c c' : UInt64} (h : c ≤ c') : timeUs c ≤ timeUs c' := by
  have hconverted : (converted c.toNat : ℚ) ≤ converted c'.toNat :=
    Nat.cast_le.mpr (converted_mono (UInt64.le_iff_toNat_le.mp h))
  rw [UInt64.le_iff_toNat_le, toNat_timeUs, toNat_timeUs]
  refine Nat.floor_mono (roundBits_mono (by decide) (by positivity) ?_)
  exact div_le_div_of_nonneg_right hconverted (by norm_num)

/-! ### Above `2 ^ 29` -/

/-- **The division** cuts off a remainder: with quotients between two powers of two, neighbours
are as far apart all over. -/
theorem quotient_eq_of_mem {n j : ℕ} (hlo : 25 * 2 ^ (j + 23) ≤ n) (hhi : n ≤ 25 * 2 ^ (j + 24)) :
    roundBits 24 ((n : ℚ) / (100 : ℕ)) =
      ((n - evenRem n (25 * 2 ^ j) : ℤ) : ℚ) / (100 : ℕ) := by
  have hlo' : (25 * 2 ^ (j + 23) : ℚ) ≤ n := by exact_mod_cast hlo
  have hhi' : (n : ℚ) ≤ 25 * 2 ^ (j + 24) := by exact_mod_cast hhi
  refine roundBits_div (k := (j + 21 : ℕ)) (by decide) (by decide) ?_ ?_ ?_
  · rw [show ((j + 21 : ℕ) : ℤ) + 1 - (24 : ℕ) = (j : ℤ) - (2 : ℕ) by push_cast; ring,
      zpow_sub₀ two_ne_zero, zpow_natCast, zpow_natCast]
    push_cast
    ring
  · rw [zpow_natCast, le_div_iff₀ (by norm_num)]
    refine le_trans (le_of_eq ?_) hlo'
    push_cast
    ring
  · rw [← Nat.cast_add_one, zpow_natCast, div_le_iff₀ (by norm_num)]
    refine hhi'.trans (le_of_eq ?_)
    push_cast
    ring

theorem quotient_eq {c : ℕ} (h : 2 ^ 29 ≤ c) : roundBits 24 ((converted c : ℚ) / (100 : ℕ)) =
    ((converted c - evenRem (converted c) (spacing c) : ℤ) : ℚ) / (100 : ℕ) := by
  obtain ⟨hlo, hhi⟩ := converted_mem (show 2 ^ 23 ≤ c from le_trans (by decide) h)
  have hlog : 29 ≤ Nat.log 2 c := Nat.le_log_of_pow_le Nat.one_lt_two h
  obtain ⟨e, he⟩ : ∃ e, cutBits c = e + 5 := ⟨cutBits c - 5, by rw [cutBits]; omega⟩
  rw [he] at hlo hhi
  rw [spacing, he, show e + 5 - 5 = e by omega, show e + 5 - 4 = e + 1 by omega]
  split_ifs with hlow
  · refine quotient_eq_of_mem ?_ hlow.le
    have hpow : 2 ^ (e + 5 + 23) = 32 * 2 ^ (e + 23) := by ring
    omega
  · refine quotient_eq_of_mem (not_lt.mp hlow) ?_
    have hpow : 2 ^ (e + 5 + 24) = 16 * 2 ^ (e + 1 + 24) := by ring
    omega

/-- **What is missing** from a timestamp. -/
theorem timeUs_eq {c : UInt64} (h : 2 ^ 29 ≤ c.toNat) :
    100 * ((timeUs c).toNat : ℤ) = c.toNat - missed c.toNat := by
  have hle : 0 ≤ (converted c.toNat : ℤ) - evenRem (converted c.toNat) (spacing c.toNat) :=
    sub_nonneg.mpr (evenRem_le _ _)
  obtain ⟨v, hv⟩ := Int.eq_ofNat_of_zero_le hle
  have htime : (timeUs c).toNat = v / 100 := by
    have hquotient := quotient_eq h
    rw [Nat.cast_ofNat, hv] at hquotient
    rw [toNat_timeUs, hquotient]
    exact Nat.floor_div_eq_div (K := ℚ) v 100
  have hrest : rest c.toNat = evenRem (converted c.toNat) (spacing c.toNat) + (v : ℤ) % 100 := by
    rw [← hv, rest]
  have hconverted := converted_eq c.toNat
  rw [htime, missed, hrest]
  omega

/-! ### Below `2 ^ 29` -/

section

variable {c : UInt64}

theorem quotient_lt (h : c.toNat < 2 ^ 29) : (converted c.toNat : ℚ) / 100 < 2 ^ 23 := by
  have hle : (converted c.toNat : ℚ) ≤ 2 ^ 29 := by exact_mod_cast converted_le h.le
  rw [div_lt_iff₀ (by norm_num)]
  exact hle.trans_lt (by norm_num)

/-- A timestamp is not rounded up by much. -/
theorem timeUs_le (h : c.toNat < 2 ^ 29) :
    100 * (timeUs c).toNat ≤ converted c.toNat + 25 := by
  rcases (converted c.toNat).eq_zero_or_pos with hzero | hpos
  · rw [toNat_timeUs, hzero, Nat.cast_zero, zero_div, roundBits_zero, Nat.floor_zero]
    omega
  · have hpos' : (0 : ℚ) < (converted c.toNat : ℚ) / 100 :=
      div_pos (Nat.cast_pos.mpr hpos) (by norm_num)
    have hlt : (converted c.toNat : ℚ) / 100 < 2 ^ ((22 : ℤ) + 1) := quotient_lt h
    have herror := (abs_le.mp (abs_roundBits_sub_le (p := 24) hpos' hlt)).2
    have hfloor := Nat.floor_le (quotient_nonneg c.toNat)
    rw [← toNat_timeUs] at hfloor
    have hle : (100 * (timeUs c).toNat : ℚ) ≤ converted c.toNat + 25 := by
      norm_num at herror
      linarith
    exact_mod_cast hle

/-- A whole microsecond is not missed. -/
theorem converted_lt (h : c.toNat < 2 ^ 29) :
    converted c.toNat < 100 * ((timeUs c).toNat + 1) := by
  have hle : converted c.toNat ≤ 2 ^ 29 := converted_le h.le
  have hdiv : ((converted c.toNat / 100 : ℕ) : ℚ) ≤ (converted c.toNat : ℚ) / 100 :=
    Nat.cast_div_le
  have hround := roundBits_mono (p := 24) (by decide) (Nat.cast_nonneg _) hdiv
  rw [roundBits_natCast (by decide) (by omega), ← Nat.le_floor_iff (quotient_nonneg c.toNat),
    ← toNat_timeUs] at hround
  omega

/-- **The more bits are cut off, the earlier** the next microsecond begins. -/
theorem converted_le_of_cutBits (hlo : 2 ^ 23 ≤ c.toNat) (hhi : c.toNat < 2 ^ 29) :
    64 * converted c.toNat + 25 * 2 ^ cutBits c.toNat ≤ 6400 * ((timeUs c).toNat + 1) := by
  by_contra! hnear
  -- the quotient is less than half a unit below the next microsecond
  have hquotient : (2 : ℚ) ^ ((cutBits c.toNat + 16 : ℕ) : ℤ) ≤ (converted c.toNat : ℚ) / 100 := by
    have hmem : (2 : ℚ) ^ (cutBits c.toNat + 23) ≤ converted c.toNat := by
      exact_mod_cast (converted_mem hlo).1
    rw [zpow_natCast, le_div_iff₀ (by norm_num)]
    rw [pow_add] at hmem ⊢
    linarith [pow_pos (two_pos (α := ℚ)) (cutBits c.toNat)]
  have hhalf : (2 : ℚ) ^ (((cutBits c.toNat + 16 : ℕ) : ℤ) - (24 : ℕ)) =
      2 ^ cutBits c.toNat / 256 := by
    rw [show ((cutBits c.toNat + 16 : ℕ) : ℤ) - (24 : ℕ) = (cutBits c.toNat : ℤ) - (8 : ℕ) by
      push_cast; ring, zpow_sub₀ two_ne_zero, zpow_natCast, zpow_natCast]
    norm_num
  have hnext : (((timeUs c).toNat + 1 : ℤ) : ℚ) -
      2 ^ (((cutBits c.toNat + 16 : ℕ) : ℤ) - (24 : ℕ)) < (converted c.toNat : ℚ) / 100 := by
    have hnear' : (6400 * ((timeUs c).toNat + 1) : ℚ) <
        64 * converted c.toNat + 25 * 2 ^ cutBits c.toNat := by exact_mod_cast hnear
    rw [hhalf]
    push_cast
    linarith
  have hround := le_roundBits_of_near hquotient ((quotient_lt hhi).trans (by norm_num)) hnext
  have hfloor := Nat.lt_floor_add_one (roundBits 24 ((converted c.toNat : ℚ) / 100))
  rw [← toNat_timeUs] at hfloor
  refine absurd hfloor (not_lt.mpr ?_)
  exact_mod_cast hround

theorem le_of_cutBits_pos {c : ℕ} (h : 0 < cutBits c) : 2 ^ 23 ≤ c := by
  have hlog : 23 < Nat.log 2 c := by rwa [cutBits, Nat.sub_pos_iff_lt] at h
  refine Nat.pow_le_of_le_log ?_ hlog.le
  rintro rfl
  rw [Nat.log_zero_right] at hlog
  omega

/-- **Below `2 ^ 29`** all counts are precise. With up to five bits cut off from a count, what is
left is a multiple of four or more, and so is what is missing from a whole microsecond. -/
theorem precise_of_lt (h : c.toNat < 2 ^ 29) : Precise c := by
  have hcut : 2 * |cut c.toNat| ≤ (2 ^ cutBits c.toNat : ℕ) :=
    abs_evenRem_le c.toNat (Nat.two_pow_pos _)
  have hdvd := dvd_converted c.toNat
  have hconverted := converted_eq c.toNat
  have hle := timeUs_le h
  have hlt := converted_lt h
  have hnear : 0 < cutBits c.toNat →
      64 * converted c.toNat + 25 * 2 ^ cutBits c.toNat ≤ 6400 * ((timeUs c).toNat + 1) :=
    fun hpos => converted_le_of_cutBits (le_of_cutBits_pos hpos) h
  have hbits : cutBits c.toNat ≤ 5 := by
    have hlog : Nat.log 2 c.toNat < 29 := Nat.log_lt_of_lt_pow' (by decide) h
    rw [cutBits]
    omega
  rw [Precise, abs_le]
  generalize cutBits c.toNat = e at hcut hdvd hnear hbits
  have hcut' := abs_le.mp (show |cut c.toNat| ≤ 2 ^ e / 2 by push_cast at hcut; omega)
  interval_cases e <;> omega

end

/-! ### Precision -/

/-- **A timestamp is precise** exactly if its count is fine. -/
theorem precise_iff (c : UInt64) : Precise c ↔ Fine c := by
  rw [Fine]
  rcases lt_or_ge c.toNat (2 ^ 29) with hlt | hge
  · exact ⟨fun _ => Or.inl hlt, fun _ => precise_of_lt hlt⟩
  · have htime := timeUs_eq hge
    have hmissed : 100 * ((timeUs c).toNat : ℤ) - c.toNat = -missed c.toNat := by omega
    rw [Precise, hmissed, abs_neg, or_iff_right (not_lt.mpr hge)]

/-- The time between two timestamps. -/
theorem toNat_elapsed {rise fall : UInt64} (h : rise ≤ fall) :
    ((timeUs fall - timeUs rise).toNat : ℤ) = (timeUs fall).toNat - (timeUs rise).toNat := by
  have hmono := timeUs_mono h
  rw [UInt64.toNat_sub_of_le _ _ hmono, Nat.cast_sub (UInt64.le_iff_toNat_le.mp hmono)]

theorem PreciseElapsed.of_precise {rise fall : UInt64} (h : rise ≤ fall) (hrise : Precise rise)
    (hfall : Precise fall) : PreciseElapsed rise fall := by
  rw [Precise, abs_le] at hrise hfall
  rw [PreciseElapsed, toNat_elapsed h, abs_le]
  omega

/-- **Both edges above `2 ^ 29`**: what they miss has to be about the same. -/
theorem preciseElapsed_iff {rise fall : UInt64} (h : rise ≤ fall) (hrise : 2 ^ 29 ≤ rise.toNat) :
    PreciseElapsed rise fall ↔ |missed fall.toNat - missed rise.toNat| ≤ 200 := by
  have hriseTime := timeUs_eq hrise
  have hfallTime := timeUs_eq (hrise.trans (UInt64.le_iff_toNat_le.mp h))
  have hmissed : 100 * ((timeUs fall).toNat - (timeUs rise).toNat : ℤ) -
      (fall.toNat - rise.toNat) = -(missed fall.toNat - missed rise.toNat) := by omega
  rw [PreciseElapsed, toNat_elapsed h, hmissed, abs_neg]

/-- What is missing is what lies above a whole microsecond: that below the multiple of `spacing`
nearest to the count once it has been rounded to 24 bits. -/
theorem missed_eq (c : ℕ) :
    missed c = c - 100 * (nearestMultiple (converted c) (spacing c) / 100) := by
  have hconverted := converted_eq c
  rw [missed, rest, nearestMultiple]
  omega

/-- From `2 ^ 30` on, neighbouring quotients are whole microseconds apart. -/
theorem hundred_dvd_spacing {c : ℕ} (h : 2 ^ 30 ≤ c) : (100 : ℤ) ∣ spacing c := by
  have hlog : 30 ≤ Nat.log 2 c := Nat.le_log_of_pow_le Nat.one_lt_two h
  obtain ⟨e, he⟩ : ∃ e, cutBits c = e + 7 := ⟨cutBits c - 7, by rw [cutBits]; omega⟩
  rw [spacing, he, show e + 7 - 5 = e + 2 by omega, show e + 7 - 4 = e + 3 by omega]
  split_ifs
  · exact ⟨2 ^ e, by push_cast; ring⟩
  · exact ⟨2 * 2 ^ e, by push_cast; ring⟩

/-- **From `2 ^ 30` on, timestamps are multiples** of the distance of two neighbouring quotients. -/
theorem spacing_dvd_timeUs {c : UInt64} (h : 2 ^ 30 ≤ c.toNat) :
    (spacing c.toNat : ℤ) ∣ 100 * (timeUs c).toNat := by
  have hdvd := dvd_sub_evenRem (converted c.toNat) (spacing c.toNat)
  rw [timeUs_eq (le_trans (by decide) h), missed_eq, sub_sub_cancel, nearestMultiple,
    Int.mul_ediv_cancel' ((hundred_dvd_spacing h).trans hdvd)]
  exact hdvd

/-! ### Which counts are fine -/

/-- The first counts above `2 ^ 29`. -/
theorem abs_missed_early : ((List.range 989).all fun k => |missed (2 ^ 29 + k)| ≤ 100) = true := by
  decide +kernel

/-- **Up to 5.3687 seconds** after power-on all counts are. -/
theorem fine_of_le {c : UInt64} (h : c.toNat ≤ 536871900) : Fine c := by
  rcases lt_or_ge c.toNat (2 ^ 29) with hlt | hge
  · exact Or.inl hlt
  · have hmem : c.toNat - 2 ^ 29 ∈ List.range 989 := List.mem_range.mpr (by omega)
    have hfew := of_decide_eq_true (List.all_eq_true.mp abs_missed_early _ hmem)
    rw [Nat.add_sub_cancel' hge] at hfew
    exact Or.inr hfew

/-- The count after that is not. -/
theorem not_fine_first : ¬ Fine 536871901 := by decide +kernel

/-- **From `2 ^ 29` on** those are that lie within a microsecond of what is left of them: the
multiple of `spacing` nearest to the count once it has been rounded to 24 bits, without what it has
above a whole microsecond. -/
theorem fine_iff_of_le {c : UInt64} (h : 2 ^ 29 ≤ c.toNat) : Fine c ↔
    |(c.toNat : ℤ) - 100 * (nearestMultiple (converted c.toNat) (spacing c.toNat) / 100)| ≤
      100 := by
  rw [Fine, or_iff_right (not_lt.mpr h), missed_eq]

-- a day after power-on
example : spacing 8640000000000 = 100 * 8192 := by decide +kernel

/-- What is returned is made of a count the timer had. -/
theorem stm0GetTimeUs_mem {rounds : List (UInt64 × UInt64 × UInt64)} (h : Forward rounds)
    {us : UInt64} (hus : stm0GetTimeUs (rounds.map Reads.at) = some us) :
    ∃ t ∈ rounds, us = timeUs t.2.1 := by
  obtain ⟨c, hc, rfl⟩ := Option.map_eq_some_iff.mp hus
  obtain ⟨t, ht, rfl⟩ := stm0GetTime10ns_mem h hc
  exact ⟨t, ht, rfl⟩

/-- **Precision of timestamps**: they are made of counts the timer had, and they are in order. Two
of them and the time between them are precise exactly if both counts are fine; and above `2 ^ 29`
the time between them is exactly if they miss about the same. All counts up to 536871900 are fine,
the next one is not, and from `2 ^ 29` on those are that the two roundings and the cut to a whole
microsecond move by no more than a microsecond. -/
theorem timeUs_precise (rise fall : UInt64) :
    (∀ rounds us, Forward rounds → stm0GetTimeUs (rounds.map Reads.at) = some us →
      ∃ t ∈ rounds, us = timeUs t.2.1) ∧
    (rise ≤ fall → timeUs rise ≤ timeUs fall) ∧
    (Measured rise fall ↔ Fine rise ∧ Fine fall) ∧
    (rise ≤ fall → 2 ^ 29 ≤ rise.toNat →
      (PreciseElapsed rise fall ↔ |missed fall.toNat - missed rise.toNat| ≤ 200)) ∧
    (∀ c : UInt64, c.toNat ≤ 536871900 → Fine c) ∧ ¬ Fine 536871901 ∧
    (∀ c : UInt64, 2 ^ 29 ≤ c.toNat → (Fine c ↔
      |(c.toNat : ℤ) - 100 * (nearestMultiple (converted c.toNat) (spacing c.toNat) / 100)| ≤
        100)) := by
  refine ⟨fun _ _ h hus => stm0GetTimeUs_mem h hus, timeUs_mono, ?_, preciseElapsed_iff,
    fun _ => fine_of_le, not_fine_first, fun _ => fine_iff_of_le⟩
  constructor
  · rintro ⟨hrise, hfall, -⟩
    exact ⟨(precise_iff rise).mp hrise, (precise_iff fall).mp hfall⟩
  · rintro ⟨hrise, hfall⟩
    rw [← precise_iff] at hrise hfall
    exact ⟨hrise, hfall, fun h => .of_precise h hrise hfall⟩

/-- **Timestamps are too coarse**: 5.4 seconds after power-on one is a microsecond and a count off,
and a day after power-on both edges of an echo of a millisecond have the same timestamp, so the
distance is zero and not 171 millimetres. -/
theorem echo_lost :
    ¬ Precise 536871901 ∧
    ¬ PreciseElapsed 8640000000000 8640000100000 ∧
    calculateDistance (timeUs 8640000100000) (timeUs 8640000000000) = 0 ∧
    calculateDistance (8640000100000 / 100) (8640000000000 / 100) = 171 := by
  decide +kernel

end Timer

end Ecu

end VehicleStack
