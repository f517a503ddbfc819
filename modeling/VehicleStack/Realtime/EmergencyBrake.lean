import Mathlib.Algebra.Group.Int.Defs
import Mathlib.Tactic.Linarith
import Mathlib.Tactic.NormNum
import VehicleStack.Lib.Mealy
import VehicleStack.Realtime.ControlLoop

/-!
# Emergency braking and its reference

`reference_1stpj/AEB.c` is what `AebController` was ported from. Both brake at once at a short
distance, and otherwise compare the distance with what the car needs to stop at its speed, a
quadratic with a negative constant.

The reference keeps that in an `unsigned int` and compares in `unsigned int`, so where the quadratic
is negative it wraps. The port sets it to zero there, and takes a negative distance for no reading.
`VehicleStack.Realtime.update_eq_reference_iff` says where that makes a difference: below zero, and
at speed 1, at which the reference brakes at any distance whatever. What the port does is monotone:
`VehicleStack.Realtime.update_mono`.
-/

namespace VehicleStack

namespace Realtime

namespace AebReference

open AebController

/-- The value of an `int` in `unsigned int`. -/
def unsigned (n : ℤ) : ℤ := n % 2 ^ 32

/-- `AEB_IsEmergencyBrakingRequired`, of the distance in millimetres and the two speeds. The
speeds are at most a hundred either way, so that nothing but the comparison can overflow. -/
def isEmergencyBrakingRequired (distanceMm motorASpeed motorBSpeed : ℤ) : Bool :=
  if distanceMm ≤ emergencyThresholdMm + toleranceMm then true
  else
    let vehicleSpeed := (motorASpeed + motorBSpeed).tdiv 2
    if vehicleSpeed ≤ 0 then false
    else
      let speedSquared := vehicleSpeed * vehicleSpeed
      let numerator := coeffA * speedSquared + coeffB * vehicleSpeed + coeffC
      let brakingDistanceMm := unsigned (numerator.tdiv speedDivider)
      decide (unsigned distanceMm ≤ unsigned (brakingDistanceMm + emergencyThresholdMm))

/-- `AEB_UpdateState`, with what `AEB_GetState` answers after it. -/
def updateState (_ : AebState) (distanceMm motorASpeed motorBSpeed : ℤ) : AebState × Bool :=
  if isEmergencyBrakingRequired distanceMm motorASpeed motorBSpeed then (.emergency, true)
  else (.normal, false)

end AebReference

open AebController AebReference

/-! ### The braking distance -/

/-- The quadratic, in thousandths of a millimetre. -/
def numerator (v : ℤ) : ℤ := coeffA * (v * v) + coeffB * v + coeffC

theorem numerator_eq (v : ℤ) : numerator v = -27 * (v * v) + 6496 * v + -112642 := rfl

/-- Up to a speed of 120 the quadratic grows. -/
theorem numerator_mono {v w : ℤ} (h : v ≤ w) (hw : w ≤ 120) : numerator v ≤ numerator w := by
  rw [numerator_eq, numerator_eq]
  have hfactor : 0 ≤ (w - v) * (6496 - 27 * (v + w)) :=
    mul_nonneg (by omega) (by omega)
  linarith

/-- The quadratic over the speeds of the car. -/
theorem numerator_bounds {v : ℤ} (h1 : 1 ≤ v) (h100 : v ≤ 100) :
    -106173 ≤ numerator v ∧ numerator v ≤ 266958 ∧ (v ≠ 1 → -99758 ≤ numerator v) := by
  refine ⟨numerator_mono h1 (by omega), numerator_mono h100 (by omega), fun hne => ?_⟩
  exact numerator_mono (show 2 ≤ v by omega) (by omega)

/-- A quotient by a thousand, below zero. -/
theorem tdiv_thousand_of_neg {n : ℤ} (h : n < 0) : n.tdiv 1000 = -((-n) / 1000) := by
  rw [← neg_neg n, Int.neg_tdiv, neg_neg, Int.tdiv_eq_ediv_of_nonneg (by omega)]

/-- The port's braking distance. -/
theorem brakingDistance_eq {v : ℤ} (h1 : 1 ≤ v) (h100 : v ≤ 100) :
    brakingDistance v = if numerator v < 0 then 0 else numerator v / 1000 := by
  obtain ⟨-, hhigh, -⟩ := numerator_bounds h1 h100
  have hpow : (2 : ℤ) ^ 32 = 4294967296 := by norm_num
  show ((if numerator v < 0 then 0 else numerator v).tdiv 1000).bmod (2 ^ 32) = _
  split
  · rfl
  · rw [Int.tdiv_eq_ediv_of_nonneg (by omega)]
    exact Int.bmod_eq_of_le (by omega) (by omega)

/-- **Where the reference wraps**: at speed 1 only, where what it compares with is all but the
largest `unsigned int`. -/
theorem unsigned_braking {v : ℤ} (h1 : 1 ≤ v) (h100 : v ≤ 100) :
    unsigned (unsigned ((numerator v).tdiv speedDivider) + emergencyThresholdMm) =
      if v = 1 then 4294967290
      else if numerator v < 0 then 100 - (-numerator v) / 1000
      else numerator v / 1000 + 100 := by
  obtain ⟨-, hhigh, hlow⟩ := numerator_bounds h1 h100
  have hpow : (2 : ℤ) ^ 32 = 4294967296 := by norm_num
  have hhundred : emergencyThresholdMm = 100 := rfl
  have hthousand : speedDivider = 1000 := rfl
  rw [hhundred, hthousand, unsigned, unsigned, hpow]
  by_cases hone : v = 1
  · subst hone
    rfl
  rw [if_neg hone]
  have hlow := hlow hone
  by_cases hneg : numerator v < 0
  · rw [if_pos hneg, tdiv_thousand_of_neg hneg]
    omega
  · rw [if_neg hneg, Int.tdiv_eq_ediv_of_nonneg (by omega)]
    omega

/-! ### When they brake -/

/-- **When the port brakes**: at a short distance, and moving forward at one that is no more than
it needs to stop a tenth of a metre before the obstacle. -/
theorem update_snd_iff (c : AebController) (d : ℤ) {v : ℤ} (h100 : v ≤ 100) :
    (c.update d v).2 = true ↔ 0 ≤ d ∧ (d ≤ 105 ∨ 1 ≤ v ∧ d ≤ numerator v / 1000 + 100) := by
  have hsum : emergencyThresholdMm + toleranceMm = 105 := rfl
  have hhundred : emergencyThresholdMm = 100 := rfl
  rw [update, hsum]
  by_cases hneg : d < 0
  · rw [if_pos hneg]
    exact iff_of_false Bool.false_ne_true fun h => absurd h.1 (by omega)
  rw [if_neg hneg]
  by_cases hnear : d ≤ 105
  · rw [if_pos hnear]
    exact iff_of_true rfl ⟨by omega, Or.inl hnear⟩
  rw [if_neg hnear]
  by_cases hstand : v ≤ 0
  · rw [if_pos hstand]
    exact iff_of_false Bool.false_ne_true fun h => absurd h.2 (by omega)
  · rw [if_neg hstand, brakingDistance_eq (by omega) h100, hhundred]
    by_cases hfar : d ≤ (if numerator v < 0 then 0 else numerator v / 1000) + 100
    · simp only [if_pos hfar, decide_true, true_iff]
      split at hfar <;> omega
    · simp only [if_neg hfar, reduceCtorEq, decide_false, Bool.false_eq_true, false_iff]
      split at hfar <;> omega

/-- **When the reference brakes.** -/
theorem isEmergencyBrakingRequired_iff {d a b : ℤ} (hd : d < 2 ^ 31)
    (h100 : (a + b).tdiv 2 ≤ 100) :
    isEmergencyBrakingRequired d a b = true ↔
      d ≤ 105 ∨ 1 ≤ (a + b).tdiv 2 ∧
        ((a + b).tdiv 2 = 1 ∨ d ≤ numerator ((a + b).tdiv 2) / 1000 + 100) := by
  obtain ⟨v, hv⟩ : ∃ v, v = (a + b).tdiv 2 := ⟨_, rfl⟩
  have hsum : emergencyThresholdMm + toleranceMm = 105 := rfl
  have hpow : (2 : ℤ) ^ 32 = 4294967296 := by norm_num
  have hpow' : (2 : ℤ) ^ 31 = 2147483648 := by norm_num
  rw [isEmergencyBrakingRequired, hsum]
  simp only [← hv]
  rw [← hv] at h100
  by_cases hnear : d ≤ 105
  · rw [if_pos hnear]
    exact iff_of_true rfl (Or.inl hnear)
  rw [if_neg hnear]
  by_cases hstand : v ≤ 0
  · rw [if_pos hstand]
    exact iff_of_false Bool.false_ne_true fun h => by omega
  have hcompare := unsigned_braking (show 1 ≤ v by omega) h100
  have hsame : unsigned d = d := by
    rw [unsigned, hpow]
    exact Int.emod_eq_of_lt (by omega) (by omega)
  obtain ⟨-, -, hlow⟩ := numerator_bounds (show 1 ≤ v by omega) h100
  rw [if_neg hstand, decide_eq_true_iff, hsame]
  show d ≤ unsigned (unsigned ((numerator v).tdiv speedDivider) + emergencyThresholdMm) ↔ _
  rw [hcompare]
  by_cases hone : v = 1
  · rw [if_pos hone]
    exact iff_of_true (by omega) (Or.inr ⟨by omega, Or.inl hone⟩)
  have hlow := hlow hone
  rw [if_neg hone]
  split <;> omega

/-! ### The two of them -/

/-- What both are asked: the distance and the speeds of the two wheels. -/
structure AebReading where
  distanceMm : ℤ
  motorASpeed : ℤ
  motorBSpeed : ℤ

namespace AebReading

/-- The speed of the car. -/
def vehicleSpeed (i : AebReading) : ℤ := (i.motorASpeed + i.motorBSpeed).tdiv 2

/-- A distance is an `int`, and a speed is at most a hundred. -/
structure InRange (i : AebReading) : Prop where
  distance : i.distanceMm < 2 ^ 31
  speed : i.vehicleSpeed ≤ 100

end AebReading

/-- A call of the port, and a call of the reference. -/
def portStep (c : AebController) (i : AebReading) : AebController × Bool :=
  c.update i.distanceMm i.vehicleSpeed

def referenceStep (s : AebState) (i : AebReading) : AebState × Bool :=
  updateState s i.distanceMm i.motorASpeed i.motorBSpeed

/-- One reading on both sides. -/
theorem portStep_eq_iff (c : AebController) (s : AebState) {i : AebReading} (h : i.InRange) :
    (portStep c i).2 = (referenceStep s i).2 ↔
      0 ≤ i.distanceMm ∧ (i.vehicleSpeed = 1 → i.distanceMm ≤ 105) := by
  have hport : (portStep c i).2 = true ↔ _ := update_snd_iff c i.distanceMm h.speed
  have hreference : isEmergencyBrakingRequired i.distanceMm i.motorASpeed i.motorBSpeed = true ↔
      i.distanceMm ≤ 105 ∨ 1 ≤ i.vehicleSpeed ∧
        (i.vehicleSpeed = 1 ∨ i.distanceMm ≤ numerator i.vehicleSpeed / 1000 + 100) :=
    isEmergencyBrakingRequired_iff h.distance h.speed
  have hanswer : (referenceStep s i).2 =
      isEmergencyBrakingRequired i.distanceMm i.motorASpeed i.motorBSpeed := by
    rw [referenceStep, updateState]
    cases isEmergencyBrakingRequired i.distanceMm i.motorASpeed i.motorBSpeed <;> rfl
  have hone : numerator 1 / 1000 + 100 = -7 := rfl
  rw [hanswer, Bool.eq_iff_iff, hport, hreference]
  obtain ⟨v, hv⟩ : ∃ v, v = i.vehicleSpeed := ⟨_, rfl⟩
  rw [← hv]
  by_cases hv1 : v = 1
  · subst hv1
    rw [hone]
    omega
  · constructor
    · intro hiff
      refine ⟨?_, fun h => absurd h hv1⟩
      by_contra hneg
      have hnear : i.distanceMm ≤ 105 := by omega
      exact hneg (hiff.mpr (Or.inl hnear)).1
    · rintro ⟨h0, -⟩
      constructor
      · rintro ⟨-, hnear | ⟨hforward, hfar⟩⟩
        · exact Or.inl hnear
        · exact Or.inr ⟨hforward, Or.inr hfar⟩
      · rintro (hnear | ⟨hforward, hone | hfar⟩)
        · exact ⟨h0, Or.inl hnear⟩
        · exact absurd hone hv1
        · exact ⟨h0, Or.inr ⟨hforward, hfar⟩⟩

/-- **The port and the reference brake at the same times**, in a run over any readings, exactly if
no distance is negative and none is far while the speed is 1. -/
theorem update_eq_reference_iff (c : AebController) (s : AebState) {readings : List AebReading}
    (h : ∀ i ∈ readings, i.InRange) :
    Mealy.outputs portStep c readings = Mealy.outputs referenceStep s readings ↔
      ∀ i ∈ readings, 0 ≤ i.distanceMm ∧ (i.vehicleSpeed = 1 → i.distanceMm ≤ 105) := by
  induction readings generalizing c s with
  | nil => exact iff_of_true rfl fun i hi => absurd hi List.not_mem_nil
  | cons i readings ih =>
    rw [Mealy.outputs_cons, Mealy.outputs_cons, List.cons.injEq, List.forall_mem_cons,
      portStep_eq_iff c s (h i List.mem_cons_self),
      ih _ _ fun j hj => h j (List.mem_cons_of_mem i hj)]

/-- Standing at a wall, and rolling towards one. -/
theorem update_eq_reference_wall :
    Mealy.outputs portStep {} [⟨105, 0, 0⟩, ⟨300, 60, 80⟩] =
        Mealy.outputs referenceStep .normal [⟨105, 0, 0⟩, ⟨300, 60, 80⟩] ↔
      ∀ i ∈ ([⟨105, 0, 0⟩, ⟨300, 60, 80⟩] : List AebReading),
        0 ≤ i.distanceMm ∧ (i.vehicleSpeed = 1 → i.distanceMm ≤ 105) :=
  update_eq_reference_iff {} .normal (List.forall_mem_cons.mpr ⟨⟨by decide, by decide⟩,
    List.forall_mem_cons.mpr ⟨⟨by decide, by decide⟩, fun _ hi => absurd hi List.not_mem_nil⟩⟩)

/-- **The nearer and the faster, the sooner it brakes**: if the port brakes, it also brakes at any
shorter distance and any higher speed. -/
theorem update_mono (c c' : AebController) {d d' v v' : ℤ} (h0 : 0 ≤ d') (hd : d' ≤ d)
    (hv : v ≤ v') (h100 : v' ≤ 100) (h : (c.update d v).2 = true) : (c'.update d' v').2 = true := by
  rw [update_snd_iff c d (hv.trans h100)] at h
  rw [update_snd_iff c' d' h100]
  obtain ⟨-, hnear | ⟨hforward, hfar⟩⟩ := h
  · exact ⟨h0, Or.inl (hd.trans hnear)⟩
  · have hmono : numerator v / 1000 ≤ numerator v' / 1000 :=
      Int.ediv_le_ediv (by decide) (numerator_mono hv (by omega))
    exact ⟨h0, Or.inr ⟨by omega, by omega⟩⟩

end Realtime

end VehicleStack
