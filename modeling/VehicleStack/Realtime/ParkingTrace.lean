import VehicleStack.Realtime.Parking
import VehicleStack.Realtime.Manoeuvre
import Mathlib.Data.List.ReduceOption
import Mathlib.Tactic.Linarith
import Mathlib.Tactic.NormNum
import Mathlib.Tactic.Ring

/-!
# The parking controller drives one manoeuvre

`AutoParkingController` refines the manoeuvre of
`VehicleStack.Realtime.Stage`: on the ticks whose sensors are usable it makes the
moves of one run of it, and the other ticks command neutral and count for
nothing.

What the search phase has seen is put in terms of the sensor history alone. At a
ready tick the wall has given way (`VehicleStack.Realtime.BesideSpace`) when the
left distance exceeds some earlier one by more than the wall threshold, which
is what comparing with the running minimum comes to; a tick closes a space
(`VehicleStack.Realtime.ClosesSpace`) when it is the first one beside the wall
again after a stretch of such ticks that measures long enough. The invariant of
the search (`VehicleStack.Realtime.Searching`) ties the controller's reference
distance, wall state and start time to that history, and the first closing tick
is where the search ends.
-/

namespace VehicleStack

namespace Realtime

open List

/-! ### What the sensors have seen -/

/-- The left distance at the `k`-th tick of a history. -/
def leftAt (h : List Tick) (k : ℕ) : ℤ := (h[k]?.map fun t => t.sensor.leftUltraMm).getD 0

/-- The time of the `k`-th tick of a history. -/
def nowAt (h : List Tick) (k : ℕ) : ℕ := (h[k]?.map Tick.nowUs).getD 0

/-- At the `k`-th tick the wall has given way: some earlier left distance is
smaller by more than the wall threshold. -/
def BesideSpace (h : List Tick) (k : ℕ) : Prop :=
  ∃ j < k, leftAt h j + cfg.wallThresholdMm < leftAt h k

/-- **The `k`-th tick closes a space**: it is beside the wall, the ticks after
some `p` up to it were all beside the space, `p` itself was not, and the time
from tick `p + 1` to tick `k` measures at least the smallest space. -/
def ClosesSpace (fl : ℚ → ℚ) (h : List Tick) (k : ℕ) : Prop :=
  ¬BesideSpace h k ∧ ∃ p, p + 1 < k ∧ ¬BesideSpace h p ∧
    (∀ j, p < j → j < k → BesideSpace h j) ∧
    cfg.minSpaceSizeCm ≤
      AutoParkingController.calculateSpaceSize fl (nowAt h (p + 1)) (nowAt h k)

variable {fl : ℚ → ℚ} {h : List Tick} {t : Tick} {k : ℕ}

theorem leftAt_append (hk : k < h.length) : leftAt (h ++ [t]) k = leftAt h k := by
  rw [leftAt, leftAt, getElem?_append_left hk]

theorem nowAt_append (hk : k < h.length) : nowAt (h ++ [t]) k = nowAt h k := by
  rw [nowAt, nowAt, getElem?_append_left hk]

/-- What a tick saw does not depend on the later ones. -/
theorem besideSpace_append (hk : k < h.length) :
    BesideSpace (h ++ [t]) k ↔ BesideSpace h k := by
  constructor
  · rintro ⟨j, hj, hlt⟩
    rw [leftAt_append hk, leftAt_append (hj.trans hk)] at hlt
    exact ⟨j, hj, hlt⟩
  · rintro ⟨j, hj, hlt⟩
    rw [← leftAt_append (t := t) hk, ← leftAt_append (t := t) (hj.trans hk)] at hlt
    exact ⟨j, hj, hlt⟩

theorem closesSpace_append (hk : k < h.length) :
    ClosesSpace fl (h ++ [t]) k ↔ ClosesSpace fl h k := by
  unfold ClosesSpace
  rw [besideSpace_append hk, nowAt_append hk]
  refine and_congr_right fun _ => exists_congr fun p => ?_
  constructor
  · rintro ⟨hp, hwall, hspace, hlong⟩
    rw [nowAt_append (hp.trans hk)] at hlong
    exact ⟨hp, fun hb => hwall ((besideSpace_append (by omega)).mpr hb),
      fun j hpj hjk => (besideSpace_append (hjk.trans hk)).mp (hspace j hpj hjk), hlong⟩
  · rintro ⟨hp, hwall, hspace, hlong⟩
    rw [← nowAt_append (t := t) (hp.trans hk)] at hlong
    exact ⟨hp, fun hb => hwall ((besideSpace_append (by omega)).mp hb),
      fun j hpj hjk => (besideSpace_append (hjk.trans hk)).mpr (hspace j hpj hjk), hlong⟩

/-- `ref` is the least left distance of a history. -/
def IsReference (h : List Tick) (ref : ℤ) : Prop :=
  (∃ j < h.length, leftAt h j = ref) ∧ ∀ j < h.length, ref ≤ leftAt h j

/-- The controller's reference distance belongs to the history `h`. -/
def TracksWall (h : List Tick) (c : AutoParkingController) : Prop :=
  if h = [] then c.wallReferenceInitialized = false
  else c.wallReferenceInitialized = true ∧ IsReference h c.wallReferenceDistanceMm

/-- The last tick belongs to a stretch beside a space, whose first tick was at the
time `startUs`. -/
def OpenStretch (h : List Tick) (startUs : ℕ) : Prop :=
  ∃ p, p + 1 < h.length ∧ ¬BesideSpace h p ∧
    (∀ j, p < j → j < h.length → BesideSpace h j) ∧ startUs = nowAt h (p + 1)

/-- A stretch that goes on. -/
theorem OpenStretch.append {startUs : ℕ} (ho : OpenStretch h startUs)
    (hspace : BesideSpace (h ++ [t]) h.length) : OpenStretch (h ++ [t]) startUs := by
  obtain ⟨p, hp, hwall, hstretch, hstart⟩ := ho
  have hlen : (h ++ [t]).length = h.length + 1 := by rw [length_append, length_singleton]
  refine ⟨p, by omega, ?_, fun j hj hjl => ?_, ?_⟩
  · rwa [besideSpace_append (by omega)]
  · rcases Nat.lt_or_ge j h.length with hlt | hge
    · exact (besideSpace_append hlt).mpr (hstretch j hj hlt)
    · rwa [show j = h.length by omega]
  · rw [nowAt_append hp]
    exact hstart

/-- **The invariant of the search**, with the history of the ready ticks so far:
nothing has closed a long enough space yet, and the wall state and the start
time describe the stretch the last tick belongs to. -/
structure Searching (fl : ℚ → ℚ) (h : List Tick) (c : AutoParkingController) : Prop where
  active : c.active = true
  notDone : c.done = false
  phase : c.phase = .spaceDetection
  tracks : TracksWall h c
  state_iff : c.state = .spaceDetected ↔ BesideSpace h (h.length - 1)
  opened : c.state = .spaceDetected → OpenStretch h c.spaceStartTimeUs
  small : c.measuredSpaceSizeCm < cfg.minSpaceSizeCm
  notClosed : ∀ k < h.length, ¬ClosesSpace fl h k

/-- The first closing tick of a history is its `a`-th. -/
def FirstClose (fl : ℚ → ℚ) (h : List Tick) (a : ℕ) : Prop :=
  a < h.length ∧ ClosesSpace fl h a ∧ ∀ j < a, ¬ClosesSpace fl h j

/-- The search goes on after a tick that closes nothing, if the wall state and the
start time are those of the stretch the tick belongs to. -/
theorem Searching.append {c : AutoParkingController} (hc : Searching fl h c) {ref : ℤ}
    {s : WallSpaceState} {start stop : ℕ} {size : ℚ} (href : IsReference (h ++ [t]) ref)
    (hs : s = .spaceDetected ↔ BesideSpace (h ++ [t]) h.length)
    (hopened : s = .spaceDetected → OpenStretch (h ++ [t]) start)
    (hsmall : size < cfg.minSpaceSizeCm) (hopen : ¬ClosesSpace fl (h ++ [t]) h.length) :
    Searching fl (h ++ [t]) { c with
      wallReferenceDistanceMm := ref
      wallReferenceInitialized := true
      state := s
      spaceStartTimeUs := start
      spaceEndTimeUs := stop
      measuredSpaceSizeCm := size } where
  active := hc.active
  notDone := hc.notDone
  phase := hc.phase
  tracks := by
    rw [TracksWall, if_neg (by simp)]
    exact ⟨rfl, href⟩
  state_iff := by
    rw [length_append, length_singleton, Nat.add_sub_cancel]
    exact hs
  opened := hopened
  small := hsmall
  notClosed k hk := by
    rcases Nat.lt_or_ge k h.length with hlt | hge
    · rw [closesSpace_append hlt]
      exact hc.notClosed k hlt
    · rw [length_append, length_singleton] at hk
      rwa [show k = h.length by omega]

/-- The joystick command a move stands for. -/
def Move.command : Move → ℤ × ℤ
  | .forward => (50, 70)
  | .back => (50, 35)
  | .stop => (50, 50)
  | .turn => (64, 45)

/-- **The refinement relation**: what a stage of the manoeuvre says about the
controller and the history of its ready ticks. -/
def Follows (fl : ℚ → ℚ) (h : List Tick) (c : AutoParkingController) : Stage → Prop
  | .search a => Searching fl h c ∧ a = h.length
  | .align a b => FirstClose fl h a ∧ c.active = true ∧ c.done = false ∧
      c.phase = .parkingExecution ∧ c.executionState = 1 ∧ c.rotateCounter = 0 ∧
      (b = 0 → c.wallReferenceInitialized = false)
  | .turning a _ r => FirstClose fl h a ∧ c.active = true ∧ c.done = false ∧
      c.phase = .parkingExecution ∧ c.executionState = 2 ∧ c.rotateCounter = r
  | .backing a _ _ => FirstClose fl h a ∧ c.active = true ∧ c.done = false ∧
      c.phase = .parkingExecution ∧ c.executionState = 2 ∧ c.rotateCounter = 30
  | .parkedEarly a _ _ => FirstClose fl h a ∧ c.active = true ∧ c.done = true ∧
      c.phase = .completed
  | .parkedLate a _ _ _ => FirstClose fl h a ∧ c.active = true ∧ c.done = true ∧
      c.phase = .completed

theorem Follows.active {c : AutoParkingController} {st : Stage} (hf : Follows fl h c st) :
    c.active = true := by
  cases st with
  | search a => exact hf.1.active
  | align a b => exact hf.2.1
  | turning a b r => exact hf.2.1
  | backing a b n => exact hf.2.1
  | parkedEarly a b n => exact hf.2.1
  | parkedLate a b n m => exact hf.2.1

/-- `done_` says that the stage is parked. -/
theorem Follows.done {c : AutoParkingController} {st : Stage} (hf : Follows fl h c st) :
    c.done = st.parked := by
  cases st with
  | search a => exact hf.1.notDone
  | align a b => exact hf.2.2.1
  | turning a b r => exact hf.2.2.1
  | backing a b n => exact hf.2.2.1
  | parkedEarly a b n => exact hf.2.2.1
  | parkedLate a b n m => exact hf.2.2.1

namespace AutoParkingController

end AutoParkingController

end Realtime

end VehicleStack
