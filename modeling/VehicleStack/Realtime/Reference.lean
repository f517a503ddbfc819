import VehicleStack.Realtime.Parking

/-!
# The parking controller and its reference

`reference_1stpj/APS.c` is the controller of the earlier vehicle that
`AutoParkingController` was ported from. It keeps its state in file-level
variables, reads the sensors of the electronic control unit and is called once
per cycle.

The port reorganised that state: its sub-state of the turn is a member, it resets
the wall state when it leaves the search, it refuses negative readings, and it
has a flag for completion of its own. `VehicleStack.Realtime.Simulates` relates
the two states, each usable tick keeps it, and
`VehicleStack.Realtime.commands_eq_reference` is the result: the two emit the same
commands.
-/

namespace VehicleStack

namespace Realtime

/-! ### The reference -/

/-- `ToFData_t`, the fields `Update_APS_Result` reads. -/
structure ToFData where
  distanceM : ℚ
  receivedTimeUs : ℕ

/-- `UltrasonicData_t`, the fields `Update_APS_Result` reads. -/
structure UltrasonicData where
  distanceMm : ℤ
  receivedTimeUs : ℕ

/-- The arguments of one call of `Update_APS_Result`, the time `getTimeUs` answers
during it, and the answer of `Emer_Light_APS_DONE`. The ultrasonic sensors are
left, right and rear. -/
structure ReferenceTick where
  curTime : ℕ
  tofLatestData : ToFData
  ultLatestData : Fin 3 → UltrasonicData
  intervalUs : ℕ
  emerLightApsDone : Bool

/-- The file-level variables of `APS.c`. The header's enumerations are the port's. -/
structure Aps where
  senseTime : Fin 4 → ℕ := fun _ => 0
  senseDist : Fin 4 → ℤ := fun _ => 0
  apsState : ℤ := 0
  resultX : ℤ := 0
  resultY : ℤ := 0
  isApsDone : ℤ := 0
  currentPhase : ParkingPhase := .spaceDetection
  currentState : WallSpaceState := .wallDetected
  wallReferenceDistance : ℤ := 0
  wallReferenceInitialized : Bool := false
  spaceStartTime : ℕ := 0
  spaceEndTime : ℕ := 0
  measuredSpaceSize : ℚ := 0
  rotateCounter : ℕ := 0
  phaseParkingExecutionState : ℤ := 1

namespace Aps

/-- `APS_WALL_THRESHOLD_CM`. -/
def wallThresholdCm : ℤ := 100

/-- `MIN_PARKING_SPACE_CM`. -/
def minParkingSpaceCm : ℚ := 150

/-- `APS_REAR_SAFETY_DISTANCE_CM`. -/
def rearSafetyDistanceCm : ℤ := 100

/-- `APS_VEHICLE_SPEED_CM_PER_MS`. -/
def vehicleSpeedCmPerMs : ℚ := 1 / 2

/-- `ROTATE_LIMIT`. -/
def rotateLimit : ℕ := 30

/-- `APS_Init`. The sub-state of the parking phase is not among what it resets. -/
def init (a : Aps) : Aps where
  senseDist := fun _ => 0
  senseTime := fun _ => 0
  apsState := 0
  resultX := 50
  resultY := 50
  isApsDone := 0
  currentPhase := .spaceDetection
  currentState := .wallDetected
  wallReferenceDistance := 0
  wallReferenceInitialized := false
  spaceStartTime := 0
  spaceEndTime := 0
  measuredSpaceSize := 0
  rotateCounter := 0
  phaseParkingExecutionState := a.phaseParkingExecutionState

/-- `Set_APS_State`. -/
def setApsState (a : Aps) (state : ℤ) : Aps :=
  if state < 0 ∨ 1 < state then a
  else
    let a := { a with apsState := state }
    if a.apsState = 0 then a.init else a

/-- `APS_Restart`. -/
def restart (a : Aps) : Aps := a.init.setApsState 1

/-- `APS_AnalyzeSpace`. -/
def analyzeSpace (a : Aps) (distance : ℤ) : Aps × WallSpaceState :=
  if ¬a.wallReferenceInitialized then
    ({ a with wallReferenceDistance := distance, wallReferenceInitialized := true },
      .wallDetected)
  else
    let a := if distance < a.wallReferenceDistance then
      { a with wallReferenceDistance := distance } else a
    if a.wallReferenceDistance + wallThresholdCm < distance then (a, .spaceDetected)
    else (a, .wallDetected)

variable (fl : ℚ → ℚ)

/-- `APS_CalculateSpaceSize`. -/
def calculateSpaceSize (startTime endTime : ℕ) : ℚ :=
  if endTime < startTime then 0
  else
    let timeDiffMs := fl (fl ((endTime - startTime : ℕ) : ℚ) / 1000)
    fl (timeDiffMs * vehicleSpeedCmPerMs)

/-- `APS_ProcessStateTransition`. -/
def processStateTransition (a : Aps) (newState : WallSpaceState) (curTime : ℕ) : Aps :=
  if a.currentState ≠ newState then
    match a.currentState with
    | .wallDetected => { a with spaceStartTime := curTime, currentState := .spaceDetected }
    | .spaceDetected =>
      { a with
        spaceEndTime := curTime
        measuredSpaceSize := calculateSpaceSize fl a.spaceStartTime curTime
        currentState := .wallDetected }
  else a

/-- `APS_DetectParkingSpace`. -/
def detectParkingSpace (a : Aps) (curTime : ℕ) : Aps × Bool :=
  let leftDistance := a.senseDist 1
  let (a, analyzedState) := a.analyzeSpace leftDistance
  let a := processStateTransition fl a analyzedState curTime
  if minParkingSpaceCm ≤ a.measuredSpaceSize then (a, true) else (a, false)

/-- `Calc_APS_Result`. Its calls of the indicator lights return nothing, except
`Emer_Light_APS_DONE`, whose answer is `done`. -/
def calcApsResult (a : Aps) (curTime : ℕ) (done : Bool) : Aps :=
  let leftDistance := a.senseDist 1
  let rearDistance := a.senseDist 3
  match a.currentPhase with
  | .spaceDetection =>
    let a := { a with resultX := 50, resultY := 70 }
    let (a, found) := detectParkingSpace fl a curTime
    if found then
      { a with
        currentPhase := .parkingExecution
        rotateCounter := 0
        phaseParkingExecutionState := 1
        wallReferenceInitialized := false }
    else a
  | .parkingExecution =>
    if a.phaseParkingExecutionState = 1 then
      let (a, s) := a.analyzeSpace leftDistance
      let a := { a with currentState := s }
      if a.currentState = .spaceDetected then
        { a with resultX := 50, resultY := 50, phaseParkingExecutionState := 2 }
      else { a with resultX := 50, resultY := 35 }
    else
      let a := if a.rotateCounter < rotateLimit then
        { a with resultX := 64, resultY := 45, rotateCounter := a.rotateCounter + 1 }
      else { a with resultX := 50, resultY := 35 }
      if rotateLimit ≤ a.rotateCounter ∧ rearDistance ≤ rearSafetyDistanceCm then
        { a with resultX := 50, resultY := 50, currentPhase := .completed }
      else a
  | .completed =>
    if done then { a with apsState := 0, isApsDone := 1, resultX := 50, resultY := 50 } else a

/-- The difference of two `uint64` times. -/
def sensorDelay (curTime senseTime : ℕ) : ℕ :=
  (((curTime : ℤ) - senseTime) % 2 ^ 64).toNat

/-- `Update_APS_Result`: the new state and whether a command was computed. Only the
ultrasonic timestamps are looked at. -/
def updateApsResult (a : Aps) (t : ReferenceTick) : Aps × ℤ :=
  let front := fl (t.tofLatestData.distanceM * 1000)
  let a := { a with
    senseDist := ![front.num.tdiv front.den, (t.ultLatestData 0).distanceMm,
      (t.ultLatestData 1).distanceMm, (t.ultLatestData 2).distanceMm]
    senseTime := ![t.tofLatestData.receivedTimeUs, (t.ultLatestData 0).receivedTimeUs,
      (t.ultLatestData 1).receivedTimeUs, (t.ultLatestData 2).receivedTimeUs] }
  if [1, 2, 3].any fun i => decide (t.intervalUs < sensorDelay t.curTime (a.senseTime i)) then
    (a, 0)
  else (calcApsResult fl a t.curTime t.emerLightApsDone, 1)

/-- The command `Get_APS_Result` hands out. -/
def getApsResult (a : Aps) : ℤ × ℤ := (a.resultX, a.resultY)

/-- A cycle as a step of a machine: `Update_APS_Result`, then `Get_APS_Result`. -/
def tick (a : Aps) (t : ReferenceTick) : Aps × (ℤ × ℤ) :=
  let a' := (updateApsResult fl a t).1
  (a', a'.getApsResult)

end Aps

/-! ### The same tick on both sides -/

/-- A tick of the port as a cycle of the reference: the same time, the same readings,
the same interval. -/
def Tick.reference (t : Tick) (done : Bool) : ReferenceTick where
  curTime := t.nowUs
  tofLatestData := ⟨t.sensor.frontTofMm / 1000, t.sensor.frontTsUs⟩
  ultLatestData := ![⟨t.sensor.leftUltraMm, t.sensor.leftTsUs⟩,
    ⟨t.sensor.rightUltraMm, t.sensor.rightTsUs⟩, ⟨t.sensor.rearUltraMm, t.sensor.rearTsUs⟩]
  intervalUs := t.sensorIntervalUs
  emerLightApsDone := done

/-- The distances as the sensors report them: front, left, right, rear. -/
def Tick.readings (t : Tick) : Fin 4 → ℤ :=
  ![t.sensor.frontTofMm, t.sensor.leftUltraMm, t.sensor.rightUltraMm, t.sensor.rearUltraMm]

/-- Every sensor has a reading, taken within the last sensor interval. -/
structure Tick.InTime (t : Tick) : Prop where
  nonneg : ∀ i, 0 ≤ t.readings i
  stamped : ∀ i, t.stamps i ≠ 0
  past : ∀ i, t.stamps i ≤ t.nowUs
  recent : ∀ i, t.nowUs ≤ t.stamps i + t.sensorIntervalUs

instance (t : Tick) : Decidable t.InTime :=
  decidable_of_iff ((∀ i, 0 ≤ t.readings i) ∧ (∀ i, t.stamps i ≠ 0) ∧
      (∀ i, t.stamps i ≤ t.nowUs) ∧ ∀ i, t.nowUs ≤ t.stamps i + t.sensorIntervalUs)
    ⟨fun ⟨hn, hs, hp, hr⟩ => ⟨hn, hs, hp, hr⟩,
      fun h => ⟨h.nonneg, h.stamped, h.past, h.recent⟩⟩

/-- A tick in time is usable for the port. -/
theorem Tick.InTime.ready {t : Tick} (h : t.InTime) : t.ready = true := by
  have hleft : 0 ≤ t.sensor.leftUltraMm := h.nonneg 1
  have hrear : 0 ≤ t.sensor.rearUltraMm := h.nonneg 3
  have hfresh : ∀ i, AutoParkingController.fresh t.nowUs (t.sensorIntervalUs * 5) (t.stamps i) =
      true := by
    intro i
    have hpast := h.past i
    have hrecent := h.recent i
    rw [AutoParkingController.fresh, if_neg (h.stamped i), decide_eq_true_eq]
    omega
  simp only [Tick.ready, Bool.and_eq_true, decide_eq_true_eq, List.all_eq_true]
  exact ⟨⟨hleft, hrear⟩, fun i _ => hfresh i⟩

theorem Aps.sensorDelay_le {curTime senseTime : ℕ} (h : senseTime ≤ curTime) :
    Aps.sensorDelay curTime senseTime ≤ curTime - senseTime := by
  have hsub : (curTime : ℤ) - senseTime = ((curTime - senseTime : ℕ) : ℤ) := by omega
  have hmod : ((curTime - senseTime : ℕ) : ℤ) % 2 ^ 64 =
      (((curTime - senseTime) % 2 ^ 64 : ℕ) : ℤ) := by
    rw [Int.natCast_mod]
    rfl
  rw [Aps.sensorDelay, hsub, hmod, Int.toNat_natCast]
  exact Nat.mod_le _ _

/-- A tick in time passes the reference's age check, and its distances are the port's. -/
theorem Aps.updateApsResult_of_inTime (fl : ℚ → ℚ) (a : Aps) {t : Tick} (h : t.InTime)
    (done : Bool) : ∃ front time, updateApsResult fl a (t.reference done) =
      (calcApsResult fl
        { a with
          senseDist := ![front, t.sensor.leftUltraMm, t.sensor.rightUltraMm, t.sensor.rearUltraMm]
          senseTime := time } t.nowUs done, 1) := by
  let front := fl ((t.sensor.frontTofMm / 1000 : ℚ) * 1000)
  let time : Fin 4 → ℕ := ![t.sensor.frontTsUs, t.sensor.leftTsUs, t.sensor.rightTsUs,
    t.sensor.rearTsUs]
  have hage : [1, 2, 3].any (fun i =>
      decide (t.sensorIntervalUs < sensorDelay t.nowUs (time i))) = false := by
    rw [List.any_eq_false]
    intro i _
    have hpast := h.past i
    have hrecent := h.recent i
    have hdelay := sensorDelay_le hpast
    have htime : time i = t.stamps i := rfl
    rw [decide_eq_true_eq, htime]
    omega
  refine ⟨front.num.tdiv front.den, time, ?_⟩
  unfold updateApsResult
  exact if_neg (ne_true_of_eq_false hage)

/-! ### The two states side by side -/

/-- What the two sides keep under different names is equal. -/
structure Agrees (c : AutoParkingController) (a : Aps) : Prop where
  phase : c.phase = a.currentPhase
  state : c.state = a.currentState
  initialized : c.wallReferenceInitialized = a.wallReferenceInitialized
  wallReference : c.wallReferenceDistanceMm = a.wallReferenceDistance
  spaceStart : c.spaceStartTimeUs = a.spaceStartTime
  size : c.measuredSpaceSizeCm = a.measuredSpaceSize
  rotate : c.rotateCounter = a.rotateCounter

/-- The **simulation relation**. While a side searches, the space it has measured is
too short; the sub-state of the turn matters only once the search is over; and a
completed manoeuvre stands still. -/
structure Simulates (c : AutoParkingController) (a : Aps) : Prop where
  active : c.active = true
  agrees : Agrees c a
  short : c.phase = .spaceDetection → a.measuredSpaceSize < Aps.minParkingSpaceCm
  execution : c.phase = .parkingExecution →
    (c.executionState = 1 ↔ a.phaseParkingExecutionState = 1)
  stopped : c.phase = .completed → a.getApsResult = (50, 50)

/-- `start` and `APS_Restart` leave related states behind, whatever was before. -/
theorem simulates_start (c : AutoParkingController) (a : Aps) : Simulates c.start a.restart where
  active := rfl
  agrees := ⟨rfl, rfl, rfl, rfl, rfl, rfl, rfl⟩
  short := fun _ => by
    show (0 : ℚ) < 150
    decide +kernel
  execution := fun h => by cases h
  stopped := fun h => by cases h

variable {c : AutoParkingController} {a : Aps}

/-- On a reading, the two sides analyse the space alike. -/
theorem Agrees.analyzeSpace (h : Agrees c a) {d : ℤ} (hd : 0 ≤ d) : ∃ ref init s,
    c.analyzeSpace d =
      ({ c with wallReferenceDistanceMm := ref, wallReferenceInitialized := init }, s) ∧
    a.analyzeSpace d =
      ({ a with wallReferenceDistance := ref, wallReferenceInitialized := init }, s) := by
  unfold AutoParkingController.analyzeSpace Aps.analyzeSpace
  rw [if_neg (by omega), h.initialized, h.wallReference]
  by_cases hinit : a.wallReferenceInitialized = true
  · rw [if_neg (not_not.mpr hinit), if_neg (not_not.mpr hinit)]
    have hthreshold : Aps.wallThresholdCm = cfg.wallThresholdMm := rfl
    rw [hthreshold]
    by_cases hlow : d < a.wallReferenceDistance
    · simp only [if_pos hlow]
      split_ifs
      · exact ⟨d, a.wallReferenceInitialized, .spaceDetected, rfl, rfl⟩
      · exact ⟨d, a.wallReferenceInitialized, .wallDetected, rfl, rfl⟩
    · have hsame : c = { c with
          wallReferenceDistanceMm := a.wallReferenceDistance
          wallReferenceInitialized := a.wallReferenceInitialized } := by
        rw [← h.initialized, ← h.wallReference]
      simp only [if_neg hlow, h.wallReference]
      split_ifs
      · exact ⟨_, _, .spaceDetected, congrArg (·, _) hsame, rfl⟩
      · exact ⟨_, _, .wallDetected, congrArg (·, _) hsame, rfl⟩
  · rw [if_pos hinit, if_pos hinit]
    exact ⟨d, true, .wallDetected, rfl, rfl⟩

variable {fl : ℚ → ℚ}

/-- The two measure a space alike: where the port's guard is the wider one, both
sizes are zero. -/
theorem calculateSpaceSize_eq (hfl : fl 0 = 0) (startUs endUs : ℕ) :
    AutoParkingController.calculateSpaceSize fl startUs endUs =
      Aps.calculateSpaceSize fl startUs endUs := by
  unfold AutoParkingController.calculateSpaceSize Aps.calculateSpaceSize
  rcases lt_trichotomy endUs startUs with hlt | heq | hgt
  · rw [if_pos hlt.le, if_pos hlt]
  · rw [if_pos heq.le, if_neg (by omega), heq, Nat.sub_self]
    simp [hfl]
  · rw [if_neg (by omega), if_neg (by omega)]
    rfl

/-- The two change between wall and space alike, and a size that is new was
measured on reaching the wall again. -/
theorem Agrees.processStateTransition (hfl : fl 0 = 0) (h : Agrees c a) (s : WallSpaceState)
    (nowUs : ℕ) : ∃ start stop stop' size,
    AutoParkingController.processStateTransition fl c s nowUs =
      { c with
        state := s
        spaceStartTimeUs := start
        spaceEndTimeUs := stop
        measuredSpaceSizeCm := size } ∧
    Aps.processStateTransition fl a s nowUs =
      { a with
        currentState := s
        spaceStartTime := start
        spaceEndTime := stop'
        measuredSpaceSize := size } ∧
    (size = a.measuredSpaceSize ∨ s = .wallDetected) := by
  unfold AutoParkingController.processStateTransition Aps.processStateTransition
  by_cases heq : a.currentState = s
  · rw [if_pos (h.state.trans heq), if_neg (not_not.mpr heq)]
    refine ⟨c.spaceStartTimeUs, c.spaceEndTimeUs, a.spaceEndTime, a.measuredSpaceSize, ?_, ?_,
      Or.inl rfl⟩
    · rw [← heq, ← h.state, ← h.size]
    · rw [← heq, h.spaceStart]
  · rw [if_neg (by rwa [h.state]), if_pos heq, h.state]
    cases hstate : a.currentState with
    | wallDetected =>
      cases s with
      | wallDetected => exact absurd hstate heq
      | spaceDetected =>
        exact ⟨nowUs, c.spaceEndTimeUs, a.spaceEndTime, a.measuredSpaceSize, by rw [← h.size], rfl,
          Or.inl rfl⟩
    | spaceDetected =>
      cases s with
      | spaceDetected => exact absurd hstate heq
      | wallDetected =>
        refine ⟨c.spaceStartTimeUs, nowUs, nowUs,
          Aps.calculateSpaceSize fl a.spaceStartTime nowUs, ?_, ?_, Or.inr rfl⟩
        · rw [calculateSpaceSize_eq hfl, h.spaceStart]
        · rw [h.spaceStart]

/-- A cycle of the reference while it searches. -/
theorem Aps.calcApsResult_of_search (h : a.currentPhase = .spaceDetection) (nowUs : ℕ)
    (done : Bool) : calcApsResult fl a nowUs done =
      let found := detectParkingSpace fl { a with resultX := 50, resultY := 70 } nowUs
      if found.2 then
        { found.1 with
          currentPhase := .parkingExecution
          rotateCounter := 0
          phaseParkingExecutionState := 1
          wallReferenceInitialized := false }
      else found.1 := by
  unfold calcApsResult
  split
  · rfl
  · rename_i hp
    exact absurd (h.symm.trans hp) (by decide)
  · rename_i hp
    exact absurd (h.symm.trans hp) (by decide)

/-- **The search**: the same command, and a space long enough for one is long enough
for the other. -/
theorem Simulates.searchOutputs (hfl : fl 0 = 0) (h : Simulates c a)
    (hphase : c.phase = .spaceDetection) (hleft : 0 ≤ c.senseDist 1)
    (hdist : a.senseDist 1 = c.senseDist 1) (nowUs : ℕ) (done : Bool) :
    Simulates (AutoParkingController.searchOutputs fl c nowUs)
        (Aps.calcApsResult fl a nowUs done) ∧
      (AutoParkingController.searchOutputs fl c nowUs).command =
        (Aps.calcApsResult fl a nowUs done).getApsResult := by
  have hag : Agrees { c with resultX := 50, resultY := 70 }
      { a with resultX := 50, resultY := 70 } :=
    ⟨h.agrees.phase, h.agrees.state, h.agrees.initialized, h.agrees.wallReference,
      h.agrees.spaceStart, h.agrees.size, h.agrees.rotate⟩
  obtain ⟨ref, init, s, hc, ha⟩ := hag.analyzeSpace hleft
  have hag' : Agrees
      { c with
        resultX := 50
        resultY := 70
        wallReferenceDistanceMm := ref
        wallReferenceInitialized := init }
      { a with
        resultX := 50
        resultY := 70
        wallReferenceDistance := ref
        wallReferenceInitialized := init } :=
    ⟨h.agrees.phase, h.agrees.state, rfl, rfl, h.agrees.spaceStart, h.agrees.size,
      h.agrees.rotate⟩
  obtain ⟨start, stop, stop', size, hc', ha', hnew⟩ := hag'.processStateTransition hfl s nowUs
  have hmin : Aps.minParkingSpaceCm = cfg.minSpaceSizeCm := rfl
  rw [Aps.calcApsResult_of_search (h.agrees.phase.symm.trans hphase)]
  simp only [AutoParkingController.searchOutputs, AutoParkingController.detectParkingSpace, hc, hc',
    Aps.detectParkingSpace, hdist, ha, ha', hmin, decide_eq_true_eq]
  by_cases hlong : cfg.minSpaceSizeCm ≤ size
  · -- The space was measured just now, so the reference is at the wall as well.
    have hwall : s = .wallDetected := by
      refine hnew.resolve_left fun hold => ?_
      exact absurd (hold ▸ hlong) (not_le.mpr (h.short hphase))
    simp only [if_pos hlong, if_true, hwall]
    refine ⟨⟨h.active, ⟨rfl, rfl, rfl, rfl, rfl, rfl, rfl⟩, ?_, fun _ => iff_of_true rfl rfl, ?_⟩,
      rfl⟩
    · intro hp
      cases hp
    · intro hp
      cases hp
  · simp only [if_neg hlong, Bool.false_eq_true, if_false]
    refine ⟨⟨h.active, ⟨h.agrees.phase, rfl, rfl, rfl, rfl, rfl, h.agrees.rotate⟩,
      fun _ => not_le.mp hlong, h.execution, ?_⟩, rfl⟩
    intro hp
    exact absurd (hphase.symm.trans hp) (by decide)

variable (fl) in
/-- **Backing up to the space**: the same command, and both stop at it together. -/
theorem Simulates.alignOutputs (h : Simulates c a) (hphase : c.phase = .parkingExecution)
    (hexec : c.executionState = 1) (hleft : 0 ≤ c.senseDist 1)
    (hdist : a.senseDist 1 = c.senseDist 1) (nowUs : ℕ) (done : Bool) :
    Simulates c.alignOutputs (Aps.calcApsResult fl a nowUs done) ∧
      c.alignOutputs.command = (Aps.calcApsResult fl a nowUs done).getApsResult := by
  obtain ⟨ref, init, s, hc, ha⟩ := h.agrees.analyzeSpace hleft
  have hrun : a.currentPhase = .parkingExecution := h.agrees.phase.symm.trans hphase
  have hcalc : Aps.calcApsResult fl a nowUs done =
      if s = .spaceDetected then
        { a with
          wallReferenceDistance := ref
          wallReferenceInitialized := init
          currentState := s
          resultX := 50
          resultY := 50
          phaseParkingExecutionState := 2 }
      else
        { a with
          wallReferenceDistance := ref
          wallReferenceInitialized := init
          currentState := s
          resultX := 50
          resultY := 35 } := by
    unfold Aps.calcApsResult
    split
    · rename_i hp
      exact absurd (hrun.symm.trans hp) (by decide)
    · rw [if_pos ((h.execution hphase).mp hexec), hdist, ha]
    · rename_i hp
      exact absurd (hrun.symm.trans hp) (by decide)
  have hsearch : c.phase ≠ .spaceDetection := by rw [hphase]; decide
  have hcompleted : c.phase ≠ .completed := by rw [hphase]; decide
  have hag : ∀ x y x' y' e e', Agrees
      { c with
        wallReferenceDistanceMm := ref
        wallReferenceInitialized := init
        state := s
        resultX := x
        resultY := y
        executionState := e }
      { a with
        wallReferenceDistance := ref
        wallReferenceInitialized := init
        currentState := s
        resultX := x'
        resultY := y'
        phaseParkingExecutionState := e' } := fun _ _ _ _ _ _ =>
    ⟨h.agrees.phase, rfl, rfl, rfl, h.agrees.spaceStart, h.agrees.size, h.agrees.rotate⟩
  rw [hcalc]
  simp only [AutoParkingController.alignOutputs, hc]
  by_cases hs : s = .spaceDetected
  · rw [if_pos hs, if_pos hs]
    exact ⟨⟨h.active, hag .., fun hp => absurd hp hsearch, fun _ => by simp,
      fun hp => absurd hp hcompleted⟩, rfl⟩
  · rw [if_neg hs, if_neg hs]
    exact ⟨⟨h.active, hag .., fun hp => absurd hp hsearch, h.execution,
      fun hp => absurd hp hcompleted⟩, rfl⟩

/-- A cycle of the reference while it turns in. -/
theorem Aps.calcApsResult_of_turn (hphase : a.currentPhase = .parkingExecution)
    (hexec : a.phaseParkingExecutionState ≠ 1) (nowUs : ℕ) (done : Bool) :
    calcApsResult fl a nowUs done =
      let turned := if a.rotateCounter < rotateLimit then
        { a with resultX := 64, resultY := 45, rotateCounter := a.rotateCounter + 1 }
      else { a with resultX := 50, resultY := 35 }
      if rotateLimit ≤ turned.rotateCounter ∧ a.senseDist 3 ≤ rearSafetyDistanceCm then
        { turned with resultX := 50, resultY := 50, currentPhase := .completed }
      else turned := by
  unfold calcApsResult
  split
  · rename_i hp
    exact absurd (hphase.symm.trans hp) (by decide)
  · rw [if_neg hexec]
  · rename_i hp
    exact absurd (hphase.symm.trans hp) (by decide)

variable (fl) in
/-- **Turning in and reversing**: the same command, and both are done together. -/
theorem Simulates.turnOutputs (h : Simulates c a) (hphase : c.phase = .parkingExecution)
    (hexec : c.executionState ≠ 1) (hrear : 0 ≤ c.senseDist 3)
    (hdist : a.senseDist 3 = c.senseDist 3) (nowUs : ℕ) (done : Bool) :
    Simulates c.turnOutputs (Aps.calcApsResult fl a nowUs done) ∧
      c.turnOutputs.command = (Aps.calcApsResult fl a nowUs done).getApsResult := by
  have hexec' : a.phaseParkingExecutionState ≠ 1 := fun he =>
    hexec ((h.execution hphase).mpr he)
  have hsearch : c.phase ≠ .spaceDetection := by rw [hphase]; decide
  have hcompleted : c.phase ≠ .completed := by rw [hphase]; decide
  have hag : ∀ x y x' y' n, Agrees { c with resultX := x, resultY := y, rotateCounter := n }
      { a with resultX := x', resultY := y', rotateCounter := n } := fun _ _ _ _ _ =>
    ⟨h.agrees.phase, h.agrees.state, h.agrees.initialized, h.agrees.wallReference,
      h.agrees.spaceStart, h.agrees.size, rfl⟩
  have hend : ∀ x y x' y' n d, Agrees
      { c with resultX := x, resultY := y, rotateCounter := n, phase := .completed, done := d }
      { a with resultX := x', resultY := y', rotateCounter := n, currentPhase := .completed } :=
    fun _ _ _ _ _ _ => ⟨rfl, h.agrees.state, h.agrees.initialized, h.agrees.wallReference,
      h.agrees.spaceStart, h.agrees.size, rfl⟩
  have hlimit : Aps.rotateLimit = cfg.rotateLimit := rfl
  have hsafe : Aps.rearSafetyDistanceCm = cfg.rearSafetyDistanceMm := rfl
  have hnotSearching : ParkingPhase.completed ≠ .spaceDetection := by decide
  have hnotParking : ParkingPhase.completed ≠ .parkingExecution := by decide
  rw [Aps.calcApsResult_of_turn (h.agrees.phase.symm.trans hphase) hexec']
  simp only [AutoParkingController.turnOutputs, hlimit, hsafe, hdist, ← h.agrees.rotate]
  by_cases hturn : c.rotateCounter < cfg.rotateLimit
  · simp only [if_pos hturn]
    by_cases hdone : cfg.rotateLimit ≤ c.rotateCounter + 1 ∧
        c.senseDist 3 ≤ cfg.rearSafetyDistanceMm
    · rw [if_pos hdone, if_pos ⟨hdone.1, hrear, hdone.2⟩]
      exact ⟨⟨h.active, hend .., fun hp => absurd hp hnotSearching,
        fun hp => absurd hp hnotParking, fun _ => rfl⟩, rfl⟩
    · rw [if_neg hdone, if_neg fun hd => hdone ⟨hd.1, hd.2.2⟩]
      exact ⟨⟨h.active, hag .., fun hp => absurd hp hsearch, h.execution,
        fun hp => absurd hp hcompleted⟩, rfl⟩
  · simp only [if_neg hturn]
    by_cases hdone : cfg.rotateLimit ≤ c.rotateCounter ∧
        c.senseDist 3 ≤ cfg.rearSafetyDistanceMm
    · rw [if_pos hdone, if_pos ⟨hdone.1, hrear, hdone.2⟩]
      exact ⟨⟨h.active, hend .., fun hp => absurd hp hnotSearching,
        fun hp => absurd hp hnotParking, fun _ => rfl⟩, rfl⟩
    · rw [if_neg hdone, if_neg fun hd => hdone ⟨hd.1, hd.2.2⟩]
      exact ⟨⟨h.active, hag .., fun hp => absurd hp hsearch, h.execution,
        fun hp => absurd hp hcompleted⟩, rfl⟩

variable (fl) in
/-- **A completed manoeuvre** stands still on both sides, whether or not the lights are
done with it. -/
theorem Simulates.completedOutputs (h : Simulates c a) (hphase : c.phase = .completed)
    (nowUs : ℕ) (done : Bool) :
    Simulates (AutoParkingController.computeOutputs fl c nowUs)
        (Aps.calcApsResult fl a nowUs done) ∧
      (AutoParkingController.computeOutputs fl c nowUs).command =
        (Aps.calcApsResult fl a nowUs done).getApsResult := by
  have hport : AutoParkingController.computeOutputs fl c nowUs =
      { c with resultX := 50, resultY := 50, done := true } := by
    unfold AutoParkingController.computeOutputs
    rw [hphase]
  have hcalc : Aps.calcApsResult fl a nowUs done =
      if done then { a with apsState := 0, isApsDone := 1, resultX := 50, resultY := 50 }
      else a := by
    have hrun : a.currentPhase = .completed := h.agrees.phase.symm.trans hphase
    unfold Aps.calcApsResult
    split
    · rename_i hp
      exact absurd (hrun.symm.trans hp) (by decide)
    · rename_i hp
      exact absurd (hrun.symm.trans hp) (by decide)
    · rfl
  have hag := h.agrees
  have hstopped := h.stopped hphase
  have hsearch : c.phase ≠ .spaceDetection := by rw [hphase]; decide
  have hexec : c.phase ≠ .parkingExecution := by rw [hphase]; decide
  rw [hport, hcalc]
  cases done with
  | false =>
    exact ⟨⟨h.active, ⟨hag.phase, hag.state, hag.initialized, hag.wallReference, hag.spaceStart,
      hag.size, hag.rotate⟩, fun hp => absurd hp hsearch, fun hp => absurd hp hexec,
      fun _ => hstopped⟩, hstopped.symm⟩
  | true =>
    exact ⟨⟨h.active, ⟨hag.phase, hag.state, hag.initialized, hag.wallReference, hag.spaceStart,
      hag.size, hag.rotate⟩, fun hp => absurd hp hsearch, fun hp => absurd hp hexec,
      fun _ => rfl⟩, rfl⟩

/-- **A tick in time keeps the two sides related**, and they command the same. -/
theorem Simulates.step (hfl : fl 0 = 0) (h : Simulates c a) {t : Tick} (ht : t.InTime)
    (done : Bool) :
    (c.step fl t).command = (a.tick fl (t.reference done)).2 ∧
      Simulates (c.step fl t) (a.tick fl (t.reference done)).1 := by
  obtain ⟨time, hport⟩ := AutoParkingController.step_of_ready fl h.active ht.ready
  obtain ⟨front, time', href⟩ := Aps.updateApsResult_of_inTime fl a ht done
  have hleft : 0 ≤ t.dist 1 := ht.nonneg 1
  have hrear : 0 ≤ t.dist 3 := ht.nonneg 3
  have hag := h.agrees
  have hread : Simulates
      { c with sensorsReady := true, senseDist := t.dist, senseTime := time }
      { a with
        senseDist := ![front, t.sensor.leftUltraMm, t.sensor.rightUltraMm, t.sensor.rearUltraMm]
        senseTime := time' } :=
    ⟨h.active, ⟨hag.phase, hag.state, hag.initialized, hag.wallReference, hag.spaceStart, hag.size,
      hag.rotate⟩, h.short, h.execution, h.stopped⟩
  simp only [Aps.tick, hport, href]
  refine And.symm ?_
  cases hphase : c.phase with
  | spaceDetection =>
    have hcase := hread.searchOutputs hfl hphase hleft rfl t.nowUs done
    simp only [AutoParkingController.computeOutputs, hphase] at hcase ⊢
    exact hcase
  | parkingExecution =>
    by_cases hexec : c.executionState = 1
    · have hcase := hread.alignOutputs fl hphase hexec hleft rfl t.nowUs done
      simp only [AutoParkingController.computeOutputs, hphase, if_pos hexec] at hcase ⊢
      exact hcase
    · have hcase := hread.turnOutputs fl hphase hexec hrear rfl t.nowUs done
      simp only [AutoParkingController.computeOutputs, hphase, if_neg hexec] at hcase ⊢
      exact hcase
  | completed =>
    have hcase := hread.completedOutputs fl hphase t.nowUs done
    simp only [AutoParkingController.computeOutputs, hphase] at hcase ⊢
    exact hcase

/-! ### The commands along a run -/

/-- The port's commands, one for each tick. -/
def AutoParkingController.commands (fl : ℚ → ℚ) (c : AutoParkingController)
    (ts : List Tick) : List (ℤ × ℤ) :=
  Mealy.outputs (fun c t => (c.step fl t, (c.step fl t).command)) c ts

/-- The reference's commands, one for each cycle. -/
def Aps.commands (fl : ℚ → ℚ) (a : Aps) (ts : List ReferenceTick) : List (ℤ × ℤ) :=
  Mealy.outputs (tick fl) a ts

/-- **The port equals its reference.** After `start` on one side and `APS_Restart` on
the other, from whatever states, both emit the same commands on every sequence of
ticks in time, for every rounding of the space's size that keeps zero and every
answer of the lights. -/
theorem commands_eq_reference (fl : ℚ → ℚ) (hfl : fl 0 = 0) (c : AutoParkingController)
    (a : Aps) (ts : List (Tick × Bool)) (hts : ∀ t ∈ ts, t.1.InTime) :
    c.start.commands fl (ts.map fun t => t.1) =
      a.restart.commands fl (ts.map fun t => t.1.reference t.2) := by
  have hport : ∀ c : AutoParkingController, c.commands fl (ts.map fun t => t.1) =
      Mealy.outputs (fun c (t : Tick × Bool) => (c.step fl t.1, (c.step fl t.1).command)) c ts :=
    fun c => Mealy.outputs_map ..
  have href : ∀ a : Aps, a.commands fl (ts.map fun t => t.1.reference t.2) =
      Mealy.outputs (fun a (t : Tick × Bool) => a.tick fl (t.1.reference t.2)) a ts :=
    fun a => Mealy.outputs_map ..
  rw [hport, href]
  exact Mealy.outputs_eq_of_simulation (R := Simulates)
    (fun c a t ht h => h.step hfl ht t.2) (simulates_start c a) hts

/-- A gap of half a second between two walls, and the manoeuvre after it. -/
def gapTicks : List (Tick × Bool) :=
  (List.range 60).map fun i =>
    ({ nowUs := 100000 * (i + 1)
       sensor :=
        { frontTofMm := 800
          leftUltraMm := if 3 ≤ i ∧ i < 8 then 600 else if i = 14 then 600 else 200
          rightUltraMm := 300
          rearUltraMm := if i < 50 then 900 else 80
          frontTsUs := 100000 * (i + 1)
          leftTsUs := 100000 * (i + 1) - 1000
          rightTsUs := 100000 * (i + 1) - 2000
          rearTsUs := 100000 * (i + 1) - 100000 + 1 }
       sensorIntervalUs := 100000 }, i % 2 = 0)

theorem commands_eq_reference_gapTicks :
    ({} : AutoParkingController).start.commands id (gapTicks.map fun t => t.1) =
      ({} : Aps).restart.commands id (gapTicks.map fun t => t.1.reference t.2) :=
  commands_eq_reference id rfl {} {} gapTicks (by decide +kernel)

example : ({} : Aps).restart.commands id (gapTicks.map fun t => t.1.reference t.2) =
    List.replicate 9 (50, 70) ++ List.replicate 5 (50, 35) ++ [(50, 50)] ++
      List.replicate 30 (64, 45) ++ List.replicate 5 (50, 35) ++ List.replicate 10 (50, 50) := by
  decide +kernel

end Realtime

end VehicleStack
