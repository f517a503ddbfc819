import VehicleStack.Lib.Mealy
import VehicleStack.Lib.Rounding

/-!
# The joystick's side

`joystick.py` and `controller.py` of the handheld controller. Each axis is read as
a 10-bit number, scaled to 0 to 99 and, within the dead zone around the middle,
set to 50; the vertical axis is then turned round. The loop sends a position that
differs by at least five from the last one it sent, at most ten times a second,
and the button whenever it changes.

`VehicleStack.Joystick.Controller.poll_motor` is what a pass of the loop does as
far as the stick is concerned, and `VehicleStack.Joystick.far_or_eq` the gap that
the dead zone leaves: a position that is not the one at rest is at least five away
from it.
-/

namespace VehicleStack

namespace Joystick

/-- What one pass of the loop reads: the three channels, and the time. -/
structure Reading where
  swt : Fin 1024
  vrx : Fin 1024
  vry : Fin 1024
  now : ℚ

/-- A message handed to `bt.send`. -/
inductive Message where
  | button (swt : ℤ)
  | motor (vrx vry : ℤ)
  deriving DecidableEq

/-- The text of an integer under the format `02`. -/
def padded (n : ℤ) : List Char :=
  let s := (toString n).toList
  if s.length < 2 then '0' :: s else s

/-- The text of a message. -/
def Message.text : Message → List Char
  | .button swt => 'P' :: padded swt ++ [Char.ofNat 0]
  | .motor vrx vry => 'M' :: padded vrx ++ padded vry ++ [Char.ofNat 0]

/-- `BluetoothHandler.send`: the datagram a message becomes. -/
def Message.datagram (m : Message) : List Char := m.text ++ ['\n']

/-! ### The stick -/

/-- `old_min` and `old_max`. -/
def oldMin : ℤ := 0
def oldMax : ℤ := 1023

/-- The defaults of `new_x_min` and `new_x_max`, and of `new_y_min` and `new_y_max`. -/
def newMin : ℤ := 0
def newMax : ℤ := 99

/-- `get_converted_swt`. -/
def getConvertedSwt (swt : Fin 1024) : ℤ := if 512 < (swt : ℕ) then 1 else 0

variable (r : Rounding)

/-- `cnv_x_pos` and `cnv_y_pos`, before the dead zone. -/
def cnvPos (pos : Fin 1024) : ℚ :=
  r ((((pos : ℕ) : ℤ) - oldMin) * (newMax - newMin) / (oldMax - oldMin) : ℚ) + newMin

/-- The position is in the dead zone. -/
def InDeadZone (cnv : ℚ) : Prop := 45 < cnv ∧ cnv < 55

instance (cnv : ℚ) : Decidable (InDeadZone cnv) :=
  inferInstanceAs (Decidable (45 < cnv ∧ cnv < 55))

/-- The position the dead zone leaves. -/
def deadZoned (cnv : ℚ) : ℚ := if InDeadZone cnv then 50 else cnv

/-- `get_converted_vrx`. -/
def getConvertedVrx (pos : Fin 1024) : ℤ := truncate (deadZoned (cnvPos r pos))

/-- `get_converted_vry`. -/
def getConvertedVry (pos : Fin 1024) : ℤ := truncate (r (99 - deadZoned (cnvPos r pos)))

/-- The stick is at rest: both axes are in the dead zone. -/
def Reading.Rests (p : Reading) : Prop :=
  InDeadZone (cnvPos r p.vrx) ∧ InDeadZone (cnvPos r p.vry)

/-! ### The loop -/

/-- The variables of `Controller.run`. -/
structure Controller where
  prevSwt : ℤ
  prevVrx : ℤ
  prevVry : ℤ
  lastVrSendTime : ℚ

namespace Controller

/-- `run` up to its loop: the first reading is kept and not sent. -/
def start (p : Reading) : Controller where
  prevSwt := getConvertedSwt p.swt
  prevVrx := getConvertedVrx r p.vrx
  prevVry := getConvertedVry r p.vry
  lastVrSendTime := p.now

/-- A pass of the loop, the button. -/
def pollButton (c : Controller) (p : Reading) : Controller × List Message :=
  let curSwt := getConvertedSwt p.swt
  if curSwt ≠ c.prevSwt then ({ c with prevSwt := curSwt }, [.button curSwt]) else (c, [])

/-- A pass of the loop, the stick. -/
def pollStick (c : Controller) (p : Reading) : Controller × List Message :=
  let curVrx := getConvertedVrx r p.vrx
  let curVry := getConvertedVry r p.vry
  let deltaVrx := |curVrx - c.prevVrx|
  let deltaVry := |curVry - c.prevVry|
  if (5 ≤ deltaVrx ∨ 5 ≤ deltaVry) ∧ r (1 / 10) ≤ r (p.now - c.lastVrSendTime) then
    ({ c with prevVrx := curVrx, prevVry := curVry, lastVrSendTime := p.now },
      [.motor curVrx curVry])
  else (c, [])

/-- A pass of the loop of `run`. -/
def poll (c : Controller) (p : Reading) : Controller × List Message :=
  let (c, button) := c.pollButton p
  let (c, motor) := pollStick r c p
  (c, button ++ motor)

end Controller

/-! ### The gap the dead zone leaves -/

variable {r} {pos : Fin 1024}

/-- A position is scaled to 0 to 99. -/
theorem cnvPos_mem (r : Rounding) (pos : Fin 1024) : 0 ≤ cnvPos r pos ∧ cnvPos r pos ≤ 99 := by
  have hpos : ((pos : ℕ) : ℚ) ≤ 1023 := by exact_mod_cast Nat.le_of_lt_succ pos.isLt
  have hlow : (((0 : ℤ)) : ℚ) ≤ (pos : ℕ) * 99 / 1023 := by
    rw [Int.cast_zero]
    positivity
  have hhigh : ((pos : ℕ) * 99 / 1023 : ℚ) ≤ ((99 : ℤ) : ℚ) := by
    push_cast
    linarith
  have hcnv : cnvPos r pos = r ((pos : ℕ) * 99 / 1023) := by
    simp [cnvPos, oldMin, oldMax, newMin, newMax]
  rw [hcnv]
  have h0 := r.intCast_le (by decide) hlow
  have h99 := r.le_intCast (by decide) hhigh
  constructor
  · simpa using h0
  · simpa using h99

theorem not_inDeadZone {cnv : ℚ} (h : ¬InDeadZone cnv) : cnv ≤ 45 ∨ 55 ≤ cnv := by
  by_contra hcon
  rw [not_or, not_le, not_le] at hcon
  exact h hcon

/-- At rest the horizontal axis reads 50. -/
theorem getConvertedVrx_of_rest (h : InDeadZone (cnvPos r pos)) : getConvertedVrx r pos = 50 := by
  rw [getConvertedVrx, deadZoned, if_pos h]
  exact truncate_intCast 50

/-- Off rest the horizontal axis reads at least five away from 50. -/
theorem getConvertedVrx_far (h : ¬InDeadZone (cnvPos r pos)) :
    getConvertedVrx r pos ≤ 45 ∨ 55 ≤ getConvertedVrx r pos := by
  obtain ⟨h0, -⟩ := cnvPos_mem r pos
  rw [getConvertedVrx, deadZoned, if_neg h]
  rcases not_inDeadZone h with hlow | hhigh
  · exact Or.inl (truncate_le h0 (by exact_mod_cast hlow))
  · exact Or.inr (le_truncate h0 (by exact_mod_cast hhigh))

/-- At rest the vertical axis reads 49: it is turned round after the dead zone. -/
theorem getConvertedVry_of_rest (h : InDeadZone (cnvPos r pos)) : getConvertedVry r pos = 49 := by
  have hmid : r (99 - 50) = ((49 : ℤ) : ℚ) := by
    rw [← r.round_intCast 49 (by decide)]
    norm_num
  rw [getConvertedVry, deadZoned, if_pos h, hmid, truncate_intCast]

/-- Off rest the vertical axis reads at least five away from 49. -/
theorem getConvertedVry_far (h : ¬InDeadZone (cnvPos r pos)) :
    getConvertedVry r pos ≤ 44 ∨ 54 ≤ getConvertedVry r pos := by
  obtain ⟨-, h99⟩ := cnvPos_mem r pos
  have h0 : (((0 : ℤ)) : ℚ) ≤ r (99 - cnvPos r pos) :=
    r.intCast_le (by decide) (by push_cast; linarith)
  rw [Int.cast_zero] at h0
  rw [getConvertedVry, deadZoned, if_neg h]
  rcases not_inDeadZone h with hlow | hhigh
  · refine Or.inr (le_truncate h0 (r.intCast_le (by decide) ?_))
    push_cast
    linarith
  · refine Or.inl (truncate_le h0 (r.le_intCast (by decide) ?_))
    push_cast
    linarith

/-- The horizontal axis reads 0 to 99. -/
theorem getConvertedVrx_mem (r : Rounding) (pos : Fin 1024) :
    0 ≤ getConvertedVrx r pos ∧ getConvertedVrx r pos ≤ 99 := by
  by_cases h : InDeadZone (cnvPos r pos)
  · rw [getConvertedVrx_of_rest h]
    exact ⟨by decide, by decide⟩
  · obtain ⟨h0, h99⟩ := cnvPos_mem r pos
    rw [getConvertedVrx, deadZoned, if_neg h]
    exact ⟨le_truncate h0 (by exact_mod_cast h0), truncate_le h0 (by exact_mod_cast h99)⟩

/-- The vertical axis reads 0 to 99. -/
theorem getConvertedVry_mem (r : Rounding) (pos : Fin 1024) :
    0 ≤ getConvertedVry r pos ∧ getConvertedVry r pos ≤ 99 := by
  by_cases h : InDeadZone (cnvPos r pos)
  · rw [getConvertedVry_of_rest h]
    exact ⟨by decide, by decide⟩
  · obtain ⟨h0, h99⟩ := cnvPos_mem r pos
    have hlow : (((0 : ℤ)) : ℚ) ≤ r (99 - cnvPos r pos) :=
      r.intCast_le (by decide) (by push_cast; linarith)
    have hhigh : r (99 - cnvPos r pos) ≤ ((99 : ℤ) : ℚ) :=
      r.le_intCast (by decide) (by push_cast; linarith)
    rw [getConvertedVry, deadZoned, if_neg h]
    exact ⟨le_truncate (by exact_mod_cast hlow) hlow, truncate_le (by exact_mod_cast hlow) hhigh⟩

/-- A pair of converted positions. -/
def Converted (r : Rounding) (x y : ℤ) : Prop :=
  ∃ p : Reading, x = getConvertedVrx r p.vrx ∧ y = getConvertedVry r p.vry

/-- **The gap**: converted positions are those of rest, or one of them is at least
five away. -/
theorem far_or_eq {x y : ℤ} (h : Converted r x y) :
    (x = 50 ∧ y = 49) ∨ 5 ≤ |50 - x| ∨ 5 ≤ |49 - y| := by
  obtain ⟨p, rfl, rfl⟩ := h
  by_cases hx : InDeadZone (cnvPos r p.vrx)
  · by_cases hy : InDeadZone (cnvPos r p.vry)
    · exact Or.inl ⟨getConvertedVrx_of_rest hx, getConvertedVry_of_rest hy⟩
    · refine Or.inr (Or.inr ?_)
      have hfar := getConvertedVry_far hy
      rw [le_abs]
      omega
  · refine Or.inr (Or.inl ?_)
    have hfar := getConvertedVrx_far hx
    rw [le_abs]
    omega

/-! ### What a pass sends of the stick -/

/-- The position of a motor message. -/
def Message.motor? : Message → Option (ℤ × ℤ)
  | .button _ => none
  | .motor vrx vry => some (vrx, vry)

/-- The positions among some messages. -/
def motors (ms : List Message) : List (ℤ × ℤ) := ms.filterMap Message.motor?

namespace Controller

variable {c : Controller} {p : Reading}

/-- **What a pass does about the stick**: it sends the position, which then is the last
one sent, or it sends none and keeps the last one. -/
theorem poll_motor (r : Rounding) (c : Controller) (p : Reading) :
    ((5 ≤ |getConvertedVrx r p.vrx - c.prevVrx| ∨ 5 ≤ |getConvertedVry r p.vry - c.prevVry|) ∧
      r (1 / 10) ≤ r (p.now - c.lastVrSendTime) ∧
      motors (c.poll r p).2 = [(getConvertedVrx r p.vrx, getConvertedVry r p.vry)] ∧
      (c.poll r p).1.prevVrx = getConvertedVrx r p.vrx ∧
      (c.poll r p).1.prevVry = getConvertedVry r p.vry) ∨
    (¬((5 ≤ |getConvertedVrx r p.vrx - c.prevVrx| ∨
        5 ≤ |getConvertedVry r p.vry - c.prevVry|) ∧
        r (1 / 10) ≤ r (p.now - c.lastVrSendTime)) ∧
      motors (c.poll r p).2 = [] ∧
      (c.poll r p).1.prevVrx = c.prevVrx ∧ (c.poll r p).1.prevVry = c.prevVry) := by
  have hbutton : motors (c.pollButton p).2 = [] ∧ (c.pollButton p).1.prevVrx = c.prevVrx ∧
      (c.pollButton p).1.prevVry = c.prevVry ∧
      (c.pollButton p).1.lastVrSendTime = c.lastVrSendTime := by
    simp only [pollButton]
    split_ifs <;> exact ⟨rfl, rfl, rfl, rfl⟩
  obtain ⟨hnone, hx, hy, htime⟩ := hbutton
  have hmotors : motors (c.poll r p).2 = motors (pollStick r (c.pollButton p).1 p).2 := by
    unfold motors at hnone ⊢
    unfold poll
    rw [List.filterMap_append, hnone, List.nil_append]
  have hstate : (c.poll r p).1 = (pollStick r (c.pollButton p).1 p).1 := rfl
  rw [hmotors, hstate, ← hx, ← hy, ← htime]
  simp only [pollStick]
  split_ifs with hsend
  · exact Or.inl ⟨hsend.1, hsend.2, rfl, rfl, rfl⟩
  · exact Or.inr ⟨hsend, rfl, rfl, rfl⟩

/-- The messages of a pass say what it read. -/
theorem mem_poll {m : Message} (h : m ∈ (c.poll r p).2) :
    m = .button (getConvertedSwt p.swt) ∨
      m = .motor (getConvertedVrx r p.vrx) (getConvertedVry r p.vry) := by
  have hsplit : m ∈ (c.pollButton p).2 ++ (pollStick r (c.pollButton p).1 p).2 := h
  rcases List.mem_append.mp hsplit with hbutton | hmotor
  · simp only [pollButton] at hbutton
    split_ifs at hbutton
    · exact Or.inl (List.mem_singleton.mp hbutton)
    · cases hbutton
  · simp only [pollStick] at hmotor
    split_ifs at hmotor
    · exact Or.inr (List.mem_singleton.mp hmotor)
    · cases hmotor

/-! ### Runs of the loop -/

/-- The variables after some passes, from a first reading. -/
def after (r : Rounding) (first : Reading) (polls : List Reading) : Controller :=
  Mealy.final (poll r) (start r first) polls

/-- The messages some passes send, from a first reading. -/
def sent (r : Rounding) (first : Reading) (polls : List Reading) : List Message :=
  (Mealy.outputs (poll r) (start r first) polls).flatten

variable {first : Reading} {polls : List Reading}

theorem after_concat (r : Rounding) (first : Reading) (polls : List Reading) (p : Reading) :
    after r first (polls ++ [p]) = ((after r first polls).poll r p).1 :=
  Mealy.final_concat ..

theorem motors_sent_concat (r : Rounding) (first : Reading) (polls : List Reading) (p : Reading) :
    motors (sent r first (polls ++ [p])) =
      motors (sent r first polls) ++ motors ((after r first polls).poll r p).2 := by
  unfold sent motors after
  rw [Mealy.outputs_concat, List.flatten_append, List.filterMap_append, List.flatten_singleton]

/-- **The last position sent is the one that is kept**, and the one that is kept was
read at some time. -/
theorem prev_after (r : Rounding) (first : Reading) (polls : List Reading) :
    Converted r (after r first polls).prevVrx (after r first polls).prevVry ∧
      ∀ q ∈ (motors (sent r first polls)).getLast?,
        q = ((after r first polls).prevVrx, (after r first polls).prevVry) := by
  induction polls using List.reverseRecOn with
  | nil => exact ⟨⟨first, rfl, rfl⟩, fun q hq => by cases hq⟩
  | append_singleton polls p ih =>
    rw [after_concat, motors_sent_concat]
    rcases poll_motor r (after r first polls) p with ⟨-, -, hmotor, hx, hy⟩ | ⟨-, hmotor, hx, hy⟩
    · rw [hmotor, hx, hy, List.getLast?_concat]
      exact ⟨⟨p, rfl, rfl⟩, fun q hq => (Option.mem_some.mp hq).symm⟩
    · rw [hmotor, hx, hy, List.append_nil]
      exact ih

/-- Every message says what some pass read. -/
theorem mem_sent {m : Message} (h : m ∈ sent r first polls) : ∃ p : Reading,
    m = .button (getConvertedSwt p.swt) ∨
      m = .motor (getConvertedVrx r p.vrx) (getConvertedVry r p.vry) := by
  obtain ⟨ms, hms, hm⟩ := List.mem_flatten.mp h
  obtain ⟨before, p, later, -, rfl⟩ := Mealy.mem_outputs _ hms
  exact ⟨p, mem_poll hm⟩

/-- The stick **comes to rest**: from some pass on it is at rest, and in that pass at least
a tenth of a second has gone by since the last position was sent. -/
def ComesToRest (r : Rounding) (first : Reading) (polls : List Reading) : Prop :=
  ∃ before p later, polls = before ++ p :: later ∧ (∀ q ∈ p :: later, q.Rests r) ∧
    1 / 10 ≤ p.now - (after r first before).lastVrSendTime

/-- A pass at rest, once the time is up, leaves the position of rest. -/
theorem prev_poll_of_rests (h : Converted r c.prevVrx c.prevVry) (hp : p.Rests r)
    (htime : 1 / 10 ≤ p.now - c.lastVrSendTime) :
    (c.poll r p).1.prevVrx = 50 ∧ (c.poll r p).1.prevVry = 49 := by
  have hx := getConvertedVrx_of_rest hp.1
  have hy := getConvertedVry_of_rest hp.2
  rcases poll_motor r c p with ⟨-, -, -, hx', hy'⟩ | ⟨hnot, -, hx', hy'⟩
  · exact ⟨hx'.trans hx, hy'.trans hy⟩
  · rw [hx, hy] at hnot
    rw [hx', hy']
    exact (far_or_eq h).resolve_right fun hfar => hnot ⟨hfar, r.mono htime⟩

/-- At rest the position of rest stays the last one. -/
theorem prev_poll_of_eq (hc : c.prevVrx = 50 ∧ c.prevVry = 49) (hp : p.Rests r) :
    (c.poll r p).1.prevVrx = 50 ∧ (c.poll r p).1.prevVry = 49 := by
  rcases poll_motor r c p with ⟨-, -, -, hx', hy'⟩ | ⟨-, -, hx', hy'⟩
  · exact ⟨hx'.trans (getConvertedVrx_of_rest hp.1), hy'.trans (getConvertedVry_of_rest hp.2)⟩
  · rwa [hx', hy']

/-- **A released stick sends the position of rest last**, if it sends any. -/
theorem ComesToRest.last_motor (h : ComesToRest r first polls) :
    ∀ q ∈ (motors (sent r first polls)).getLast?, q = (50, 49) := by
  obtain ⟨before, p, later, rfl, hrest, htime⟩ := h
  have hprev : ∀ later : List Reading, (∀ q ∈ later, q.Rests r) →
      (after r first (before ++ p :: later)).prevVrx = 50 ∧
        (after r first (before ++ p :: later)).prevVry = 49 := by
    intro later hlater
    induction later using List.reverseRecOn with
    | nil =>
      rw [after_concat]
      exact prev_poll_of_rests (prev_after r first before).1 (hrest p List.mem_cons_self) htime
    | append_singleton later q ih =>
      rw [← List.cons_append, ← List.append_assoc, after_concat]
      refine prev_poll_of_eq (ih fun q' hq' => ?_) ?_
      · exact hlater q' (List.mem_append_left _ hq')
      · exact hlater q List.mem_concat_self
  obtain ⟨hx, hy⟩ := hprev later fun q hq => hrest q (List.mem_cons_of_mem p hq)
  intro q hq
  rw [(prev_after r first (before ++ p :: later)).2 q hq, hx, hy]

end Controller

end Joystick

end VehicleStack
