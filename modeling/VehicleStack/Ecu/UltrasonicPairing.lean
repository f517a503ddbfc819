import VehicleStack.Ecu.Ultrasonic
import VehicleStack.Lib.Mealy
import Mathlib.Algebra.Ring.Parity
import Mathlib.Data.List.Chain

/-!
# Which edges make a distance

`Ultrasonic_ProcessQueue` keeps the time of the last rising edge between two turns of
its loop and between two calls, and takes the next falling edge it finds in the queue for
the end of that echo. Meanwhile the interrupt handler goes on pushing, and a full queue drops
its oldest edges. A run is any order of edges and turns of the loop
(`VehicleStack.Ecu.UltrasonicStep`); a call of the source is a run of turns
(`VehicleStack.Ecu.Ultrasonic.processQueue_eq_turns`).

What is in the queue is always the end of what came (`VehicleStack.Ecu.Traced`), and a
distance is made of a rising edge and of the first falling edge that is still in the queue
(`VehicleStack.Ecu.Pairs`). The main result is `VehicleStack.Ecu.Ultrasonic.published_of_kept`:
these are always neighbours, and every distance is that of one echo, exactly as long as no turn
finds that, since a rising edge was taken, the queue has dropped a positive even number of edges.
An even number is the falling edge of that echo and whole echoes after it
(`VehicleStack.Ecu.Traced.next_is_fall_iff`); after an odd number the next edge is a rising one,
which takes the place of the stale one.
-/

namespace VehicleStack

namespace Ecu

/-! ### Distances -/

/-- The longest time between the edges of an echo, in microseconds. -/
def echoTimeout : ℕ := 6000000

/-- **The distance of an echo**, in whole millimetres: `343 * (f - r) / 2000`. -/
theorem toInt_calculateDistance {r f : UInt64} (hle : r ≤ f)
    (hlt : f.toNat - r.toNat < echoTimeout) :
    (calculateDistance f r).toInt = (343 * (f.toNat - r.toNat) / 2000 : ℕ) := by
  obtain ⟨d, hd⟩ : ∃ d, d = f.toNat - r.toNat := ⟨_, rfl⟩
  rw [echoTimeout] at hlt
  have hsub : (f - r).toNat = d := by rw [UInt64.toNat_sub_of_le _ _ hle, hd]
  have htime : (f - r).toUInt32.toInt32.toInt = d := by
    change (f - r).toUInt32.toBitVec.toInt = d
    rw [BitVec.toInt_eq_toNat_of_lt]
    · change (((f - r).toUInt32.toNat : ℕ) : ℤ) = d
      rw [UInt64.toNat_toUInt32, hsub]
      omega
    · change 2 * (f - r).toUInt32.toNat < 2 ^ 32
      rw [UInt64.toNat_toUInt32, hsub]
      omega
  have hprod : ((f - r).toUInt32.toInt32 * 343).toInt = d * 343 := by
    rw [Int32.toInt_mul, htime]
    change Int.bmod (d * 343) _ = _
    exact Int.bmod_eq_of_le (by omega) (by omega)
  rw [calculateDistance, Int32.toInt_div, hprod, ← hd]
  change Int.bmod (Int.tdiv (d * 343) 2000) _ = _
  rw [Int.tdiv_eq_ediv_of_nonneg (by omega), Int.bmod_eq_of_le (by omega) (by omega)]
  omega

/-! ### Runs -/

namespace UltrasonicSensor

/-- One turn of the loop in `Ultrasonic_ProcessQueue`. -/
def turn (s : UltrasonicSensor) : UltrasonicSensor :=
  match s.rxQueue.pop with
  | none => s
  | some (evt, rxQueue) => consume { s with rxQueue := rxQueue } evt

/-- The measurement a turn publishes, if it comes to one. -/
def published (s : UltrasonicSensor) : Option UltrasonicData :=
  match s.rxQueue.pop with
  | none => none
  | some (evt, _) =>
    if evt.pinState = false ∧ 0 < s.lastRiseTime then some s.turn.latestData else none

theorem turn_of_none {s : UltrasonicSensor} (h : s.rxQueue.pop = none) : s.turn = s := by
  rw [turn, h]

theorem iterate_turn_of_none {s : UltrasonicSensor} (h : s.rxQueue.pop = none) (n : ℕ) :
    turn^[n] s = s :=
  Function.iterate_fixed (turn_of_none h) n

/-- The loop is as many turns as it is allowed. -/
theorem processEvents_eq_turns (n : ℕ) (s : UltrasonicSensor) : s.processEvents n = turn^[n] s := by
  induction n generalizing s with
  | zero => rfl
  | succ n ih =>
    rw [processEvents]
    split
    · next hpop => exact (iterate_turn_of_none hpop _).symm
    · next evt rxQueue hpop =>
      rw [ih, Function.iterate_succ_apply, turn, hpop]

end UltrasonicSensor

/-- What can happen to the module. -/
inductive UltrasonicStep where
  /-- An edge interrupts. -/
  | echo (side : UltrasonicSide) (inputPinState : Bool) (now : UInt64)
  /-- `Ultrasonic_ProcessQueue` takes the next edge of a sensor, if there is one. -/
  | turn (side : UltrasonicSide)

/-- The edges of a sensor. -/
def edges (side : UltrasonicSide) (steps : List UltrasonicStep) : List EruEvent :=
  steps.filterMap fun
    | .echo side' inputPinState now => if side' = side then some ⟨inputPinState, now⟩ else none
    | .turn _ => none

theorem edges_append (side : UltrasonicSide) (before later : List UltrasonicStep) :
    edges side (before ++ later) = edges side before ++ edges side later :=
  List.filterMap_append

namespace Ultrasonic

/-- One step, and the measurement it publishes. -/
def step (s : Ultrasonic) : UltrasonicStep → Ultrasonic × Option (UltrasonicSide × UltrasonicData)
  | .echo side inputPinState now => (s.echoHandler side inputPinState now, none)
  | .turn side =>
    ({ s with sensor := Function.update s.sensor side (s.sensor side).turn },
      (s.sensor side).published.map fun d => (side, d))

/-- The state after a run. -/
def after (s : Ultrasonic) (steps : List UltrasonicStep) : Ultrasonic := Mealy.final step s steps

/-- A measurement is published somewhere in a run. -/
def Publishes (s : Ultrasonic) (steps : List UltrasonicStep) (side : UltrasonicSide)
    (d : UltrasonicData) : Prop :=
  some (side, d) ∈ Mealy.outputs step s steps

theorem sensor_turn_self (s : Ultrasonic) (side : UltrasonicSide) :
    (s.step (.turn side)).1.sensor side = (s.sensor side).turn :=
  Function.update_self _ _ _

theorem sensor_turn_of_ne {side side' : UltrasonicSide} (h : side' ≠ side) (s : Ultrasonic) :
    (s.step (.turn side)).1.sensor side' = s.sensor side' :=
  Function.update_of_ne h _ _

theorem sensor_echo_of_ne {side side' : UltrasonicSide} (h : side' ≠ side) (s : Ultrasonic)
    (inputPinState : Bool) (now : UInt64) :
    (s.step (.echo side inputPinState now)).1.sensor side' = s.sensor side' :=
  Function.update_of_ne h _ _

/-- Turns for one sensor. -/
theorem after_turns (s : Ultrasonic) (side : UltrasonicSide) (n : ℕ) :
    s.after (List.replicate n (.turn side)) =
      { s with sensor := Function.update s.sensor side ((s.sensor side).processEvents n) } := by
  rw [UltrasonicSensor.processEvents_eq_turns]
  induction n generalizing s with
  | zero => exact congrArg (fun f => { s with sensor := f }) (Function.update_eq_self _ _).symm
  | succ n ih =>
    refine (ih _).trans ?_
    rw [sensor_turn_self, Function.iterate_succ_apply]
    exact congrArg (fun f => { s with sensor := f }) (Function.update_idem _ _ _)

/-- **A call of `Ultrasonic_ProcessQueue` is a run of turns.** -/
theorem processQueue_eq_turns (s : Ultrasonic) :
    s.processQueue = s.after
      (List.replicate s.maxEventsPerCall (.turn .left) ++
        List.replicate s.maxEventsPerCall (.turn .right) ++
        List.replicate s.maxEventsPerCall (.turn .rear)) := by
  rw [after, Mealy.final_append, Mealy.final_append]
  change _ = after (after (after s _) _) _
  rw [after_turns, after_turns, after_turns, processQueue]
  refine congrArg (fun f => { s with sensor := f }) (funext fun side => ?_)
  cases side <;> simp

end Ultrasonic

/-! ### What the edges are like -/

/-- The edges of one sensor alternate, in time, and an echo ends before the timeout. -/
structure EchoTrain (edges : List EruEvent) : Prop where
  alternating : edges.IsChain fun a b => a.pinState ≠ b.pinState
  nondecreasing : edges.IsChain fun a b => a.timestampUs ≤ b.timestampUs
  short : edges.IsChain fun a b =>
    a.pinState = true → b.timestampUs.toNat - a.timestampUs.toNat < echoTimeout

/-- A rising edge and the falling edge that follows it immediately. -/
def IsEcho (edges : List EruEvent) (r f : UInt64) : Prop := [⟨true, r⟩, ⟨false, f⟩] <:+: edges

/-- A measurement is that of an echo. -/
def UltrasonicData.Measures (d : UltrasonicData) (edges : List EruEvent) : Prop :=
  ∃ r f, IsEcho edges r f ∧ d.receivedTimeUs = r ∧
    d.distRawMm.toInt = (343 * (f.toNat - r.toNat) / 2000 : ℕ)

theorem UltrasonicData.Measures.append {d : UltrasonicData} {l : List EruEvent}
    (h : d.Measures l) (l' : List EruEvent) : d.Measures (l ++ l') := by
  obtain ⟨r, f, hecho, hd⟩ := h
  exact ⟨r, f, hecho.trans (List.prefix_append l l').isInfix, hd⟩

/-- Two edges, one behind the other. -/
theorem isEcho_of_neighbours {l : List EruEvent} {i : ℕ} {r f : UInt64}
    (hrise : l[i]? = some ⟨true, r⟩) (hfall : l[i + 1]? = some ⟨false, f⟩) : IsEcho l r f := by
  obtain ⟨hi, hr⟩ := List.getElem?_eq_some_iff.mp hrise
  obtain ⟨hi', hf⟩ := List.getElem?_eq_some_iff.mp hfall
  refine ⟨l.take i, l.drop (i + 2), ?_⟩
  rw [List.append_assoc, List.cons_append, List.singleton_append, ← hr, ← hf,
    ← List.drop_eq_getElem_cons hi', ← List.drop_eq_getElem_cons hi, List.take_append_drop]

theorem EchoTrain.of_append {l l' : List EruEvent} (h : EchoTrain (l ++ l')) : EchoTrain l where
  alternating := h.alternating.left_of_append
  nondecreasing := h.nondecreasing.left_of_append
  short := h.short.left_of_append

/-- Among edges that alternate, those with the same direction are an odd number of edges
apart. -/
theorem pinState_eq_iff {a e : EruEvent} {l : List EruEvent}
    (h : (a :: l ++ [e]).IsChain fun a b => a.pinState ≠ b.pinState) :
    e.pinState = a.pinState ↔ ¬ Even l.length := by
  induction l generalizing a with
  | nil =>
    have hne := (List.isChain_cons_cons.mp h).1
    exact ⟨fun heq => absurd heq.symm hne, fun hodd => absurd Even.zero hodd⟩
  | cons b l ih =>
    obtain ⟨hne, hrest⟩ := List.isChain_cons_cons.mp h
    have hb := ih hrest
    rw [List.length_cons, Nat.even_add_one, not_not, ← not_iff_not, ← hb]
    constructor
    · intro he
      cases hepin : e.pinState <;> cases hapin : a.pinState <;> cases hbpin : b.pinState <;>
        simp_all
    · intro he heq
      exact hne (heq.symm.trans he)

/-! ### What the queue has dropped -/

/-- How many edges a queue holds, and how many it has dropped since one was taken. -/
structure Backlog where
  length : ℕ := 0
  lost : ℕ := 0

/-- What a step does to the queue of `side`. -/
def Backlog.step (capacity : ℕ) (side : UltrasonicSide) (b : Backlog) : UltrasonicStep → Backlog
  | .echo side' _ _ =>
    if side' ≠ side then b
    else if b.length + 1 = capacity then { b with lost := b.lost + 1 }
    else { b with length := b.length + 1 }
  | .turn side' =>
    if side' ≠ side ∨ b.length = 0 then b else { length := b.length - 1, lost := 0 }

/-- What has become of the queue of `side` after a run. -/
def backlog (capacity : ℕ) (side : UltrasonicSide) (steps : List UltrasonicStep) : Backlog :=
  steps.foldl (Backlog.step capacity side) {}

/-- The edges of a sensor that are not in its queue any more are `gone`. If it is
waiting for the end of an echo, its rising edge is among them, and behind it are those that the
queue has dropped since, which it does only if it is full. -/
structure Traced (capacity : ℕ) (l : List EruEvent) (b : Backlog) (s : UltrasonicSensor) :
    Prop where
  capacity_eq : s.rxQueue.capacity = capacity
  length_eq : s.rxQueue.length = b.length
  full : 0 < b.lost → b.length + 1 = capacity
  room : 0 < s.lastRiseTime → 1 < capacity
  gone : ∃ gone, l = gone ++ s.rxQueue.contents ∧
    (0 < s.lastRiseTime → ∃ before dropped,
      gone = before ++ ⟨true, s.lastRiseTime⟩ :: dropped ∧ dropped.length = b.lost)

/-- A turn publishes a measurement of the edges number `i` and `j` of a sensor: the falling edge
that it takes now, and the rising edge that was taken last. Between them are those that the queue
has dropped since. -/
structure Pairs (s : UltrasonicSensor) (l : List EruEvent) (b : Backlog) (d : UltrasonicData)
    (i j : ℕ) : Prop where
  published : s.published = some d
  rise : l[i]? = some ⟨true, d.receivedTimeUs⟩
  fall : ∃ f, l[j]? = some ⟨false, f⟩ ∧ d.distRawMm = calculateDistance f d.receivedTimeUs
  queued : s.rxQueue.contents = l.drop j
  dropped : i + 1 + b.lost = j

/-- The measurement of neighbours is that of an echo. -/
theorem Pairs.measures {s : UltrasonicSensor} {l : List EruEvent} {b : Backlog}
    {d : UltrasonicData} {i : ℕ} (h : Pairs s l b d i (i + 1)) (htrain : EchoTrain l) :
    d.Measures l := by
  obtain ⟨f, hfall, hdist⟩ := h.fall
  have hecho := isEcho_of_neighbours h.rise hfall
  have htimes := List.IsChain.infix htrain.nondecreasing hecho
  have hle := (List.isChain_cons_cons.mp htimes).1
  have hlengths := List.IsChain.infix htrain.short hecho
  have hshort := (List.isChain_cons_cons.mp hlengths).1 rfl
  exact ⟨d.receivedTimeUs, f, hecho, rfl, hdist ▸ toInt_calculateDistance hle hshort⟩

/-- A turn publishes a measurement when it finds a falling edge. -/
theorem exists_fall_of_published {s : UltrasonicSensor} {d : UltrasonicData}
    (hd : s.published = some d) : 0 < s.lastRiseTime ∧
      ∃ e rest, s.rxQueue.contents = e :: rest ∧ e.pinState = false := by
  rcases hcontents : s.rxQueue.contents with - | ⟨e, rest⟩
  · rw [UltrasonicSensor.published, Ring.pop_of_nil hcontents] at hd
    cases hd
  rw [UltrasonicSensor.published, Ring.pop_of_cons hcontents] at hd
  obtain ⟨⟨hfall, hpos⟩, -⟩ := Option.ite_none_right_eq_some.mp hd
  exact ⟨hpos, e, rest, rfl, hfall⟩

namespace Traced

variable {capacity : ℕ} {l : List EruEvent} {b : Backlog} {s : UltrasonicSensor}

/-- An edge comes. -/
theorem echo (h : Traced capacity l b s) (e : EruEvent) {side : UltrasonicSide} :
    Traced capacity (l ++ [e]) (b.step capacity side (.echo side e.pinState e.timestampUs))
      { s with rxQueue := s.rxQueue.push e } := by
  obtain ⟨dropped, hsplit, hdropped⟩ := s.rxQueue.dropped_push e
  rw [h.capacity_eq, h.length_eq] at hdropped
  have hlen := s.rxQueue.length_push e
  rw [h.capacity_eq, h.length_eq] at hlen
  have hstep : b.step capacity side (.echo side e.pinState e.timestampUs) =
      { length := (s.rxQueue.push e).length, lost := b.lost + dropped.length } := by
    rw [Backlog.step, if_neg (not_not_intro rfl), hlen, hdropped]
    split <;> rfl
  obtain ⟨gone, hl, hwait⟩ := h.gone
  rw [hstep]
  refine ⟨h.capacity_eq, rfl, fun hlost => ?_, h.room, gone ++ dropped, ?_, fun hpos => ?_⟩
  · -- a queue that has dropped edges was full then, and has been since
    dsimp only at hlost ⊢
    rw [hlen]
    split
    · assumption
    · rename_i hfree
      rw [hdropped, if_neg hfree] at hlost
      exact absurd (h.full hlost) hfree
  · rw [hl, List.append_assoc, hsplit, List.append_assoc]
  · obtain ⟨before, lost, hgone, hlost⟩ := hwait hpos
    refine ⟨before, lost ++ dropped, ?_, ?_⟩
    · rw [hgone, List.append_assoc, List.cons_append]
    · rw [List.length_append, hlost]

/-- There is nothing to take. -/
theorem turn_of_nil (h : Traced capacity l b s) (hnil : s.rxQueue.contents = [])
    {side : UltrasonicSide} : Traced capacity l (b.step capacity side (.turn side)) s.turn := by
  have hzero : b.length = 0 := by
    rw [← h.length_eq, ← Ring.length_contents, hnil, List.length_nil]
  rw [UltrasonicSensor.turn_of_none (Ring.pop_of_nil hnil), Backlog.step, if_pos (Or.inr hzero)]
  exact h

/-- An edge is taken. -/
theorem turn_of_cons (h : Traced capacity l b s) {e : EruEvent} {rest : List EruEvent}
    (hcons : s.rxQueue.contents = e :: rest) {side : UltrasonicSide} :
    Traced capacity l (b.step capacity side (.turn side)) s.turn := by
  obtain ⟨hrest, -⟩ := Ring.contents_advance hcons
  have hlength : b.length = rest.length + 1 := by
    rw [← h.length_eq, ← Ring.length_contents, hcons, List.length_cons]
  have hstep : b.step capacity side (.turn side) = { length := rest.length, lost := 0 } := by
    rw [Backlog.step, if_neg (by rw [hlength]; simp), hlength, Nat.add_sub_cancel]
  have hturn : s.turn = UltrasonicSensor.consume { s with rxQueue := s.rxQueue.advance } e := by
    rw [UltrasonicSensor.turn, Ring.pop_of_cons hcons]
  have hqueue : s.turn.rxQueue = s.rxQueue.advance := by
    rw [hturn, UltrasonicSensor.consume]
    split
    · rfl
    · split <;> rfl
  obtain ⟨gone, hl, -⟩ := h.gone
  rw [hstep]
  have hroom : 1 < capacity := by
    have hlt := s.rxQueue.length_lt
    rw [h.length_eq, h.capacity_eq, hlength] at hlt
    omega
  refine ⟨?_, ?_, fun hlost => absurd hlost (Nat.lt_irrefl 0), fun _ => hroom, gone ++ [e], ?_,
    fun hpos => ⟨gone, [], ?_, rfl⟩⟩
  · rw [hqueue]
    exact h.capacity_eq
  · rw [hqueue, ← Ring.length_contents, hrest]
  · rw [hqueue, hrest, hl, hcons, List.append_assoc, List.singleton_append]
  · -- a time that is kept is that of the edge just taken
    have hrise : e.pinState = true ∧ s.turn.lastRiseTime = e.timestampUs := by
      rw [hturn, UltrasonicSensor.consume] at hpos ⊢
      by_cases hpin : e.pinState = true
      · exact ⟨hpin, by rw [if_pos hpin]⟩
      · rw [if_neg hpin] at hpos
        split at hpos <;> exact absurd hpos (UInt64.lt_irrefl _)
    obtain ⟨hpin, htime⟩ := hrise
    rw [htime, ← hpin]

/-- **What the queue drops decides what comes next**: after a rising edge was taken, the next
edge in the queue is a falling one exactly if the queue has dropped an even number of edges
since. -/
theorem next_is_fall_iff (h : Traced capacity l b s)
    (halternate : l.IsChain fun a b => a.pinState ≠ b.pinState) (hpos : 0 < s.lastRiseTime)
    {e : EruEvent} {rest : List EruEvent} (hcons : s.rxQueue.contents = e :: rest) :
    e.pinState = false ↔ Even b.lost := by
  obtain ⟨gone, hl, hwait⟩ := h.gone
  obtain ⟨before, dropped, hgone, hdropped⟩ := hwait hpos
  have hsplit : l = before ++ (⟨true, s.lastRiseTime⟩ :: dropped ++ [e]) ++ rest := by
    rw [hl, hgone, hcons]
    simp
  have hchain := halternate
  rw [hsplit] at hchain
  have heq := pinState_eq_iff hchain.left_of_append.right_of_append
  rw [hdropped] at heq
  rw [← not_iff_not, ← heq, Bool.not_eq_false]

/-- **What a turn makes a measurement of**: with the edges that have been dropped since a rising
edge was taken between it and the falling edge that is now taken. -/
theorem pairs (h : Traced capacity l b s) {d : UltrasonicData} (hd : s.published = some d) :
    ∃ i, Pairs s l b d i (i + 1 + b.lost) := by
  have hpublished := hd
  obtain ⟨hpos, e, rest, hcontents, hfall⟩ := exists_fall_of_published hd
  rw [UltrasonicSensor.published, Ring.pop_of_cons hcontents] at hd
  replace hd := (Option.ite_none_right_eq_some.mp hd).2
  have hturn : s.turn.latestData =
      { distRawMm := calculateDistance e.timestampUs s.lastRiseTime
        distFiltMm := s.turn.latestData.distFiltMm
        receivedTimeUs := s.lastRiseTime } := by
    rw [UltrasonicSensor.turn, Ring.pop_of_cons hcontents]
    simp only [UltrasonicSensor.consume, hfall, Bool.false_eq_true, ↓reduceIte, hpos]
  have htime : d.receivedTimeUs = s.lastRiseTime := by rw [← Option.some.inj hd, hturn]
  have hdist : d.distRawMm = calculateDistance e.timestampUs s.lastRiseTime := by
    rw [← Option.some.inj hd, hturn]
  obtain ⟨gone, hl, hwait⟩ := h.gone
  obtain ⟨before, dropped, hgone, hdropped⟩ := hwait hpos
  have hlength : gone.length = before.length + 1 + b.lost := by
    rw [hgone, List.length_append, List.length_cons, hdropped]
    omega
  refine ⟨before.length, hpublished, ?_, ⟨e.timestampUs, ?_, ?_⟩, ?_, rfl⟩
  · rw [htime, hl, hgone, List.append_assoc, List.getElem?_append_right (Nat.le_refl _),
      Nat.sub_self]
    rfl
  · rw [← hlength, hl, List.getElem?_append_right (Nat.le_refl _), Nat.sub_self, hcontents,
      List.getElem?_cons_zero, ← hfall]
  · rw [htime, hdist]
  · rw [← hlength, hl, List.drop_left' rfl]

/-- A sensor that waits for the end of an echo, and has dropped edges since it began, has another
one to take. -/
theorem contents_ne_nil (h : Traced capacity l b s) (hpos : 0 < s.lastRiseTime)
    (hlost : 0 < b.lost) : s.rxQueue.contents ≠ [] := by
  intro hnil
  have hzero : b.length = 0 := by
    rw [← h.length_eq, ← Ring.length_contents, hnil, List.length_nil]
  have hfull := h.full hlost
  have hroom := h.room hpos
  omega

/-- **When neighbours are paired**, whatever the next turn finds: the queue has dropped no edge
since a rising one was taken, or an odd number. -/
theorem neighbours_iff (h : Traced capacity l b s)
    (halternate : l.IsChain fun a b => a.pinState ≠ b.pinState) :
    (∀ d, s.published = some d → ∃ i, Pairs s l b d i (i + 1)) ↔
      (0 < s.lastRiseTime → b.lost = 0 ∨ Odd b.lost) := by
  constructor
  · intro hneighbours hpos
    rcases Nat.even_or_odd b.lost with heven | hodd
    · -- behind a positive even number a falling edge is next, and it is paired over what is gone
      refine Or.inl (Nat.eq_zero_of_not_pos fun hlost => ?_)
      obtain ⟨e, rest, hcons⟩ := List.exists_cons_of_ne_nil (h.contents_ne_nil hpos hlost)
      have hfall := (h.next_is_fall_iff halternate hpos hcons).mpr heven
      obtain ⟨d, hd⟩ : ∃ d, s.published = some d := by
        rw [UltrasonicSensor.published, Ring.pop_of_cons hcons]
        exact ⟨_, if_pos ⟨hfall, hpos⟩⟩
      obtain ⟨i, hpairs⟩ := hneighbours d hd
      have hdropped := hpairs.dropped
      omega
    · exact Or.inr hodd
  · -- a measurement takes a falling edge, so the number dropped before it is even: it is zero
    intro hkept d hd
    obtain ⟨i, hpairs⟩ := h.pairs hd
    obtain ⟨hpos, e, rest, hcons, hfall⟩ := exists_fall_of_published hd
    have heven := (h.next_is_fall_iff halternate hpos hcons).mp hfall
    have hnone : b.lost = 0 := (hkept hpos).resolve_right fun hodd =>
      Nat.not_even_iff_odd.mpr hodd heven
    rw [hnone, Nat.add_zero] at hpairs
    exact ⟨i, hpairs⟩

end Traced

/-! ### Every run -/

namespace Ultrasonic

variable {capacity maxEvents : ℕ} (hpos : 0 < capacity)

/-- In every run every queue is traced. -/
theorem traced_after (steps : List UltrasonicStep) (side : UltrasonicSide) :
    Traced capacity (edges side steps) (backlog capacity side steps)
      (((start capacity maxEvents hpos).after steps).sensor side) := by
  induction steps using List.reverseRecOn with
  | nil =>
    refine ⟨rfl, Ring.length_eq_zero_iff.mpr rfl, fun h => absurd h (Nat.lt_irrefl 0),
      fun h => absurd h (UInt64.lt_irrefl _), [], ?_, fun h => absurd h (UInt64.lt_irrefl _)⟩
    exact (Ring.contents_init _ capacity hpos).symm
  | append_singleton steps i ih =>
    have hbacklog : backlog capacity side (steps ++ [i]) =
        (backlog capacity side steps).step capacity side i := List.foldl_concat _ _ _ _
    rw [after, Mealy.final_concat, edges_append, hbacklog]
    cases i with
    | echo side' inputPinState now =>
      by_cases hside : side' = side
      · subst hside
        have hone : edges side' [.echo side' inputPinState now] = [⟨inputPinState, now⟩] := by
          simp [edges]
        rw [hone]
        have hsensor : ((((start capacity maxEvents hpos).after steps).step
            (.echo side' inputPinState now)).1.sensor side') = _ := Function.update_self _ _ _
        rw [after] at hsensor
        rw [hsensor]
        exact ih.echo ⟨inputPinState, now⟩
      · have hnone : edges side [.echo side' inputPinState now] = [] := by simp [edges, hside]
        rw [hnone, List.append_nil, Backlog.step, if_pos hside,
          sensor_echo_of_ne (Ne.symm hside)]
        exact ih
    | turn side' =>
      have hnone : edges side [.turn side'] = [] := rfl
      rw [hnone, List.append_nil]
      by_cases hside : side' = side
      · subst hside
        rw [sensor_turn_self]
        rcases hcontents : (((start capacity maxEvents hpos).after steps).sensor
            side').rxQueue.contents with - | ⟨e, rest⟩
        · exact ih.turn_of_nil hcontents
        · exact ih.turn_of_cons hcontents
      · rw [sensor_turn_of_ne (Ne.symm hside), Backlog.step, if_pos (Or.inl hside)]
        exact ih

/-- Whenever a turn comes for a sensor that is waiting for the end of an echo, its queue has
since dropped no edge, or an odd number. -/
def Kept (s : Ultrasonic) (capacity : ℕ) (steps : List UltrasonicStep) : Prop :=
  ∀ before side later, steps = before ++ .turn side :: later →
    0 < ((s.after before).sensor side).lastRiseTime →
      (backlog capacity side before).lost = 0 ∨ Odd (backlog capacity side before).lost

/-- Whenever a turn publishes a measurement, it is of a rising edge and the edge behind it. -/
def PairsNeighbours (s : Ultrasonic) (capacity : ℕ) (steps : List UltrasonicStep) : Prop :=
  ∀ before side later, steps = before ++ .turn side :: later →
    ∀ d, ((s.after before).sensor side).published = some d →
      ∃ i, Pairs ((s.after before).sensor side) (edges side before) (backlog capacity side before) d
        i (i + 1)

/-- **Which falling edge ends a rising one**: the one behind it, in every turn, exactly if the
queues have been kept from dropping a positive even number of edges behind a rising edge that was
taken. -/
theorem pairsNeighbours_iff_kept {steps : List UltrasonicStep}
    (htrains : ∀ side, EchoTrain (edges side steps)) :
    (start capacity maxEvents hpos).PairsNeighbours capacity steps ↔
      (start capacity maxEvents hpos).Kept capacity steps := by
  have halternate : ∀ before side later, steps = before ++ UltrasonicStep.turn side :: later →
      (edges side before).IsChain fun a b => a.pinState ≠ b.pinState := by
    rintro before side later rfl
    exact (edges_append side before _ ▸ htrains side).of_append.alternating
  constructor
  · intro hneighbours before side later hsplit
    exact ((traced_after hpos before side).neighbours_iff
      (halternate before side later hsplit)).mp (hneighbours before side later hsplit)
  · intro hkept before side later hsplit
    exact ((traced_after hpos before side).neighbours_iff
      (halternate before side later hsplit)).mpr (hkept before side later hsplit)

/-- **Distances are those of echoes**: for every capacity and every order of edges and turns, a
rising edge is always ended by the falling edge that follows it immediately exactly if the queues
have been kept from dropping a positive even number of edges behind a rising edge that was taken,
and then every measurement that is published has the time of a rising edge and the distance of the
echo that it begins. -/
theorem published_of_kept {steps : List UltrasonicStep}
    (htrains : ∀ side, EchoTrain (edges side steps)) :
    ((start capacity maxEvents hpos).PairsNeighbours capacity steps ↔
      (start capacity maxEvents hpos).Kept capacity steps) ∧
    ((start capacity maxEvents hpos).Kept capacity steps →
      ∀ side d, (start capacity maxEvents hpos).Publishes steps side d →
        d.Measures (edges side steps)) := by
  have hiff := @pairsNeighbours_iff_kept capacity maxEvents hpos steps htrains
  refine ⟨hiff, fun hkept side d hd => ?_⟩
  obtain ⟨before, i, later, rfl, hi⟩ := Mealy.mem_outputs step hd
  cases i with
  | echo side' inputPinState now => cases hi
  | turn side' =>
    obtain ⟨d', hd', heq⟩ := Option.map_eq_some_iff.mp hi.symm
    obtain ⟨rfl, rfl⟩ := Prod.mk.inj heq
    obtain ⟨i, hpairs⟩ := hiff.mpr hkept before side' later rfl d' hd'
    have htrain := htrains side'
    rw [edges_append] at htrain ⊢
    exact (hpairs.measures htrain.of_append).append _

/-- Two echoes, the first of which is lost in part. -/
def lostEcho : List UltrasonicStep :=
  [.echo .left true 1000, .turn .left, .echo .left false 2000, .echo .left true 60000, .turn .left,
    .echo .left false 63000, .turn .left]

/-- The distance that is published is that of the second. -/
theorem lostEcho_measured : (⟨514, 514, 60000⟩ : UltrasonicData).Measures
    (edges .left lostEcho) := by
  refine (@published_of_kept 2 1 (by decide) _ (fun side => ?_)).2
    (fun before side later hsplit hwait => ?_) .left _ ?_
  · cases side
    · exact ⟨by decide, by decide, by decide⟩
    · exact ⟨List.isChain_nil, List.isChain_nil, List.isChain_nil⟩
    · exact ⟨List.isChain_nil, List.isChain_nil, List.isChain_nil⟩
  · rcases before with - | ⟨a, - | ⟨b, - | ⟨c, - | ⟨d, - | ⟨e, - | ⟨f, - | ⟨g, before⟩⟩⟩⟩⟩⟩⟩
    case cons.cons.cons.cons.cons.cons.cons =>
      have hlen := congrArg List.length hsplit
      simp [lostEcho] at hlen
    all_goals cases hsplit
    · exact absurd hwait (by decide +kernel)
    · exact Or.inr (by decide +kernel)
    · exact Or.inl (by decide +kernel)
  · rw [Publishes]
    decide +kernel

/-- Two echoes, the first of which is taken up before it ends. -/
def overtakenEcho : List UltrasonicStep :=
  [.echo .left true 1000, .turn .left, .echo .left false 2000, .echo .left true 60000,
    .echo .left false 63000, .turn .left]

theorem edges_overtakenEcho : edges .left overtakenEcho =
    [⟨true, 1000⟩, ⟨false, 2000⟩, ⟨true, 60000⟩, ⟨false, 63000⟩] := rfl

theorem echoTrain_overtakenEcho (side : UltrasonicSide) : EchoTrain (edges side overtakenEcho) := by
  cases side
  · exact ⟨by decide, by decide, by decide⟩
  · exact ⟨List.isChain_nil, List.isChain_nil, List.isChain_nil⟩
  · exact ⟨List.isChain_nil, List.isChain_nil, List.isChain_nil⟩

/-- Its rising edge is paired with the falling edge of the second echo, as the queue has room for
one edge only: a distance of ten metres is published, where both echoes are of less than
one. -/
theorem overtakenEcho_mispaired :
    (∀ side, EchoTrain (edges side overtakenEcho)) ∧
      ∃ d, (start 2 1 (by decide)).Publishes overtakenEcho .left d ∧
        ¬ d.Measures (edges .left overtakenEcho) := by
  refine ⟨echoTrain_overtakenEcho, ⟨10633, 10633, 1000⟩, ?_, ?_⟩
  · rw [Publishes]
    decide +kernel
  · rintro ⟨r, f, hecho, hr, hdist⟩
    rw [edges_overtakenEcho] at hecho
    obtain rfl : r = 1000 := hr.symm
    -- what follows the edge at 1000 is the falling edge at 2000
    obtain ⟨before, later, hsplit⟩ := hecho
    rcases before with - | ⟨a, - | ⟨b, - | ⟨c, before⟩⟩⟩
    · cases hsplit
      exact absurd hdist (by decide)
    · cases hsplit
    · cases hsplit
    · have hlen := congrArg List.length hsplit
      simp at hlen
      omega

end Ultrasonic

end Ecu

end VehicleStack
