import VehicleStack.Lib.Unwinding
import VehicleStack.Readers.Callback
import VehicleStack.Readers.DiagnosticRead

/-!
# Two readers of the sensors

The ultrasonic sensors and the time-of-flight sensor hand a measurement on once, and two
callers ask for it: the callback of Service 1 and the diagnostic service `0x22`. The
callback keeps a copy of the last measurement it got and goes on sending that; the
diagnostic service takes a measurement that is not there for a failure of the sensor, says
so in its answer and stores a trouble code.

The question is whether one reader notices the other. A run is any sequence of edges and
bytes from the sensors, calls of the two loops that process them, datagrams for Service 1
and diagnostic reads (`VehicleStack.Readers.Event`), and it is compared with the run without the
datagrams and with the run without the reads. The main result is
`VehicleStack.Readers.undisturbed_iff`: the readers do not notice each other in exactly those runs
in which no diagnostic read comes for a measurement that the callback took, and no datagram
asks for one that a diagnostic read took, unless it is what the callback keeps anyhow.
-/

namespace VehicleStack

namespace Readers

open Ecu Client

/-! ### Runs -/

/-- The ECU with its two readers: the diagnostic services are in the state of the ECU. -/
structure Node where
  ecu : EcuState
  service1 : Service1 := {}

/-- The sensors of a node. -/
def Node.sensors (s : Node) : Sensors := s.ecu.sensors

/-- What happens to a node. -/
inductive Event where
  /-- Something at the sensors. -/
  | sense (e : SensorEvent)
  /-- A datagram for Service 1; `pr` is what the photoresistor measures. -/
  | datagram (beyond : ℕ → UInt8) (pr : PRData) (payload : List UInt8)
  /-- A diagnostic read of a sensor. -/
  | read (r : SensorRead)

/-- What a reader gets to see: a reply, if any, and frames. -/
structure Response where
  reply : Option (List UInt8) := none
  frames : List Frame := []
  deriving DecidableEq

/-- One event. -/
def Node.step (s : Node) : Event → Node × Response
  | .sense e => ({ s with ecu := s.ecu.withSensors (s.sensors.step e) }, {})
  | .datagram beyond pr payload =>
    let r := s.service1.callback beyond pr s.sensors payload
    ({ ecu := s.ecu.withSensors r.1.2, service1 := r.1.1 }, { reply := r.2 })
  | .read r => ({ s with ecu := (r.serve s.ecu).1 }, { frames := (r.serve s.ecu).2 })

/-- The two readers. -/
inductive Reader where
  | service1
  | uds
  deriving DecidableEq

/-- The other one. -/
def Reader.other : Reader → Reader
  | service1 => uds
  | uds => service1

/-- The event is one of the reader. -/
def Event.IsOf : Reader → Event → Prop
  | .service1, .datagram _ _ _ => True
  | .uds, .read _ => True
  | _, _ => False

instance : (r : Reader) → DecidablePred (Event.IsOf r)
  | .service1, .datagram _ _ _ => isTrue trivial
  | .service1, .sense _ => isFalse id
  | .service1, .read _ => isFalse id
  | .uds, .read _ => isTrue trivial
  | .uds, .sense _ => isFalse id
  | .uds, .datagram _ _ _ => isFalse id

/-- The reader asks a sensor with the event. -/
def Event.asksOf : Reader → Event → SensorId → Bool
  | .service1, .datagram _ _ payload => asks payload
  | .uds, .read r => fun k => decide (k = r.sensor)
  | _, _ => fun _ => false

/-- The measurements that a reader has missed after an event, by those it had missed before:
the other one took them, they have not been replaced by new ones since, and the reader
itself has not asked since. -/
def missed (r : Reader) (before : SensorId → Bool) (s : Node) (e : Event) (k : SensorId) : Bool :=
  ((before k && !e.asksOf r k) || (e.asksOf r.other k && s.sensors.ready k)) &&
    !(s.step e).1.sensors.ready k

/-- What an event must be like so that its reader does not notice the other one: a diagnostic
read is for a measurement that it has not missed; a datagram may also ask for one it has
missed, if that is the one the callback keeps anyhow. -/
def Unnoticed : Reader → (SensorId → Bool) → Node → Event → Prop
  | .uds, missed, _, e => ∀ k, e.asksOf .uds k = true → missed k = false
  | .service1, missed, s, e => ∀ k, e.asksOf .service1 k = true → missed k = true →
      s.sensors.latest k = s.service1.copy k

/-- The responses a reader gets in a run. -/
def responses (r : Reader) (s : Node) (events : List Event) : List Response :=
  Unwinding.seen Node.step (Event.IsOf r) s events

/-- A run without the events of the other reader. -/
def alone (r : Reader) (events : List Event) : List Event :=
  events.filter fun e => ¬ e.IsOf r.other

/-- The readers do not notice each other in a run: the diagnostic responses and the trouble
codes in the end are those of the run without the datagrams, and the replies are those of
the run without the diagnostic reads. -/
structure Undisturbed (s : Node) (events : List Event) : Prop where
  uds : responses .uds s events = responses .uds s (alone .uds events)
  dtcs : (Mealy.final Node.step s events).ecu.diag.dtcs =
    (Mealy.final Node.step s (alone .uds events)).ecu.diag.dtcs
  service1 : responses .service1 s events = responses .service1 s (alone .service1 events)

/-! ### One step -/

namespace Node

theorem step_datagram (s : Node) (beyond : ℕ → UInt8) (pr : PRData) (payload : List UInt8) :
    s.step (.datagram beyond pr payload) =
      ({ ecu := s.ecu.withSensors (s.sensors.asked (asks payload))
         service1 := (s.service1.photo payload pr).absorb (asks payload) s.sensors },
        { reply := ((s.service1.photo payload pr).absorb (asks payload) s.sensors).replyTo beyond
            payload }) := by
  rw [step]
  simp only [Service1.callback_eq]

theorem step_read (s : Node) (r : SensorRead) : s.step (.read r) =
    ({ s with
        ecu :=
          { s.ecu.withSensors (s.sensors.asked fun k => k = r.sensor) with
            diag := (s.ecu.diag.answerRead (s.ecu.senVal r.sensor) r.sensor).1 } },
      { frames := (s.ecu.diag.answerRead (s.ecu.senVal r.sensor) r.sensor).2 }) := by
  rw [step]
  simp only [SensorRead.serve_eq]
  rfl

end Node

/-- What a reader's own variables hold is the same. -/
def Reader.SameOwn : Reader → Node → Node → Prop
  | .uds, s, t => t.ecu.diag = s.ecu.diag
  | .service1, s, t => t.service1 = s.service1

/-- The states of a run and of the run without the events of the other reader: only what was
missed is still there in the second. -/
structure Twin (r : Reader) (missed : SensorId → Bool) (s t : Node) : Prop where
  sensors : t.sensors = s.sensors.restore missed
  own : r.SameOwn s t
  not_ready : ∀ k, missed k = true → s.sensors.ready k = false

theorem Twin.refl (r : Reader) (s : Node) : Twin r (fun _ => false) s s where
  sensors := s.sensors.restore_false.symm
  own := by cases r <;> rfl
  not_ready := fun k h => absurd h Bool.false_ne_true

section Steps

variable {r : Reader} {m : SensorId → Bool} {s t : Node} {e : Event}

/-- An event that asks for nothing does not let its reader notice anything. -/
theorem unnoticed_of_asksOf_eq (h : e.asksOf r = fun _ => false) : Unnoticed r m s e := by
  cases r with
  | service1 =>
    intro k hk
    rw [h] at hk
    cases hk
  | uds =>
    intro k hk
    rw [h] at hk
    cases hk

/-- What has been missed after an event is not there. -/
theorem ready_of_missed {k : SensorId} (h : missed r m s e k = true) :
    (s.step e).1.sensors.ready k = false := by
  rw [missed, Bool.and_eq_true, Bool.not_eq_true'] at h
  exact h.2

/-- What the sensors do is the same with what was missed. -/
theorem Twin.sensors_sense (h : Twin r m s t) (e : SensorEvent) :
    (t.step (.sense e)).1.sensors =
      (s.step (.sense e)).1.sensors.restore (missed r m s (.sense e)) := by
  have hmissed : missed r m s (.sense e) = fun k => m k && !(s.sensors.step e).ready k := by
    funext k
    cases r <;> simp [missed, Event.asksOf] <;> rfl
  rw [hmissed]
  change t.sensors.step e = (s.sensors.step e).restore _
  rw [Sensors.restore_ready, ← Sensors.step_restore, h.sensors]

/-- A reader that asks has missed nothing of what it asks for. -/
theorem Twin.sensors_own (h : Twin r m s t) (asks : SensorId → Bool)
    (hs : (s.step e).1.sensors = s.sensors.asked asks)
    (ht : (t.step e).1.sensors = t.sensors.asked asks)
    (hown : e.asksOf r = asks) (hother : e.asksOf r.other = fun _ => false) :
    (t.step e).1.sensors = (s.step e).1.sensors.restore (missed r m s e) := by
  have hmissed : missed r m s e =
      fun k => (m k && !asks k) && !(s.sensors.asked asks).ready k := by
    funext k
    rw [missed, hown, hother, hs, Bool.false_and, Bool.or_false]
  rw [hmissed, hs, ht, Sensors.restore_ready, h.sensors, Sensors.asked_restore]

/-- What the other reader takes is missed. -/
theorem Twin.sensors_other (h : Twin r m s t) (asks : SensorId → Bool)
    (hs : (s.step e).1.sensors = s.sensors.asked asks)
    (hown : e.asksOf r = fun _ => false) (hother : e.asksOf r.other = asks) :
    t.sensors = (s.step e).1.sensors.restore (missed r m s e) := by
  have hmissed : missed r m s e =
      fun k => (m k || (asks k && s.sensors.ready k)) && !(s.sensors.asked asks).ready k := by
    funext k
    rw [missed, hown, hother, hs, Bool.not_false, Bool.and_true]
  rw [hmissed, hs, Sensors.restore_ready, Sensors.restore_asked, h.sensors]

end Steps

/-! ### The diagnostic reader -/

theorem Twin.senVal {m : SensorId → Bool} {s t : Node} (h : Twin .uds m s t) {k : SensorId}
    (hk : m k = false) : t.ecu.senVal k = s.ecu.senVal k := by
  have hready : t.ecu.sensors.ready k = s.ecu.sensors.ready k := by
    change t.sensors.ready k = _
    rw [h.sensors, Sensors.ready_restore, hk, Bool.or_false]
    rfl
  have hlatest : t.ecu.sensors.latest k = s.ecu.sensors.latest k := by
    change t.sensors.latest k = _
    rw [h.sensors, Sensors.latest_restore]
    rfl
  rw [EcuState.senVal, EcuState.senVal, hready, hlatest]

/-- A read of a measurement that was not missed is answered as it would be anyhow. -/
theorem Twin.answerRead {m : SensorId → Bool} {s t : Node} (h : Twin .uds m s t) {k : SensorId}
    (hk : m k = false) : t.ecu.diag.answerRead (t.ecu.senVal k) k =
      s.ecu.diag.answerRead (s.ecu.senVal k) k := by
  have hdiag : t.ecu.diag = s.ecu.diag := h.own
  rw [hdiag, h.senVal hk]

/-- A read of a measurement that was missed fails, where it would have got it. -/
theorem Twin.senVal_missed {m : SensorId → Bool} {s t : Node} (h : Twin .uds m s t)
    {k : SensorId} (hk : m k = true) :
    s.ecu.senVal k = none ∧ t.ecu.senVal k = some (s.sensors.latest k).senVal := by
  have hready : t.ecu.sensors.ready k = true := by
    change t.sensors.ready k = true
    rw [h.sensors, Sensors.ready_restore, hk, Bool.or_true]
  have hlatest : t.ecu.sensors.latest k = s.sensors.latest k := by
    change t.sensors.latest k = _
    rw [h.sensors, Sensors.latest_restore]
  have hgone : s.ecu.sensors.ready k = false := h.not_ready k hk
  rw [EcuState.senVal, EcuState.senVal, hready, hlatest, hgone]
  exact ⟨rfl, rfl⟩

/-- **The diagnostic reader** notices a datagram exactly by a read for what it has missed. -/
theorem unwinding_uds : Unwinding Node.step (Event.IsOf .service1) (Event.IsOf .uds)
    (missed .uds) (Unnoticed .uds) (Twin .uds) where
  not_gone := by
    intro e hshown hgone
    cases e with
    | sense e => exact hshown
    | datagram beyond pr payload => exact hshown
    | read r => exact hgone
  skip := by
    intro m s t e h hgone
    cases e with
    | sense e => exact absurd hgone id
    | datagram beyond pr payload =>
      refine ⟨h.sensors_other (asks payload) ?_ rfl rfl, ?_, fun k => ready_of_missed⟩
      · rw [Node.step_datagram]
        rfl
      · rw [Node.step_datagram]
        exact h.own
    | read r => exact absurd hgone id
  keep := by
    intro m s t e h hkept hok
    cases e with
    | sense e => exact ⟨h.sensors_sense e, h.own, fun k => ready_of_missed⟩
    | datagram beyond pr payload => exact absurd trivial hkept
    | read r =>
      have hread : m r.sensor = false := hok r.sensor (decide_eq_true rfl)
      refine ⟨h.sensors_own (fun k => k = r.sensor) ?_ ?_ rfl rfl, ?_, fun k => ready_of_missed⟩
      · rw [Node.step_read]
        rfl
      · rw [Node.step_read]
        rfl
      · rw [Node.step_read, Node.step_read, h.answerRead hread]
        rfl
  same := by
    intro m s t e h hshown hok
    cases e with
    | sense e => exact absurd hshown id
    | datagram beyond pr payload => exact absurd hshown id
    | read r =>
      have hread : m r.sensor = false := hok r.sensor (decide_eq_true rfl)
      rw [Node.step_read, Node.step_read, h.answerRead hread]
  differs := by
    intro m s t e h hbad
    cases e with
    | sense e => exact absurd (unnoticed_of_asksOf_eq rfl) hbad
    | datagram beyond pr payload => exact absurd (unnoticed_of_asksOf_eq rfl) hbad
    | read r =>
      -- the read is for a measurement that was missed, and fails
      have hread : m r.sensor = true := by
        by_contra hread
        refine hbad fun k hk => ?_
        obtain rfl := of_decide_eq_true hk
        exact eq_false_of_ne_true hread
      have hdiag : t.ecu.diag = s.ecu.diag := h.own
      obtain ⟨hnone, hsome⟩ := h.senVal_missed hread
      refine ⟨trivial, fun heq => ?_⟩
      have hframes := congrArg Response.frames heq
      rw [Node.step_read, Node.step_read, hnone, hsome, hdiag] at hframes
      exact Diagnostics.answerRead_none_ne _ _ _ hframes

/-! ### Service 1 -/

/-- The copies are the same, if what was missed of what is asked for is what is kept. -/
theorem absorb_restore {asks m : SensorId → Bool} {x : Sensors} {c : Service1}
    (h : ∀ k, asks k = true → m k = true → x.latest k = c.copy k) :
    c.absorb asks (x.restore m) = c.absorb asks x := by
  have htake : ∀ {α : Type} (a r b : Bool) (latest kept : α),
      (a = true → b = true → latest = kept) →
      (if a && (r || b) then latest else kept) = if a && r then latest else kept := by
    intro α a r b latest kept heq
    cases a <;> cases r <;> cases b <;> first | rfl | exact heq rfl rfl
  rw [Service1.absorb, Service1.absorb, Sensors.ready_restore]
  congr 1
  · exact htake _ _ _ _ _ fun ha hm => Reading.tof.inj (h .tof ha hm)
  · funext side
    rw [Sensors.ready_restore]
    exact htake _ _ _ _ _ fun ha hm => Reading.ultrasonic.inj (h (.ultrasonic side) ha hm)

theorem copy_absorb (asks : SensorId → Bool) (x : Sensors) (c : Service1) (k : SensorId) :
    (c.absorb asks x).copy k = if asks k && x.ready k then x.latest k else c.copy k := by
  cases k with
  | ultrasonic side => exact apply_ite Reading.ultrasonic _ _ _
  | tof => exact apply_ite Reading.tof _ _ _

theorem copy_photo (payload : List UInt8) (pr : PRData) (c : Service1) :
    (c.photo payload pr).copy = c.copy := by
  rw [Service1.photo]
  split
  · funext k
    cases k <;> rfl
  · rfl

/-- The copies after a datagram are the same, if what was missed of what is asked for is what
is kept. -/
theorem Twin.absorb {m : SensorId → Bool} {s t : Node} (h : Twin .service1 m s t)
    {payload : List UInt8} (hok : ∀ k, asks payload k = true → m k = true →
      s.sensors.latest k = s.service1.copy k) (pr : PRData) :
    (t.service1.photo payload pr).absorb (asks payload) t.sensors =
      (s.service1.photo payload pr).absorb (asks payload) s.sensors := by
  have hown : t.service1 = s.service1 := h.own
  rw [hown, h.sensors]
  refine absorb_restore ?_
  rw [copy_photo]
  exact hok

/-- Replies from different copies of what is asked for are different. -/
theorem replyTo_ne {beyond : ℕ → UInt8} {payload : List UInt8} {c c' : Service1} {k : SensorId}
    (hk : asks payload k = true) (hne : c.copy k ≠ c'.copy k) :
    c.replyTo beyond payload ≠ c'.replyTo beyond payload := by
  intro heq
  cases k with
  | tof =>
    have htof : IsRequest 0x0100 0x0102 payload := of_decide_eq_true hk
    rw [Service1.replyTo_tof htof, Service1.replyTo_tof htof] at heq
    have hsent : ∀ c : Service1, (Record.tof c.tofLatestData).Representable := fun _ => trivial
    have hdata := serialize_injective (hsent c) (hsent c') rfl
      (data_eq_of_reply_eq (Option.some.inj heq))
    exact hne (congrArg Reading.tof (Record.tof.inj hdata))
  | ultrasonic side =>
    have hultrasonic : IsRequest 0x0100 0x0103 payload := of_decide_eq_true hk
    rw [Service1.replyTo_ultrasonic hultrasonic, Service1.replyTo_ultrasonic hultrasonic] at heq
    have hserialize : ∀ c : Service1,
        (Record.ult (UltrasonicSide.all.map c.ultLatestData)).serialize =
          UInt8.ofNat UltrasonicSide.all.length ::
            UltrasonicSide.all.flatMap fun side =>
              serializeUltrasonicData (c.ultLatestData side) := by
      intro c
      rw [Record.serialize, List.length_map, List.flatMap_map]
    have hcount : ∀ c : Service1,
        (Record.ult (UltrasonicSide.all.map c.ultLatestData)).Representable := by
      intro c
      change (UltrasonicSide.all.map c.ultLatestData).length < 256
      rw [List.length_map]
      decide
    have hdata := serialize_injective (hcount c) (hcount c') rfl
      ((hserialize c).trans ((data_eq_of_reply_eq (Option.some.inj heq)).trans
        (hserialize c').symm))
    have hside := List.map_inj_left.mp (Record.ult.inj hdata) side (UltrasonicSide.mem_all side)
    exact hne (congrArg Reading.ultrasonic hside)

/-- **Service 1** notices a diagnostic read exactly by a request for what it has missed and
does not keep anyhow. -/
theorem unwinding_service1 : Unwinding Node.step (Event.IsOf .uds) (Event.IsOf .service1)
    (missed .service1) (Unnoticed .service1) (Twin .service1) where
  not_gone := by
    intro e hshown hgone
    cases e with
    | sense e => exact hshown
    | datagram beyond pr payload => exact hgone
    | read r => exact hshown
  skip := by
    intro m s t e h hgone
    cases e with
    | sense e => exact absurd hgone id
    | datagram beyond pr payload => exact absurd hgone id
    | read r =>
      refine ⟨h.sensors_other (fun k => k = r.sensor) ?_ rfl rfl, ?_, fun k => ready_of_missed⟩
      · rw [Node.step_read]
        rfl
      · rw [Node.step_read]
        exact h.own
  keep := by
    intro m s t e h hkept hok
    cases e with
    | sense e => exact ⟨h.sensors_sense e, h.own, fun k => ready_of_missed⟩
    | datagram beyond pr payload =>
      refine ⟨h.sensors_own (asks payload) ?_ ?_ rfl rfl, ?_, fun k => ready_of_missed⟩
      · rw [Node.step_datagram]
        rfl
      · rw [Node.step_datagram]
        rfl
      · rw [Node.step_datagram, Node.step_datagram]
        exact h.absorb hok pr
    | read r => exact absurd trivial hkept
  same := by
    intro m s t e h hshown hok
    cases e with
    | sense e => exact absurd hshown id
    | datagram beyond pr payload =>
      rw [Node.step_datagram, Node.step_datagram, h.absorb hok pr]
    | read r => exact absurd hshown id
  differs := by
    intro m s t e h hbad
    cases e with
    | sense e => exact absurd (unnoticed_of_asksOf_eq rfl) hbad
    | datagram beyond pr payload =>
      simp only [Unnoticed, not_forall] at hbad
      obtain ⟨k, hk, hm, hne⟩ := hbad
      have hk : asks payload k = true := hk
      have hown : t.service1 = s.service1 := h.own
      -- the copy stays as it is, where it would be the measurement that was missed
      have hkept : ((s.service1.photo payload pr).absorb (asks payload) s.sensors).copy k =
          s.service1.copy k := by
        rw [copy_absorb, h.not_ready k hm, Bool.and_false, if_neg Bool.false_ne_true, copy_photo]
      have htaken : ((s.service1.photo payload pr).absorb (asks payload)
          (s.sensors.restore m)).copy k = s.sensors.latest k := by
        rw [copy_absorb, Sensors.ready_restore, hk, hm, Bool.or_true, Bool.and_true, if_pos rfl,
          Sensors.latest_restore]
      refine ⟨trivial, fun heq => ?_⟩
      have hreply := congrArg Response.reply heq
      rw [Node.step_datagram, Node.step_datagram, hown, h.sensors] at hreply
      refine replyTo_ne hk ?_ hreply
      rw [hkept, htaken]
      exact Ne.symm hne
    | read r => exact absurd (unnoticed_of_asksOf_eq rfl) hbad

/-! ### Which runs are undisturbed -/

/-- A reader does not notice the other one anywhere in a run. -/
def NeverNotices (r : Reader) (s : Node) (events : List Event) : Prop :=
  Unwinding.Always Node.step (missed r) (Unnoticed r) (fun _ => false) s events

theorem responses_uds_iff (s : Node) (events : List Event) :
    responses .uds s events = responses .uds s (alone .uds events) ↔ NeverNotices .uds s events :=
  unwinding_uds.seen_filter_iff (Twin.refl .uds s)

theorem responses_service1_iff (s : Node) (events : List Event) :
    responses .service1 s events = responses .service1 s (alone .service1 events) ↔
      NeverNotices .service1 s events :=
  unwinding_service1.seen_filter_iff (Twin.refl .service1 s)

/-- **When the readers do not disturb each other**, in any run from any state: exactly if no
diagnostic read is for a measurement that the callback of Service 1 took from it, and no
datagram for Service 1 asks for a measurement that a diagnostic read took from it, other
than the one it keeps. -/
theorem undisturbed_iff (s : Node) (events : List Event) :
    Undisturbed s events ↔ NeverNotices .uds s events ∧ NeverNotices .service1 s events := by
  constructor
  · intro h
    exact ⟨(responses_uds_iff s events).mp h.uds, (responses_service1_iff s events).mp h.service1⟩
  · rintro ⟨huds, hservice1⟩
    refine ⟨(responses_uds_iff s events).mpr huds, ?_,
      (responses_service1_iff s events).mpr hservice1⟩
    have hdiag : (Mealy.final Node.step s (alone .uds events)).ecu.diag =
        (Mealy.final Node.step s events).ecu.diag :=
      (unwinding_uds.final_filter (Twin.refl .uds s) huds).own
    rw [hdiag]

/-- The ECU after `core0_init`. -/
def Node.powerOn : Node := { ecu := EcuState.powerOn }

/-- The diagnostic read of the left ultrasonic sensor. -/
def readLeft : SensorRead where
  frame := sendMsg 0x7E0 [0x03, 0x22, 0x00, 0x01]
  sensor := .ultrasonic .left
  isSingle := by decide
  sid := by decide
  didH := by decide
  didL := by decide

/-- One echo of the left sensor is measured; a datagram asks for the ultrasonic sensors and
then a diagnostic read does. -/
def polledRun : List Event :=
  [.sense (.echo .left true 1000), .sense (.echo .left false 2000), .sense .processUltrasonic,
    .datagram (fun _ => 0) {} (requestHeader .ult 8), .read readLeft]

/-- The read fails and a trouble code is stored, though the sensor works. -/
theorem polledRun_disturbed : ¬ Undisturbed Node.powerOn polledRun := by
  intro h
  exact absurd h.uds (by decide +kernel)

end Readers

end VehicleStack
