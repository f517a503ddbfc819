import VehicleStack.Lib.Latch
import VehicleStack.Ota.Approval

/-!
# The notify that is pending

`publish_decision` of `terminal_ui.py` takes the pending notify under the lock, sends the decision
and the acknowledgement with no lock held, and takes the lock again to forget what is pending
then. The thread of the MQTT client stores notifies all the while.

A step of `VehicleStack.Ota.Terminal.step` is a section under the lock, or the code between two
of them up to the next call that can block. The main result is
`VehicleStack.Ota.Terminal.keeps_iff`: the last notify that was stored since the snapshot is still
pending when `publish_decision` is through, exactly if none was stored before it forgets, or one
was stored after it.
-/

namespace VehicleStack

namespace Ota

open DigitalKey (Json)

/-! ### The two threads -/

/-- Where the main thread is. -/
inductive Decision where
  /-- Not in `publish_decision`. -/
  | idle
  /-- Called, before the first section under the lock. -/
  | called (decision : String)
  /-- The pending notify was taken, and there was one. -/
  | taken (decision : String) (pending : NotifyState)
  /-- `wait_for_publish` has returned. -/
  | sent (decision : String) (pending : NotifyState)
  /-- `_publish_ack` has returned. -/
  | acknowledged
  /-- The last section under the lock is through. -/
  | cleared

/-- `TerminalUI` with what its threads hold. -/
structure Terminal where
  ui : TerminalUI := {}
  /-- What `_on_message` is about to store. -/
  notify : Option NotifyState := none
  decision : Decision := .idle
  /-- What was handed to MQTT. -/
  published : List Members := []

/-- What can happen. -/
inductive TerminalEvent where
  /-- A notify arrives: `_on_message` up to the section under the lock. -/
  | notify (data : Members)
  /-- The section under the lock in `_on_message`. -/
  | store
  /-- The user gives an answer. -/
  | call (decision : String)
  /-- The first section under the lock in `publish_decision`, and the checks after it. -/
  | snapshot
  /-- The decision is published and waited for; `false` if one of the calls raises. -/
  | publish (returns : Bool)
  /-- `_publish_ack`; `false` if it raises. -/
  | ack (returns : Bool)
  /-- The last section under the lock in `publish_decision`. -/
  | clear
  /-- The return of `publish_decision`. -/
  | finish

/-- What `_publish_ack` sends. -/
def ackPayload (decision : String) (pending : NotifyState) : Members :=
  [("decision", .str (if decision = "yes" then "approved" else "declined")),
    ("version", .str <|
      match pending.updateVersion with
      | some updateVersion => if updateVersion = "" then pending.version else updateVersion
      | none => pending.version)]

namespace Terminal

variable (repr : Json → String)

/-- One event, if it can happen. -/
def step (s : Terminal) : TerminalEvent → Option Terminal
  | .notify data =>
    match s.notify with
    | none => some { s with notify := NotifyState.ofNotify repr data }
    | some _ => none
  | .store =>
    s.notify.map fun pending =>
      { s with ui := { s.ui with pendingNotify := some pending }, notify := none }
  | .call decision =>
    match s.decision with
    | .idle => some { s with decision := .called decision }
    | _ => none
  | .snapshot =>
    match s.decision with
    | .called decision =>
      match s.ui.pendingNotify with
      -- there is nothing to decide
      | none => some { s with decision := .idle }
      | some pending =>
        if decision = "yes" ∨ decision = "no" then
          some { s with decision := .taken decision pending }
        else some { s with decision := .idle }
    | _ => none
  | .publish returns =>
    match s.decision with
    | .taken decision pending =>
      if returns then
        some { s with
          published := s.published ++ [decisionPayload decision pending]
          decision := .sent decision pending }
      -- the exception leaves the notify pending
      else some { s with decision := .idle }
    | _ => none
  | .ack returns =>
    match s.decision with
    | .sent decision pending =>
      if returns then
        some { s with
          published := s.published ++ [ackPayload decision pending]
          decision := .acknowledged }
      else some { s with decision := .idle }
    | _ => none
  | .clear =>
    match s.decision with
    | .acknowledged =>
      some { s with ui := { s.ui with pendingNotify := none }, decision := .cleared }
    | _ => none
  | .finish =>
    match s.decision with
    | .cleared => some { s with decision := .idle }
    | _ => none

/-- The notify an event stores. -/
def storing (s : Terminal) : TerminalEvent → List NotifyState
  | .store => s.notify.toList
  | _ => []

/-- The notifies that are stored in a run. -/
def stored (s : Terminal) (events : List TerminalEvent) : List NotifyState :=
  Run.observe (step repr) storing s events

/-- A stretch of a run from the snapshot of `publish_decision` to its end. -/
structure Decides (before during : List TerminalEvent) (s t : Terminal) : Prop where
  snapshot : Run.run (step repr) {} (before ++ [.snapshot]) = some s
  rest : Run.run (step repr) s during = some t
  /-- It is the end of the same call, by a return or by an exception. -/
  same : ∀ decision, TerminalEvent.call decision ∉ during
  through : t.decision = .idle

/-- **The notify is kept**: of the notifies stored in a stretch of a run, the last is pending at
its end. The others were replaced by newer ones. -/
def Keeps (s : Terminal) (during : List TerminalEvent) (t : Terminal) : Prop :=
  ∀ pending, (stored repr s during).getLast? = some pending → t.ui.pendingNotify = some pending

/-- A notify is stored before `publish_decision` forgets the pending one, and none after it. -/
def Overtaken (during : List TerminalEvent) : Prop :=
  ∃ first last, during = first ++ .clear :: last ∧
    TerminalEvent.store ∈ first ∧ TerminalEvent.store ∉ last

/-! ### The last section counts -/

variable {repr}

/-- A stretch that ends with storing is not overtaken. -/
theorem not_overtaken_store (during : List TerminalEvent) : ¬ Overtaken (during ++ [.store]) := by
  rintro ⟨first, last, heq, -, hnot⟩
  rcases last.eq_nil_or_concat' with rfl | ⟨last, e, rfl⟩
  · exact absurd (List.append_inj_right' heq rfl) nofun
  · rw [← List.cons_append, ← List.append_assoc] at heq
    obtain rfl := List.singleton_inj.mp (List.append_inj_right' heq rfl)
    exact hnot (List.mem_append_right _ (List.mem_singleton_self _))

/-- A stretch that ends with forgetting is overtaken if anything was stored in it. -/
theorem overtaken_clear_iff (during : List TerminalEvent) :
    Overtaken (during ++ [.clear]) ↔ TerminalEvent.store ∈ during := by
  constructor
  · rintro ⟨first, last, heq, hstore, hnot⟩
    have hmem : TerminalEvent.store ∈ during ++ [.clear] := by
      rw [heq]
      exact List.mem_append_left _ hstore
    exact (List.mem_append.mp hmem).resolve_right fun h => absurd (List.mem_singleton.mp h) nofun
  · exact fun hstore => ⟨during, [], rfl, hstore, List.not_mem_nil⟩

/-- Another event changes nothing about that. -/
theorem overtaken_other_iff {e : TerminalEvent} (hstore : e ≠ .store) (hclear : e ≠ .clear)
    (during : List TerminalEvent) : Overtaken (during ++ [e]) ↔ Overtaken during := by
  constructor
  · rintro ⟨first, last, heq, hfirst, hnot⟩
    rcases last.eq_nil_or_concat' with rfl | ⟨last, e', rfl⟩
    · exact absurd (List.singleton_inj.mp (List.append_inj_right' heq rfl)) hclear
    · rw [← List.cons_append, ← List.append_assoc] at heq
      exact ⟨first, last, List.append_inj_left' heq rfl, hfirst,
        fun h => hnot (List.mem_append_left _ h)⟩
  · rintro ⟨first, last, rfl, hfirst, hnot⟩
    refine ⟨first, last ++ [e], by rw [List.append_assoc, List.cons_append], hfirst, fun h => ?_⟩
    rcases List.mem_append.mp h with hlast | hsingle
    · exact hnot hlast
    · exact hstore (List.mem_singleton.mp hsingle).symm

/-- What an event does to the pending notify and to the notifies stored: only the sections under
the lock that write do anything. -/
theorem pendingNotify_step {s s' : Terminal} {e : TerminalEvent} (h : s.step repr e = some s') :
    (∃ pending, e = .store ∧ s.storing e = [pending] ∧ s'.ui.pendingNotify = some pending) ∨
    (e = .clear ∧ s.storing e = [] ∧ s'.ui.pendingNotify = none) ∨
    (e ≠ .store ∧ e ≠ .clear ∧ s.storing e = [] ∧
      s'.ui.pendingNotify = s.ui.pendingNotify) := by
  cases e with
  | store =>
    obtain ⟨pending, hnotify, rfl⟩ := Option.map_eq_some_iff.mp h
    exact Or.inl ⟨pending, rfl, by rw [storing, hnotify]; rfl, rfl⟩
  | clear =>
    rw [step] at h
    split at h
    · obtain rfl := Option.some.inj h
      exact Or.inr (Or.inl ⟨rfl, rfl, rfl⟩)
    · cases h
  | _ =>
    refine Or.inr (Or.inr ⟨nofun, nofun, rfl, ?_⟩)
    rw [step] at h
    repeat' split at h
    all_goals cases h
    all_goals rfl

/-- A notify is stored in a stretch that contains such an event. -/
theorem stored_run {s t : Terminal} {events : List TerminalEvent}
    (hrun : Run.run (step repr) s events = some t) :
    stored repr s events = [] ↔ TerminalEvent.store ∉ events := by
  refine Run.run_induct
    (P := fun events _ => stored repr s events = [] ↔ TerminalEvent.store ∉ events)
    (iff_of_true rfl List.not_mem_nil) (fun events u e u' hbefore ih hstep => ?_) hrun
  rw [stored, Run.observe_concat _ hbefore hstep, List.append_eq_nil_iff, List.mem_append,
    not_or, List.mem_singleton]
  refine and_congr ih ?_
  rcases pendingNotify_step hstep with ⟨pending, rfl, hstoring, -⟩ | ⟨rfl, hstoring, -⟩ |
    ⟨hother, -, hstoring, -⟩
  · simp [hstoring]
  · simp [hstoring]
  · simp [hstoring, Ne.symm hother]

/-- **Along every stretch of a run** the last notify stored is the pending one, unless the stretch
is overtaken; then none is pending. -/
theorem pendingNotify_run {s t : Terminal} {events : List TerminalEvent}
    (hrun : Run.run (step repr) s events = some t) :
    (Overtaken events → t.ui.pendingNotify = none) ∧
      (¬ Overtaken events → Keeps repr s events t) := by
  refine Run.run_induct (P := fun events t =>
    (Overtaken events → t.ui.pendingNotify = none) ∧
      (¬ Overtaken events → Keeps repr s events t)) ?_
    (fun events u e u' hbefore ih hstep => ?_) hrun
  · refine ⟨?_, fun _ pending h => ?_⟩
    · rintro ⟨first, last, heq, -, -⟩
      exact absurd heq.symm (List.append_ne_nil_of_right_ne_nil _ (List.cons_ne_nil _ _))
    · cases h
  · have hstored : stored repr s (events ++ [e]) = stored repr s events ++ u.storing e :=
      Run.observe_concat _ hbefore hstep
    rcases pendingNotify_step hstep with ⟨pending, rfl, hstoring, hpending⟩ |
      ⟨rfl, hstoring, hpending⟩ | ⟨hstore, hclear, hstoring, hpending⟩
    · -- the notify that is stored is the last one
      refine ⟨fun h => absurd h (not_overtaken_store events), fun _ last hlast => ?_⟩
      rw [hstored, hstoring, List.getLast?_concat, Option.some_inj] at hlast
      rw [hpending, hlast]
    · -- nothing is pending any more
      refine ⟨fun _ => hpending, fun hnot last hlast => ?_⟩
      rw [overtaken_clear_iff, ← stored_run hbefore] at hnot
      rw [hstored, hstoring, hnot] at hlast
      cases hlast
    · -- nothing is written, so what held before holds
      rw [overtaken_other_iff hstore hclear, Keeps, hstored, hstoring, List.append_nil, hpending]
      exact ih

/-- **The terminal loses no notify that came while `publish_decision` ran, exactly if none was
stored before it forgot the pending one**, or another one was stored after that. -/
theorem keeps_iff {before during : List TerminalEvent} {s t : Terminal}
    (h : Decides repr before during s t) : Keeps repr s during t ↔ ¬ Overtaken during := by
  obtain ⟨hovertaken, hkeeps⟩ := pendingNotify_run h.rest
  refine ⟨fun hkept hover => ?_, hkeeps⟩
  have hstore : TerminalEvent.store ∈ during := by
    obtain ⟨first, last, rfl, hfirst, -⟩ := hover
    exact List.mem_append_left _ hfirst
  obtain ⟨last, hlast⟩ : ∃ last, (stored repr s during).getLast? = some last := by
    rw [← Option.isSome_iff_exists, List.getLast?_isSome]
    exact fun hnil => (stored_run h.rest).mp hnil hstore
  exact absurd ((hkept last hlast).symm.trans (hovertaken hover)) nofun

/-- What the terminal makes of a notify of version 1.0. -/
def stateOf (checksum : String) : NotifyState where
  version := "1.0"
  payload := OtaSystem.notifyOf checksum
  updateVersion := some "1.0"
  rePromptSec := none

/-- Up to the snapshot: a notify is stored, and the user says `yes`. -/
def beforeSnapshot : List TerminalEvent := [.notify (OtaSystem.notifyOf "aa"), .store, .call "yes"]

/-- From the snapshot on: another notify is stored while the decision is being sent. -/
def afterSnapshot : List TerminalEvent :=
  [.notify (OtaSystem.notifyOf "bb"), .store, .publish true, .ack true, .clear, .finish]

/-- The state the snapshot leaves, and the one the call ends in. -/
def snapshotTaken : Terminal where
  ui := { pendingNotify := some (stateOf "aa") }
  decision := .taken "yes" (stateOf "aa")
def decisionThrough : Terminal where
  published := [decisionPayload "yes" (stateOf "aa"), ackPayload "yes" (stateOf "aa")]

theorem decides_afterSnapshot :
    Decides (fun _ => "") beforeSnapshot afterSnapshot snapshotTaken decisionThrough where
  snapshot := rfl
  rest := rfl
  same := by simp [afterSnapshot]
  through := rfl

/-- The notify that came while the decision was sent is lost. -/
theorem afterSnapshot_loses :
    Decides (fun _ => "") beforeSnapshot afterSnapshot snapshotTaken decisionThrough ∧
      ¬ Keeps (fun _ => "") snapshotTaken afterSnapshot decisionThrough := by
  refine ⟨decides_afterSnapshot, fun h => ?_⟩
  have hlast : (stored (fun _ => "") snapshotTaken afterSnapshot).getLast? = some (stateOf "bb") :=
    rfl
  exact absurd (h _ hlast) nofun

/-- The same, read off the order of the events. -/
theorem not_keeps_afterSnapshot :
    ¬ Keeps (fun _ => "") snapshotTaken afterSnapshot decisionThrough :=
  fun h => (keeps_iff decides_afterSnapshot).mp h
    ⟨[.notify (OtaSystem.notifyOf "bb"), .store, .publish true, .ack true], [.finish], rfl,
      by simp, by simp⟩

end Terminal

end Ota

end VehicleStack
