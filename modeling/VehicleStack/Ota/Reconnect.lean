import Mathlib.Algebra.Group.Nat.Defs
import Mathlib.Order.Basic
import VehicleStack.Lib.Run

/-!
# Reconnecting to the broker

`OtaBridge` and `TerminalUI` have the same way of coming back to the broker: when the connection is
lost, the callback starts a thread that tries until it is back, unless there is one already. A flag
under a lock says so; the thread takes it back when it is through.

A step of `VehicleStack.Ota.Reconnection.step` is a section under the lock, or the code between two
of them up to the next call that can block; the client library loses the connection, or gets it back
by itself, at any time.

There is never more than one thread. But the flag is taken back some time after the connection is
there again, and `VehicleStack.Ota.Reconnection.reconnects` says what that costs: nobody looks after
a lost connection exactly if the callback came in between.
-/

namespace VehicleStack

namespace Ota

/-- Where a thread of `_schedule_reconnect` is. -/
inductive Worker where
  /-- Before the stop event is looked at; it may be waiting there. -/
  | checking
  /-- In `reconnect`. -/
  | connecting
  /-- Out of the loop, before the section under the lock. -/
  | finishing
  deriving DecidableEq

/-- What the threads share, and the threads. -/
structure Reconnection where
  /-- The connection is up, so that the library will report its loss. -/
  connected : Bool := true
  /-- Losses that have not been reported yet. -/
  callbacks : ℕ := 0
  reconnecting : Bool := false
  stopped : Bool := false
  /-- Threads that are about to be started. -/
  starting : ℕ := 0
  workers : List Worker := []
  /-- `ExponentialBackoff`, the delay that comes next. -/
  current : ℕ := 1
  deriving DecidableEq

/-- What can happen. -/
inductive ReconnectEvent where
  /-- The connection is lost. -/
  | lose
  /-- `_on_disconnect`, up to the end of the section under the lock. -/
  | callback
  /-- The rest of it: a thread is started. -/
  | start
  /-- A thread looks at the stop event. -/
  | check (i : ℕ)
  /-- `reconnect` returns, or raises and the delay is taken. -/
  | attempt (i : ℕ) (returns : Bool)
  /-- A thread takes the flag back, and ends. -/
  | finish (i : ℕ)
  /-- `_on_connect`, also if the library has come back by itself. -/
  | connect
  | stop

namespace Reconnection

/-- One event, if it can happen. -/
def step (s : Reconnection) : ReconnectEvent → Option Reconnection
  | .lose =>
    if s.connected then some { s with connected := false, callbacks := s.callbacks + 1 } else none
  | .callback =>
    if s.callbacks = 0 then none
    else if s.reconnecting ∨ s.stopped then some { s with callbacks := s.callbacks - 1 }
    else
      some { s with
        callbacks := s.callbacks - 1
        reconnecting := true
        starting := s.starting + 1 }
  | .start =>
    if s.starting = 0 then none
    else some { s with starting := s.starting - 1, workers := s.workers ++ [.checking] }
  | .check i =>
    if s.workers[i]? = some .checking then
      some { s with workers := s.workers.set i (if s.stopped then .finishing else .connecting) }
    else none
  | .attempt i returns =>
    if s.workers[i]? = some .connecting then
      if returns then
        some { s with connected := true, current := 1, workers := s.workers.set i .finishing }
      else
        some { s with
          connected := false
          current := min (s.current * 2) 30
          workers := s.workers.set i .checking }
    else none
  | .finish i =>
    if s.workers[i]? = some .finishing then
      some { s with reconnecting := false, workers := s.workers.eraseIdx i }
    else none
  | .connect => some { s with connected := true, current := 1 }
  | .stop => some { s with stopped := true }

/-- What an event does, case by case. -/
inductive Happens (s : Reconnection) : ReconnectEvent → Reconnection → Prop where
  | lose (h : s.connected = true) :
    Happens s .lose { s with connected := false, callbacks := s.callbacks + 1 }
  /-- There is a thread already, or none is wanted. -/
  | ignored (h : s.callbacks ≠ 0) (hflag : s.reconnecting = true ∨ s.stopped = true) :
    Happens s .callback { s with callbacks := s.callbacks - 1 }
  | scheduled (h : s.callbacks ≠ 0) (hflag : s.reconnecting = false) :
    Happens s .callback
      { s with callbacks := s.callbacks - 1, reconnecting := true, starting := s.starting + 1 }
  | start (h : s.starting ≠ 0) :
    Happens s .start { s with starting := s.starting - 1, workers := s.workers ++ [.checking] }
  | check (i : ℕ) (h : s.workers[i]? = some .checking) :
    Happens s (.check i)
      { s with workers := s.workers.set i (if s.stopped then .finishing else .connecting) }
  | returned (i : ℕ) (h : s.workers[i]? = some .connecting) :
    Happens s (.attempt i true)
      { s with connected := true, current := 1, workers := s.workers.set i .finishing }
  | raised (i : ℕ) (h : s.workers[i]? = some .connecting) :
    Happens s (.attempt i false)
      { s with
        connected := false
        current := min (s.current * 2) 30
        workers := s.workers.set i .checking }
  | finish (i : ℕ) (h : s.workers[i]? = some .finishing) :
    Happens s (.finish i) { s with reconnecting := false, workers := s.workers.eraseIdx i }
  | connect : Happens s .connect { s with connected := true, current := 1 }
  | stop : Happens s .stop { s with stopped := true }

theorem happens_of_step {s s' : Reconnection} {e : ReconnectEvent} (h : s.step e = some s') :
    Happens s e s' := by
  cases e with
  | lose =>
    obtain ⟨hup, heq⟩ := Option.ite_none_right_eq_some.mp h
    obtain rfl := Option.some.inj heq
    exact .lose hup
  | callback =>
    obtain ⟨hsome, heq⟩ := Option.ite_none_left_eq_some.mp h
    split at heq
    · obtain rfl := Option.some.inj heq
      exact .ignored hsome ‹_›
    · rename_i hflag
      obtain rfl := Option.some.inj heq
      exact .scheduled hsome (Bool.not_eq_true _ ▸ (not_or.mp hflag).1)
  | start =>
    obtain ⟨hstarting, heq⟩ := Option.ite_none_left_eq_some.mp h
    obtain rfl := Option.some.inj heq
    exact .start hstarting
  | check i =>
    obtain ⟨hi, heq⟩ := Option.ite_none_right_eq_some.mp h
    obtain rfl := Option.some.inj heq
    exact .check i hi
  | attempt i returns =>
    obtain ⟨hi, heq⟩ := Option.ite_none_right_eq_some.mp h
    cases returns with
    | true =>
      obtain rfl := Option.some.inj heq
      exact .returned i hi
    | false =>
      obtain rfl := Option.some.inj heq
      exact .raised i hi
  | finish i =>
    obtain ⟨hi, heq⟩ := Option.ite_none_right_eq_some.mp h
    obtain rfl := Option.some.inj heq
    exact .finish i hi
  | connect =>
    obtain rfl := Option.some.inj h
    exact .connect
  | stop =>
    obtain rfl := Option.some.inj h
    exact .stop

/-! ### One thread -/

/-- **The flag says whether there is a thread**, and there is no more than one. -/
def Single (s : Reconnection) : Prop :=
  s.starting + s.workers.length = if s.reconnecting then 1 else 0

theorem Single.step {s s' : Reconnection} {e : ReconnectEvent} (h : s.Single)
    (hstep : s.step e = some s') : s'.Single := by
  rw [Single] at h
  cases happens_of_step hstep with
  | lose | ignored | connect | stop => exact h
  | scheduled _ hflag =>
    rw [hflag, if_neg Bool.false_ne_true] at h
    show s.starting + 1 + s.workers.length = 1
    omega
  | start hstarting =>
    show s.starting - 1 + (s.workers ++ [Worker.checking]).length = _
    rw [List.length_append, List.length_singleton, ← h]
    omega
  | check | returned | raised =>
    rw [Single, List.length_set]
    exact h
  | finish i hi =>
    have hlength := (List.getElem?_eq_some_iff.mp hi).1
    show s.starting + (s.workers.eraseIdx i).length = 0
    rw [List.length_eraseIdx_of_lt hlength]
    split at h <;> omega

/-- **In every run there is at most one thread**, started or about to be. -/
theorem single_after {events : List ReconnectEvent} {s : Reconnection}
    (hrun : Run.run step {} events = some s) : s.Single :=
  Run.run_induct (P := fun _ s => s.Single) rfl (fun _ _ _ _ _ h hstep => h.step hstep) hrun

/-- The thread that there is. -/
theorem Single.workers_eq {s : Reconnection} (h : s.Single) {i : ℕ} {w : Worker}
    (hi : s.workers[i]? = some w) :
    i = 0 ∧ s.workers = [w] ∧ s.starting = 0 ∧ s.reconnecting = true := by
  have hlength := (List.getElem?_eq_some_iff.mp hi).1
  rw [Single] at h
  cases hflag : s.reconnecting with
  | false =>
    rw [hflag, if_neg Bool.false_ne_true] at h
    omega
  | true =>
    rw [hflag, if_pos rfl] at h
    obtain ⟨v, hv⟩ := List.length_eq_one_iff.mp (show s.workers.length = 1 by omega)
    obtain rfl : i = 0 := by omega
    rw [hv] at hi
    obtain rfl : v = w := Option.some.inj hi
    exact ⟨rfl, hv, by omega, rfl⟩

/-! ### A lost connection -/

/-- The connection is lost, and nothing is under way that would bring it back. -/
structure Unattended (s : Reconnection) : Prop where
  lost : s.connected = false
  reported : s.callbacks = 0
  none_starting : s.starting = 0
  none_trying : ∀ w ∈ s.workers, w = .finishing
  running : s.stopped = false

/-- The last loss is reported while the thread has yet to take the flag back. -/
structure Overlooks (s : Reconnection) : Prop where
  lost : s.connected = false
  last : s.callbacks = 1
  workers : s.workers = [.finishing]
  running : s.stopped = false

/-- Where nobody looks after a lost connection, the thread can still take the flag back, and nothing
else leaves it so. -/
theorem Unattended.of_step {s s' : Reconnection} {e : ReconnectEvent} (h : s.Unattended)
    (hstep : s.step e = some s') (h' : s'.Unattended) : ∃ i, e = .finish i := by
  cases happens_of_step hstep with
  | lose hup => exact absurd (h.lost.symm.trans hup) Bool.false_ne_true
  | ignored hsome => exact absurd h.reported hsome
  | scheduled hsome => exact absurd h.reported hsome
  | start hstarting => exact absurd h.none_starting hstarting
  | check i hi => exact absurd (h.none_trying _ (List.mem_of_getElem? hi)) (by decide)
  | returned i hi => exact absurd (h.none_trying _ (List.mem_of_getElem? hi)) (by decide)
  | raised i hi => exact absurd (h.none_trying _ (List.mem_of_getElem? hi)) (by decide)
  | finish i => exact ⟨i, rfl⟩
  | connect => exact absurd h'.lost.symm Bool.false_ne_true
  | stop => exact absurd h'.running.symm Bool.false_ne_true

theorem Unattended.finish {s s' : Reconnection} {i : ℕ} (h : s.Unattended)
    (hstep : s.step (.finish i) = some s') : s'.Unattended := by
  cases happens_of_step hstep with
  | finish =>
    refine ⟨h.lost, h.reported, h.none_starting, fun w hw => ?_, h.running⟩
    exact h.none_trying w (List.mem_of_mem_eraseIdx hw)

/-- **How it comes to that**: a callback finds the thread that has reconnected. -/
theorem overlooks_of_step {s s' : Reconnection} {e : ReconnectEvent} (hs : s.Single)
    (h : ¬ s.Unattended) (hstep : s.step e = some s') (h' : s'.Unattended) :
    e = .callback ∧ s.Overlooks := by
  cases happens_of_step hstep with
  | lose => exact absurd h'.reported (Nat.succ_ne_zero _)
  | ignored hsome hflag =>
    have hlast : s.callbacks - 1 = 0 := h'.reported
    have hstarting : s.starting = 0 := h'.none_starting
    have hrunning : s.stopped = false := h'.running
    have hreconnecting : s.reconnecting = true := hflag.resolve_right fun hstopped =>
      absurd (hrunning.symm.trans hstopped) Bool.false_ne_true
    rw [Single, hreconnecting, if_pos rfl, hstarting, Nat.zero_add] at hs
    obtain ⟨w, hw⟩ := List.length_eq_one_iff.mp hs
    have hfinishing : w = .finishing := h'.none_trying w (hw ▸ List.mem_cons_self)
    exact ⟨rfl, h'.lost, by omega, hfinishing ▸ hw, hrunning⟩
  | scheduled => exact absurd h'.none_starting (Nat.succ_ne_zero _)
  | start =>
    have hnew := h'.none_trying .checking (List.mem_append_right _ List.mem_cons_self)
    exact absurd hnew (by decide)
  | check i hi =>
    have hrunning : s.stopped = false := h'.running
    obtain ⟨rfl, hw, -⟩ := hs.workers_eq hi
    have htrying := h'.none_trying .connecting (by
      show Worker.connecting ∈ s.workers.set 0 _
      rw [hw, hrunning]
      exact List.mem_cons_self)
    exact absurd htrying (by decide)
  | returned => exact absurd h'.lost.symm Bool.false_ne_true
  | raised i hi =>
    obtain ⟨rfl, hw, -⟩ := hs.workers_eq hi
    have htrying := h'.none_trying .checking (by
      show Worker.checking ∈ s.workers.set 0 _
      rw [hw]
      exact List.mem_cons_self)
    exact absurd htrying (by decide)
  | finish i hi =>
    -- the thread that ends was not trying any more
    obtain ⟨-, hw, hstarting, -⟩ := hs.workers_eq hi
    refine absurd ⟨h'.lost, h'.reported, hstarting, fun w hmem => ?_, h'.running⟩ h
    rw [hw] at hmem
    exact List.mem_singleton.mp hmem
  | connect => exact absurd h'.lost.symm Bool.false_ne_true
  | stop => exact absurd h'.running.symm Bool.false_ne_true

/-- It does come to that then. -/
theorem Overlooks.unattended {s s' : Reconnection} (hs : s.Single) (h : s.Overlooks)
    (hstep : s.step .callback = some s') : s'.Unattended := by
  obtain ⟨-, -, hstarting, hflag⟩ := hs.workers_eq (i := 0) (by rw [h.workers]; rfl)
  cases happens_of_step hstep with
  | ignored =>
    refine ⟨h.lost, ?_, hstarting, fun w hw => ?_, h.running⟩
    · show s.callbacks - 1 = 0
      rw [h.last]
    · have hw : w ∈ s.workers := hw
      rw [h.workers] at hw
      exact List.mem_singleton.mp hw
  | scheduled _ hnone => exact absurd (hnone.symm.trans hflag) Bool.false_ne_true

theorem Unattended.run_finish {s s' : Reconnection} {events : List ReconnectEvent}
    (h : s.Unattended) (hall : ∀ e ∈ events, ∃ i, e = .finish i)
    (hrun : Run.run step s events = some s') : s'.Unattended := by
  induction events generalizing s with
  | nil =>
    obtain rfl : s = s' := Option.some.inj hrun
    exact h
  | cons e events ih =>
    obtain ⟨i, rfl⟩ := hall e List.mem_cons_self
    obtain ⟨t, ht, hrun⟩ := Run.run_cons_eq_some.mp hrun
    exact ih (h.finish ht) (fun e he => hall e (List.mem_cons_of_mem _ he)) hrun

theorem unattended_after {events : List ReconnectEvent} {s : Reconnection}
    (hrun : Run.run step {} events = some s) :
    s.Unattended ↔ ∃ before later t, events = before ++ .callback :: later ∧
      Run.run step {} before = some t ∧ t.Overlooks ∧ ∀ e ∈ later, ∃ i, e = .finish i := by
  constructor
  · refine Run.run_induct (P := fun events s => s.Unattended →
      ∃ before later t, events = before ++ .callback :: later ∧
        Run.run step {} before = some t ∧ t.Overlooks ∧ ∀ e ∈ later, ∃ i, e = .finish i)
      (fun h => absurd h.lost.symm Bool.false_ne_true) ?_ hrun
    intro events s e s' hrun ih hstep h'
    by_cases h : s.Unattended
    · obtain ⟨i, rfl⟩ := h.of_step hstep h'
      obtain ⟨before, later, t, rfl, ht, hoverlooks, hlater⟩ := ih h
      refine ⟨before, later ++ [.finish i], t, ?_, ht, hoverlooks, fun e he => ?_⟩
      · rw [List.append_assoc, List.cons_append]
      · rcases List.mem_append.mp he with hold | hnew
        · exact hlater e hold
        · exact ⟨i, List.mem_singleton.mp hnew⟩
    · obtain ⟨rfl, hoverlooks⟩ := overlooks_of_step (single_after hrun) h hstep h'
      exact ⟨events, [], s, rfl, hrun, hoverlooks, fun e he => absurd he List.not_mem_nil⟩
  · rintro ⟨before, later, t, rfl, ht, hoverlooks, hlater⟩
    obtain ⟨t', ht', hrun⟩ := Run.run_append_eq_some.mp hrun
    obtain rfl : t = t' := Option.some.inj (ht.symm.trans ht')
    obtain ⟨u, hu, hrun⟩ := Run.run_cons_eq_some.mp hrun
    exact (hoverlooks.unattended (single_after ht) hu).run_finish hlater hrun

/-! ### The delay -/

/-- How often `reconnect` has raised since the connection was last there. -/
def failures (events : List ReconnectEvent) : ℕ :=
  events.foldl (fun n e =>
    match e with
    | .attempt _ true | .connect => 0
    | .attempt _ false => n + 1
    | _ => n) 0

/-- The delays double, up to half a minute. -/
theorem current_after {events : List ReconnectEvent} {s : Reconnection}
    (hrun : Run.run step {} events = some s) : s.current = min (2 ^ failures events) 30 := by
  refine Run.run_induct (P := fun events s => s.current = min (2 ^ failures events) 30) rfl ?_ hrun
  intro events s e s' _ h hstep
  rw [failures, List.foldl_concat]
  cases happens_of_step hstep with
  | raised =>
    show min (s.current * 2) 30 = min (2 ^ (failures events + 1)) 30
    rw [h, pow_succ]
    omega
  | returned | connect => rfl
  | lose | ignored | scheduled | start | check | finish | stop => exact h

/-- **Reconnecting, in any order of steps.** There is at most one thread, started or about to be;
the delay doubles with each attempt that fails, from a second up to half a minute; and nobody looks
after a lost connection exactly if the last loss was reported between the return of `reconnect` and
the section that takes the flag back, and nothing has happened since but that. -/
theorem reconnects {events : List ReconnectEvent} {s : Reconnection}
    (hrun : Run.run step {} events = some s) :
    s.starting + s.workers.length ≤ 1 ∧ s.current = min (2 ^ failures events) 30 ∧
      (s.Unattended ↔ ∃ before later t, events = before ++ .callback :: later ∧
        Run.run step {} before = some t ∧ t.Overlooks ∧ ∀ e ∈ later, ∃ i, e = .finish i) := by
  refine ⟨?_, current_after hrun, unattended_after hrun⟩
  rw [single_after hrun]
  split
  · exact Nat.le_refl 1
  · exact Nat.zero_le 1

/-- The connection is lost again as soon as it is back. -/
def lostAgain : List ReconnectEvent :=
  [.lose, .callback, .start, .check 0, .attempt 0 false, .check 0, .attempt 0 true, .lose,
    .callback, .finish 0]

theorem reconnects_lostAgain : ∃ s : Reconnection, Run.run step {} lostAgain = some s ∧
    s.starting + s.workers.length ≤ 1 ∧ s.current = min (2 ^ failures lostAgain) 30 ∧
      (s.Unattended ↔ ∃ before later t, lostAgain = before ++ .callback :: later ∧
        Run.run step {} before = some t ∧ t.Overlooks ∧ ∀ e ∈ later, ∃ i, e = .finish i) :=
  ⟨_, rfl, reconnects rfl⟩

end Reconnection

end Ota

end VehicleStack
