import VehicleStack.Lib.Run
import VehicleStack.Ota.Bridge

/-!
# What the user approves

`TerminalUI` of `terminal_ui.py` shows the last notify and sends the answer of the user, and the
bridge hands an update on when the answer comes. Both get the notifies themselves, each in its
own time, and the answer names a version.

A run is any order of notifies at the one and at the other, of answers, and of decisions that reach
the bridge, late, in another order, or again (`VehicleStack.Ota.OtaSystem.step`); a decision
in flight is kept together with the notify that was pending when it was given. The main
result is `VehicleStack.Ota.OtaSystem.binds_iff`: whatever the order, the update handed on is
the one that was pending, exactly if the notifies of one version have one update.
-/

namespace VehicleStack

namespace Ota

open DigitalKey (Json truncateDouble)

/-! ### The terminal -/

/-- `NotifyState`. -/
structure NotifyState where
  version : String
  payload : Members
  updateVersion : Option String
  rePromptSec : Option ℤ

/-- `TerminalUI`. -/
structure TerminalUI where
  pendingNotify : Option NotifyState := none

/-- The interval a notify is to be repeated after: `int` of a number, and nothing for another
value. The result is missing if `int` raises. -/
def rePromptOf : Json → Option (Option ℤ)
  | .bool b => some (some (if b then 1 else 0))
  | .int z => some (some z)
  | .float bits => (truncateDouble bits).map fun r => some r.1
  | _ => some none

variable (repr : Json → String)

/-- The state `_on_message` makes of a notify, unless it raises. -/
def NotifyState.ofNotify (data : Members) : Option NotifyState :=
  (rePromptOf (member data "re_prompt_sec" .null)).map fun seconds =>
    { version := OtaBridge.notifyVersion repr data
      payload := data
      updateVersion :=
        match member data "update" .null with
        | .obj update =>
          some ((member update "version" (.str (OtaBridge.notifyVersion repr data))).toStr repr)
        | _ => none
      rePromptSec := seconds }

/-- `_on_message` for a notify. -/
def TerminalUI.onNotify (ui : TerminalUI) (data : Members) : TerminalUI :=
  match NotifyState.ofNotify repr data with
  | some pending => { ui with pendingNotify := some pending }
  | none => ui

/-- What `publish_decision` sends for a pending notify. -/
def decisionPayload (decision : String) (pending : NotifyState) : Members :=
  [("decision", .str decision), ("version", .str pending.version)]

/-! ### The terminal and the bridge -/

/-- The terminal, the bridge, and the decisions that were sent, each with the notify that was
pending. -/
structure OtaSystem where
  ui : TerminalUI := {}
  bridge : OtaBridge := {}
  sent : List (Members × NotifyState) := []
  /-- Whether the terminal is in `publish_decision`. -/
  publishing : Bool := false

/-- What can happen. -/
inductive OtaEvent where
  /-- A notify reaches the terminal. -/
  | notifyUi (data : Members)
  /-- A notify reaches the bridge. -/
  | notifyBridge (data : Members)
  /-- The user answers: `publish_decision` up to the sending. -/
  | answer (decision : String)
  /-- The rest of `publish_decision`. -/
  | answered
  /-- A decision that was sent reaches the bridge. -/
  | deliver (i : ℕ) (outcome : PublishOutcome)

namespace OtaSystem

/-- One event, if it can happen. -/
def step (s : OtaSystem) : OtaEvent → Option OtaSystem
  | .notifyUi data => some { s with ui := s.ui.onNotify repr data }
  | .notifyBridge data => some { s with bridge := s.bridge.handleNotify repr data }
  | .answer decision =>
    if s.publishing then none
    else
      match s.ui.pendingNotify with
      | none => some s
      | some pending =>
        if decision = "yes" ∨ decision = "no" then
          some { s with
            sent := s.sent ++ [(decisionPayload decision pending, pending)]
            publishing := true }
        else some s
  | .answered =>
    if s.publishing then
      some { s with ui := { pendingNotify := none }, publishing := false }
    else none
  | .deliver i outcome =>
    s.sent[i]?.map fun m => { s with bridge := (s.bridge.handleDecision repr m.1 outcome).1 }

/-- An update that is handed on, and the notify that was pending when the user answered. -/
def handedOn (s : OtaSystem) : OtaEvent → List (Members × NotifyState)
  | .deliver i outcome =>
    match s.sent[i]? with
    | none => []
    | some m =>
      ((s.bridge.handleDecision repr m.1 outcome).2.publication.map fun p => (p.update, m.2)).toList
  | _ => []

/-- The notifies of an event are among the given ones. -/
def NotifiesOf (notifies : Set Members) : OtaEvent → Prop
  | .notifyUi data | .notifyBridge data => data ∈ notifies
  | _ => True

/-- In every run with the given notifies, in any order and with any delay, each update handed
on is that of the notify that was pending when the user answered. -/
def Binds (notifies : Set Members) : Prop :=
  ∀ events s, (∀ e ∈ events, NotifiesOf notifies e) → Run.run (step repr) {} events = some s →
    ∀ p ∈ Run.observe (step repr) (handedOn repr) {} events,
      member p.2.payload "update" .null = .obj p.1

/-- Notifies of one version have one update: that of a notify the bridge keeps is also that
of every notify of its version that the terminal shows. -/
def Unambiguous (notifies : Set Members) : Prop :=
  ∀ shown ∈ notifies, ∀ kept ∈ notifies, ∀ update,
    (NotifyState.ofNotify repr shown).isSome → member kept "update" .null = .obj update →
      OtaBridge.notifyVersion repr kept ≠ "" →
        OtaBridge.notifyVersion repr shown = OtaBridge.notifyVersion repr kept →
          member shown "update" .null = .obj update

/-! ### Every run -/

/-- A notify is among the given ones, and it is what the terminal makes of it. -/
def IsShown (notifies : Set Members) (pending : NotifyState) : Prop :=
  pending.payload ∈ notifies ∧ NotifyState.ofNotify repr pending.payload = some pending

/-- What is known of the notifies in a state. -/
structure Sound (notifies : Set Members) (s : OtaSystem) : Prop where
  pending : ∀ p, s.ui.pendingNotify = some p → IsShown repr notifies p
  kept : ∀ data, s.bridge.latestNotify = some data →
    data ∈ notifies ∧ s.bridge.latestVersion = some (OtaBridge.notifyVersion repr data)
  sent : ∀ m ∈ s.sent, IsShown repr notifies m.2 ∧ ∃ decision, m.1 = decisionPayload decision m.2

variable {repr} {notifies : Set Members}

theorem NotifyState.payload_ofNotify {data : Members} {pending : NotifyState}
    (h : NotifyState.ofNotify repr data = some pending) : pending.payload = data := by
  obtain ⟨seconds, -, rfl⟩ := Option.map_eq_some_iff.mp h
  rfl

/-- A pending notify has its own version. -/
theorem IsShown.version {pending : NotifyState} (h : IsShown repr notifies pending) :
    pending.version = OtaBridge.notifyVersion repr pending.payload := by
  obtain ⟨seconds, -, hpending⟩ := Option.map_eq_some_iff.mp h.2
  exact (congrArg NotifyState.version hpending).symm

/-- The version a decision is for. -/
theorem decisionVersion_payload (decision : String) (pending : NotifyState) :
    OtaBridge.decisionVersion repr (decisionPayload decision pending) = pending.version := by
  rw [OtaBridge.decisionVersion, member, decisionPayload]
  rfl

/-- **Every event keeps what is known of the notifies.** -/
theorem Sound.step {s s' : OtaSystem} {e : OtaEvent} (h : Sound repr notifies s)
    (he : NotifiesOf notifies e) (hstep : s.step repr e = some s') : Sound repr notifies s' := by
  cases e with
  | notifyUi data =>
    obtain rfl : _ = s' := Option.some.inj hstep
    refine ⟨fun p hp => ?_, h.kept, h.sent⟩
    change (s.ui.onNotify repr data).pendingNotify = some p at hp
    rw [TerminalUI.onNotify] at hp
    split at hp
    · rename_i pending hpending
      obtain rfl : pending = p := Option.some.inj hp
      have hpayload := NotifyState.payload_ofNotify hpending
      exact ⟨hpayload ▸ he, hpayload ▸ hpending⟩
    · exact h.pending p hp
  | notifyBridge data =>
    obtain rfl : _ = s' := Option.some.inj hstep
    refine ⟨h.pending, fun kept hkept => ?_, h.sent⟩
    change (s.bridge.handleNotify repr data).latestNotify = some kept at hkept
    change kept ∈ notifies ∧ (s.bridge.handleNotify repr data).latestVersion = _
    rw [OtaBridge.handleNotify] at hkept ⊢
    split at hkept
    · obtain rfl : data = kept := Option.some.inj hkept
      exact ⟨he, rfl⟩
    · exact h.kept kept hkept
  | answer decision =>
    rw [OtaSystem.step] at hstep
    split at hstep
    · cases hstep
    split at hstep
    · obtain rfl : s = s' := Option.some.inj hstep
      exact h
    rename_i pending hpending
    split at hstep
    · obtain rfl : _ = s' := Option.some.inj hstep
      refine ⟨h.pending, h.kept, fun m hm => ?_⟩
      rcases List.mem_append.mp hm with hold | hnew
      · exact h.sent m hold
      · obtain rfl := List.mem_singleton.mp hnew
        exact ⟨h.pending pending hpending, decision, rfl⟩
    · obtain rfl : s = s' := Option.some.inj hstep
      exact h
  | answered =>
    rw [OtaSystem.step] at hstep
    split at hstep
    · obtain rfl : _ = s' := Option.some.inj hstep
      exact ⟨fun _ hp => absurd hp (Option.some_ne_none _).symm, h.kept, h.sent⟩
    · cases hstep
  | deliver i outcome =>
    obtain ⟨m, -, rfl⟩ := Option.map_eq_some_iff.mp hstep
    obtain ⟨hnotify, hversion⟩ := s.bridge.kept_handleDecision repr m.1 outcome
    refine ⟨h.pending, fun data hdata => ?_, h.sent⟩
    have hkept := h.kept data (hnotify.symm.trans hdata)
    exact ⟨hkept.1, hversion.trans hkept.2⟩

/-- In every run with the given notifies it is known what they are. -/
theorem sound_run {events : List OtaEvent} {s : OtaSystem}
    (hof : ∀ e ∈ events, NotifiesOf notifies e) (hrun : Run.run (step repr) {} events = some s) :
    Sound repr notifies s := by
  refine Run.run_induct (P := fun is s => (∀ e ∈ is, NotifiesOf notifies e) →
    Sound repr notifies s) (fun _ => ?_) (fun is s e s' _ ih hstep hall => ?_) hrun hof
  · exact ⟨nofun, nofun, nofun⟩
  · exact (ih fun e he => hall e (List.mem_append_left _ he)).step
      (hall e (List.mem_append_right _ (List.mem_singleton_self e))) hstep

/-- An update that is handed on is that of a notify the bridge keeps, and the version is that of
the notify that was pending. -/
theorem Sound.handedOn {s : OtaSystem} (h : Sound repr notifies s) {e : OtaEvent}
    {p : Members × NotifyState} (hp : p ∈ s.handedOn repr e) :
    IsShown repr notifies p.2 ∧ ∃ kept ∈ notifies, member kept "update" .null = .obj p.1 ∧
      OtaBridge.notifyVersion repr kept = p.2.version ∧ p.2.version ≠ "" := by
  cases e with
  | deliver i outcome =>
    simp only [OtaSystem.handedOn] at hp
    split at hp
    · exact absurd hp List.not_mem_nil
    rename_i m hm
    obtain ⟨hshown, decision, hpayload⟩ := h.sent m (List.mem_of_getElem? hm)
    rw [Option.mem_toList, Option.map_eq_some_iff] at hp
    obtain ⟨publication, hpublication, rfl⟩ := hp
    rcases s.bridge.handleDecision_cases repr m.1 outcome with ⟨kept, update, happroves, heq⟩ |
      ⟨-, hnone⟩
    · rw [heq] at hpublication
      obtain rfl : _ = publication := Option.some.inj hpublication
      obtain ⟨hkept, hversion⟩ := h.kept kept happroves.kept
      have hdecision : OtaBridge.decisionVersion repr m.1 = m.2.version := by
        rw [hpayload, decisionVersion_payload]
      have hsame := hversion.symm.trans happroves.version
      rw [hdecision, Option.some_inj] at hsame
      exact ⟨hshown, kept, hkept, happroves.update, hsame, hdecision ▸ happroves.nonempty⟩
    · rw [hnone] at hpublication
      cases hpublication
  | _ => exact absurd hp List.not_mem_nil

/-- A run in which one notify is shown and another one is kept when the answer comes. -/
def overtakingRun (shown kept : Members) : List OtaEvent :=
  [.notifyUi shown, .answer "yes", .notifyBridge shown, .notifyBridge kept, .deliver 0 .success]

/-- It can happen, and hands on the update of the notify that is kept. -/
theorem overtakingRun_handsOn {shown kept update : Members} {pending : NotifyState}
    (hpending : NotifyState.ofNotify repr shown = some pending)
    (hupdate : member kept "update" .null = .obj update)
    (hnonempty : OtaBridge.notifyVersion repr kept ≠ "")
    (hversion : OtaBridge.notifyVersion repr shown = OtaBridge.notifyVersion repr kept) :
    (∃ s, Run.run (step repr) {} (overtakingRun shown kept) = some s) ∧
      (update, pending) ∈ Run.observe (step repr) (OtaSystem.handedOn repr) {}
        (overtakingRun shown kept) := by
  obtain ⟨b, hb⟩ : ∃ b, b = (({} : OtaBridge).handleNotify repr shown).handleNotify repr kept :=
    ⟨_, rfl⟩
  obtain ⟨t, ht⟩ : ∃ t : OtaSystem, t =
      { ui := { pendingNotify := some pending }
        bridge := b
        sent := [(decisionPayload "yes" pending, pending)]
        publishing := true } := ⟨_, rfl⟩
  -- before the answer comes
  have hbefore : Run.run (step repr) {}
      [.notifyUi shown, .answer "yes", .notifyBridge shown, .notifyBridge kept] = some t := by
    have hshow : step repr {} (.notifyUi shown) = some
        { ui := { pendingNotify := some pending } } := by
      rw [step, TerminalUI.onNotify, hpending]
    rw [Run.run_cons, hshow, ht, hb]
    rfl
  -- the bridge takes it for an answer to the notify it keeps
  have hdecision : OtaBridge.decisionVersion repr (decisionPayload "yes" pending) =
      OtaBridge.notifyVersion repr kept := by
    obtain ⟨seconds, -, rfl⟩ := Option.map_eq_some_iff.mp hpending
    exact (decisionVersion_payload _ _).trans hversion
  have happroves : b.Approves repr (decisionPayload "yes" pending) kept update := by
    have hkept : b = { b with
        latestNotify := some kept, latestVersion := some (OtaBridge.notifyVersion repr kept) } := by
      rw [hb, OtaBridge.handleNotify, hupdate]
      rfl
    refine ⟨rfl, congrArg OtaBridge.latestNotify hkept, ?_, ?_, ?_, hupdate⟩
    · rw [hdecision]
      exact congrArg OtaBridge.latestVersion hkept
    · rw [hdecision]
      exact hnonempty
    · rw [hb, OtaBridge.processedVersions_handleNotify, OtaBridge.processedVersions_handleNotify]
      exact List.not_mem_nil
  have hhanded : t.handedOn repr (.deliver 0 .success) = [(update, pending)] := by
    subst ht
    change ((b.handleDecision repr (decisionPayload "yes" pending) .success).2.publication.map
      fun p => (p.update, pending)).toList = _
    rw [happroves.handleDecision_eq]
    rfl
  obtain ⟨s, hs⟩ : ∃ s, step repr t (.deliver 0 .success) = some s := by
    subst ht
    exact ⟨_, rfl⟩
  have hsplit : overtakingRun shown kept =
      [.notifyUi shown, .answer "yes", .notifyBridge shown, .notifyBridge kept] ++
        [.deliver 0 .success] := rfl
  rw [hsplit, Run.observe_concat _ hbefore hs, hhanded]
  refine ⟨⟨s, ?_⟩, List.mem_append_right _ (List.mem_singleton_self _)⟩
  rw [Run.run_append, hbefore]
  exact (congrArg (Option.bind · some) hs)

/-- **What the user approves is what is handed on**, in whatever order and with whatever delay
notifies and decisions arrive, exactly if the notifies of one version have one update. -/
theorem binds_iff (notifies : Set Members) : Binds repr notifies ↔ Unambiguous repr notifies := by
  constructor
  · intro h shown hshown kept hkept update hsome hupdate hnonempty hversion
    obtain ⟨pending, hpending⟩ := Option.isSome_iff_exists.mp hsome
    obtain ⟨⟨s, hrun⟩, hmem⟩ := overtakingRun_handsOn hpending hupdate hnonempty hversion
    have hof : ∀ e ∈ overtakingRun shown kept, NotifiesOf notifies e := by
      simp [overtakingRun, NotifiesOf, hshown, hkept]
    have := h _ s hof hrun _ hmem
    rwa [NotifyState.payload_ofNotify hpending] at this
  · intro h events s hof hrun p hp
    obtain ⟨before, e, later, t, rfl, hbefore, hp⟩ := Run.mem_observe hp
    have hsound := sound_run (fun e he => hof e (List.mem_append_left _ he)) hbefore
    obtain ⟨hshown, kept, hkept, hupdate, hversion, hnonempty⟩ := hsound.handedOn hp
    rw [hshown.version] at hversion hnonempty
    exact h p.2.payload hshown.1 kept hkept p.1 (by rw [hshown.2]; rfl) hupdate
      (hversion ▸ hnonempty) hversion.symm

/-- A notify of version 1.0 with an update of a given checksum. -/
def notifyOf (checksum : String) : Members :=
  [("version", .str "1.0"), ("update", .obj [("checksum", .str checksum)])]

/-- A version that is announced twice, with another update: the first one is approved, the second
one is handed on. -/
theorem republished_not_bound : ¬ Binds (fun _ => "") {data | ∃ c, data = notifyOf c} := by
  intro h
  obtain ⟨⟨s, hrun⟩, hmem⟩ := @overtakingRun_handsOn (fun _ => "") (notifyOf "aa") (notifyOf "bb")
    [("checksum", .str "bb")] _ rfl rfl nofun rfl
  have hof : ∀ e ∈ overtakingRun (notifyOf "aa") (notifyOf "bb"),
      NotifiesOf {data | ∃ c, data = notifyOf c} e := by
    simp only [overtakingRun, List.forall_mem_cons]
    exact ⟨⟨"aa", rfl⟩, trivial, ⟨"aa", rfl⟩, ⟨"bb", rfl⟩, trivial, nofun⟩
  have heq : Json.obj [("checksum", .str "aa")] = Json.obj [("checksum", .str "bb")] :=
    h _ s hof hrun _ hmem
  simp at heq

end OtaSystem

end Ota

end VehicleStack
