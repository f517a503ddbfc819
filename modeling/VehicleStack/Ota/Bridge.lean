import VehicleStack.DigitalKey.Json
import VehicleStack.Lib.Mealy
import Mathlib.Data.List.Nodup

/-!
# Handing updates on

`OtaBridge` of `ota_bridge.py`. It keeps the last notify that has an update, and when a decision
`yes` for its version comes it hands the update to MQTT, where the installing service
takes it up.

A message is its topic and what `json.loads` makes of it. How a call of `publish` ends is part of
the surroundings (`VehicleStack.Ota.PublishOutcome`). What is printed is left out, and
so are connections. The main result is `VehicleStack.Ota.OtaBridge.authorised_once`: an update is
handed on only for a `yes` to the notify that was kept last, and no version is published
successfully a second time, in any run.
-/

namespace VehicleStack

namespace Ota

open DigitalKey (Json)

/-- The members of a JSON object. -/
abbrev Members := List (String × Json)

/-- `data.get(name, default)`. -/
def member (data : Members) (name : String) (default : Json) : Json :=
  (data.lookup name).getD default

/-- `prefixed`. -/
def prefixed (topicTail vin : String) : String := "vc/" ++ vin ++ "/" ++ topicTail

/-- `TOPIC_NOTIFY` and `TOPIC_DECISION`. -/
def topicNotify : String := "ota/vehicle_control/notify"
def topicDecision : String := "ui/ota/decision"

/-- A message: its topic, and the value its payload is, if it is UTF-8 and JSON. -/
structure Message where
  topic : String
  payload : Option Json

/-- How a call of `publish` ends. -/
inductive PublishOutcome where
  /-- `MQTT_ERR_SUCCESS`. -/
  | success
  /-- Another return code. -/
  | failure (rc : ℕ)
  /-- An exception, in `publish` or on the way to it. -/
  | raised
  deriving DecidableEq

/-- An update that is handed to MQTT, for the version of a decision. -/
structure Publication where
  version : String
  update : Members
  outcome : PublishOutcome

/-- What a callback does besides changing the bridge. -/
inductive Reaction where
  | nothing
  /-- An exception that the callback does not catch. -/
  | raised
  | published (p : Publication)

/-- What `_publish_update` hands on, if it does. -/
def Reaction.publication : Reaction → Option Publication
  | published p => some p
  | _ => none

/-- `OtaBridge`. -/
structure OtaBridge where
  latestNotify : Option Members := none
  latestVersion : Option String := none
  processedVersions : List String := []

namespace OtaBridge

variable (repr : Json → String) (vin : String)

/-- `_handle_notify`. -/
def handleNotify (b : OtaBridge) (data : Members) : OtaBridge :=
  match member data "update" .null with
  | .obj _ =>
    { b with
      latestNotify := some data
      latestVersion := some ((member data "version" (.str "unknown")).toStr repr) }
  | _ => b

/-- `_publish_update`, and what comes after it in `_handle_decision`: the version counts as
processed unless there was an exception. -/
def publishUpdate (b : OtaBridge) (version : String) (update : Members) (outcome : PublishOutcome) :
    OtaBridge × Reaction :=
  (if outcome = .raised then b
    else { b with processedVersions := b.processedVersions.insert version },
    .published ⟨version, update, outcome⟩)

/-- `_handle_decision`. -/
def handleDecision (b : OtaBridge) (data : Members) (outcome : PublishOutcome) :
    OtaBridge × Reaction :=
  let version := (member data "version" (.str "")).toStr repr
  match member data "decision" .null with
  | .str "yes" =>
    match b.latestNotify, b.latestVersion with
    | some notify, some latestVersion =>
      if notify = [] ∨ latestVersion = "" then (b, .nothing)
      else if version ≠ latestVersion then (b, .nothing)
      else if version ∈ b.processedVersions then (b, .nothing)
      else
        match member notify "update" .null with
        | .obj update => b.publishUpdate version update outcome
        | _ => (b, .nothing)
    | _, _ => (b, .nothing)
  -- a list or a dictionary cannot be looked for in a set
  | .arr _ | .obj _ => (b, .raised)
  | _ => (b, .nothing)

/-- `_on_message`; `outcome` is how a call of `publish` ends if it comes to one. -/
def onMessage (b : OtaBridge) (m : Message × PublishOutcome) : OtaBridge × Reaction :=
  match m.1.payload with
  | some (.obj data) =>
    if m.1.topic = prefixed topicNotify vin then (b.handleNotify repr data, .nothing)
    else if m.1.topic = prefixed topicDecision vin then b.handleDecision repr data m.2
    else (b, .nothing)
  | _ => (b, .nothing)

/-! ### What one message does -/

/-- The version a notify is kept under, and the version a decision is for. -/
def notifyVersion (data : Members) : String := (member data "version" (.str "unknown")).toStr repr
def decisionVersion (data : Members) : String := (member data "version" (.str "")).toStr repr

/-- A decision is a `yes` that the bridge acts on, for the notify it keeps. -/
structure Approves (b : OtaBridge) (data notify update : Members) : Prop where
  yes : member data "decision" .null = .str "yes"
  kept : b.latestNotify = some notify
  version : b.latestVersion = some (decisionVersion repr data)
  nonempty : decisionVersion repr data ≠ ""
  fresh : decisionVersion repr data ∉ b.processedVersions
  update : member notify "update" .null = .obj update

/-- **A decision** is acted on, or it changes nothing. -/
theorem handleDecision_cases (b : OtaBridge) (data : Members) (outcome : PublishOutcome) :
    (∃ notify update, b.Approves repr data notify update ∧
      b.handleDecision repr data outcome =
        b.publishUpdate (decisionVersion repr data) update outcome) ∨
    (b.handleDecision repr data outcome).1 = b ∧
      (b.handleDecision repr data outcome).2.publication = none := by
  rw [handleDecision]
  split
  · rename_i hyes
    split
    · rename_i notify latestVersion hnotify hversion
      split
      · exact Or.inr ⟨rfl, rfl⟩
      rename_i hnonempty
      split
      · exact Or.inr ⟨rfl, rfl⟩
      rename_i hsame
      rw [not_not] at hsame
      split
      · exact Or.inr ⟨rfl, rfl⟩
      rename_i hfresh
      split
      · rename_i update hupdate
        refine Or.inl ⟨notify, update, ⟨hyes, hnotify, ?_, fun h => ?_, hfresh, hupdate⟩, rfl⟩
        · rw [hversion, ← hsame]
          rfl
        · exact hnonempty (Or.inr (hsame.symm.trans h))
      · exact Or.inr ⟨rfl, rfl⟩
    · exact Or.inr ⟨rfl, rfl⟩
  · exact Or.inr ⟨rfl, rfl⟩
  · exact Or.inr ⟨rfl, rfl⟩
  · exact Or.inr ⟨rfl, rfl⟩

/-- A decision leaves the notify that is kept alone. -/
theorem kept_handleDecision (b : OtaBridge) (data : Members) (outcome : PublishOutcome) :
    (b.handleDecision repr data outcome).1.latestNotify = b.latestNotify ∧
      (b.handleDecision repr data outcome).1.latestVersion = b.latestVersion := by
  rcases b.handleDecision_cases repr data outcome with ⟨_, _, -, heq⟩ | ⟨hsame, -⟩
  · rw [heq, publishUpdate]
    split
    · exact ⟨rfl, rfl⟩
    · exact ⟨rfl, rfl⟩
  · rw [hsame]
    exact ⟨rfl, rfl⟩

/-- A decision that the bridge can act on is acted on. -/
theorem Approves.handleDecision_eq {b : OtaBridge} {data notify update : Members}
    (h : b.Approves repr data notify update) (outcome : PublishOutcome) :
    b.handleDecision repr data outcome =
      b.publishUpdate (decisionVersion repr data) update outcome := by
  have hnotify : notify ≠ [] := by
    rintro rfl
    have := h.update
    cases this
  have hversion : (member data "version" (.str "")).toStr repr = decisionVersion repr data := rfl
  rw [handleDecision, h.yes]
  simp only [h.kept, h.version, hversion, hnotify, h.nonempty, h.fresh, h.update, or_self, ne_eq,
    not_true_eq_false, if_false]

/-- A notify does not change what has been processed. -/
theorem processedVersions_handleNotify (b : OtaBridge) (data : Members) :
    (b.handleNotify repr data).processedVersions = b.processedVersions := by
  rw [handleNotify]
  split
  · rfl
  · rfl

/-- The notify a message brings, if it has an update. -/
def bufferedNotify (m : Message) : Option Members :=
  match m.payload with
  | some (.obj data) =>
    if m.topic = prefixed topicNotify vin then
      match member data "update" .null with
      | .obj _ => some data
      | _ => none
    else none
  | _ => none

/-- **A message** is a notify that is kept, or a `yes` that is acted on, or it changes
nothing. -/
theorem onMessage_cases (b : OtaBridge) (m : Message) (outcome : PublishOutcome) :
    (∃ data, bufferedNotify vin m = some data ∧
      b.onMessage repr vin (m, outcome) =
        ({ b with latestNotify := some data, latestVersion := some (notifyVersion repr data) },
          .nothing)) ∨
    (bufferedNotify vin m = none ∧ ∃ data notify update, m.topic = prefixed topicDecision vin ∧
      m.payload = some (.obj data) ∧ b.Approves repr data notify update ∧
      b.onMessage repr vin (m, outcome) =
        b.publishUpdate (decisionVersion repr data) update outcome) ∨
    (bufferedNotify vin m = none ∧ (b.onMessage repr vin (m, outcome)).1 = b ∧
      (b.onMessage repr vin (m, outcome)).2.publication = none) := by
  rcases m with ⟨topic, - | payload⟩
  · exact Or.inr (Or.inr ⟨rfl, rfl, rfl⟩)
  cases payload with
  | obj data =>
    simp only [bufferedNotify, onMessage]
    by_cases hnotify : topic = prefixed topicNotify vin
    · rw [if_pos hnotify, if_pos hnotify, handleNotify]
      split
      · exact Or.inl ⟨data, rfl, rfl⟩
      · exact Or.inr (Or.inr ⟨rfl, rfl, rfl⟩)
    rw [if_neg hnotify, if_neg hnotify]
    by_cases hdecision : topic = prefixed topicDecision vin
    · rw [if_pos hdecision]
      rcases b.handleDecision_cases repr data outcome with ⟨notify, update, happroves, heq⟩ | hsame
      · exact Or.inr (Or.inl ⟨rfl, data, notify, update, hdecision, rfl, happroves, heq⟩)
      · exact Or.inr (Or.inr ⟨rfl, hsame⟩)
    · rw [if_neg hdecision]
      exact Or.inr (Or.inr ⟨rfl, rfl, rfl⟩)
  | _ => exact Or.inr (Or.inr ⟨rfl, rfl, rfl⟩)

/-! ### Runs -/

/-- The bridge after some messages, and what it did for each. -/
def after (messages : List (Message × PublishOutcome)) : OtaBridge :=
  Mealy.final (onMessage repr vin) {} messages
def reactions (messages : List (Message × PublishOutcome)) : List Reaction :=
  Mealy.outputs (onMessage repr vin) {} messages

/-- The notify that came last, of those that have an update. -/
def lastNotify (messages : List (Message × PublishOutcome)) : Option Members :=
  (messages.filterMap fun m => bufferedNotify vin m.1).getLast?

/-- The versions that were published successfully, as often as they were. -/
def succeeded (messages : List (Message × PublishOutcome)) : List String :=
  (reactions repr vin messages).filterMap fun r =>
    r.publication.bind fun p => if p.outcome = .success then some p.version else none

/-- What the bridge knows of the messages so far. -/
structure Knows (messages : List (Message × PublishOutcome)) (b : OtaBridge) : Prop where
  notify : b.latestNotify = lastNotify vin messages
  version : b.latestVersion = (lastNotify vin messages).map (notifyVersion repr)
  once : (succeeded repr vin messages).Nodup
  processed : ∀ v ∈ succeeded repr vin messages, v ∈ b.processedVersions

theorem succeeded_concat (messages : List (Message × PublishOutcome))
    (m : Message × PublishOutcome) :
    succeeded repr vin (messages ++ [m]) = succeeded repr vin messages ++
      (((after repr vin messages).onMessage repr vin m).2.publication.bind fun p =>
        if p.outcome = .success then some p.version else none).toList := by
  rw [succeeded, reactions, Mealy.outputs_concat, List.filterMap_append]
  congr 1

theorem lastNotify_concat (messages : List (Message × PublishOutcome))
    (m : Message × PublishOutcome) :
    lastNotify vin (messages ++ [m]) = (bufferedNotify vin m.1).or (lastNotify vin messages) := by
  rw [lastNotify, List.filterMap_append]
  cases hbuffered : bufferedNotify vin m.1 with
  | none => simp [hbuffered, lastNotify]
  | some data => simp [hbuffered]

/-- One more message. -/
theorem Knows.concat {messages : List (Message × PublishOutcome)}
    (h : Knows repr vin messages (after repr vin messages)) (m : Message × PublishOutcome) :
    Knows repr vin (messages ++ [m]) (after repr vin (messages ++ [m])) := by
  obtain ⟨m, outcome⟩ := m
  obtain ⟨b, hb⟩ : ∃ b, b = after repr vin messages := ⟨_, rfl⟩
  have hafter : after repr vin (messages ++ [(m, outcome)]) =
      (b.onMessage repr vin (m, outcome)).1 := by
    rw [after, Mealy.final_concat, hb]
    rfl
  have hsucceeded := succeeded_concat repr vin messages (m, outcome)
  rw [← hb] at h hsucceeded
  rcases b.onMessage_cases repr vin m outcome with ⟨data, hdata, heq⟩ |
    ⟨hnone, data, notify, update, -, -, happroves, heq⟩ | ⟨hnone, hsame, hpublication⟩
  · -- a notify is kept
    have hlast : lastNotify vin (messages ++ [(m, outcome)]) = some data := by
      rw [lastNotify_concat, hdata]
      rfl
    rw [heq] at hafter hsucceeded
    rw [hafter]
    have hsame : succeeded repr vin (messages ++ [(m, outcome)]) = succeeded repr vin messages :=
      hsucceeded.trans (List.append_nil _)
    refine ⟨hlast.symm, ?_, hsame ▸ h.once, hsame ▸ h.processed⟩
    rw [hlast]
    rfl
  · -- an update is handed on
    have hlast : lastNotify vin (messages ++ [(m, outcome)]) = lastNotify vin messages := by
      rw [lastNotify_concat, hnone, Option.none_or]
    rw [heq] at hafter hsucceeded
    rw [hafter, publishUpdate]
    by_cases hraised : outcome = .raised
    · have hsame : succeeded repr vin (messages ++ [(m, outcome)]) =
        succeeded repr vin messages := by
        rw [hsucceeded, hraised]
        exact List.append_nil _
      rw [if_pos hraised]
      exact ⟨hlast ▸ h.notify, hlast ▸ h.version, hsame ▸ h.once, hsame ▸ h.processed⟩
    · have hsucc : succeeded repr vin (messages ++ [(m, outcome)]) =
          succeeded repr vin messages ++
            if outcome = .success then [decisionVersion repr data] else [] := by
        rw [hsucceeded]
        change _ ++ (if outcome = .success then some _ else none).toList = _
        split <;> rfl
      rw [if_neg hraised]
      refine ⟨hlast ▸ h.notify, hlast ▸ h.version, ?_, fun v hv => ?_⟩
      · -- the version was not processed before
        rw [hsucc]
        split
        · refine List.Nodup.append h.once (List.nodup_singleton _) ?_
          exact List.disjoint_singleton.mpr fun hmem => happroves.fresh (h.processed _ hmem)
        · rw [List.append_nil]
          exact h.once
      · refine List.mem_insert_iff.mpr ?_
        rw [hsucc] at hv
        rcases List.mem_append.mp hv with hold | hnew
        · exact Or.inr (h.processed v hold)
        · split at hnew
          · exact Or.inl (List.mem_singleton.mp hnew)
          · exact absurd hnew List.not_mem_nil
  · -- nothing happens
    have hlast : lastNotify vin (messages ++ [(m, outcome)]) = lastNotify vin messages := by
      rw [lastNotify_concat, hnone, Option.none_or]
    have hsucc : succeeded repr vin (messages ++ [(m, outcome)]) = succeeded repr vin messages := by
      rw [hsucceeded, hpublication]
      exact List.append_nil _
    rw [hafter, hsame]
    exact ⟨hlast ▸ h.notify, hlast ▸ h.version, hsucc ▸ h.once, hsucc ▸ h.processed⟩

/-- In every run the bridge knows the messages so far. -/
theorem knows (messages : List (Message × PublishOutcome)) :
    Knows repr vin messages (after repr vin messages) := by
  induction messages using List.reverseRecOn with
  | nil => exact ⟨rfl, rfl, List.nodup_nil, fun v hv => absurd hv List.not_mem_nil⟩
  | append_singleton messages m ih => exact ih.concat repr vin m

/-- After some messages, a message is a `yes` to the notify that came last, and what is handed
on is the update of that notify. -/
structure Authorises (messages : List (Message × PublishOutcome)) (m : Message)
    (p : Publication) : Prop where
  topic : m.topic = prefixed topicDecision vin
  decision : ∃ data notify, m.payload = some (.obj data) ∧
    member data "decision" .null = .str "yes" ∧ lastNotify vin messages = some notify ∧
    decisionVersion repr data = notifyVersion repr notify ∧
    p.version = notifyVersion repr notify ∧ member notify "update" .null = .obj p.update

/-- **Updates are handed on when they are authorised, and once**: in every run, an update goes
to MQTT only for a decision `yes` with the version of the notify that was kept last, it is the
update of that notify, and no version is published successfully twice. -/
theorem authorised_once (messages : List (Message × PublishOutcome)) :
    (∀ m p, ((after repr vin messages).onMessage repr vin m).2.publication = some p →
      Authorises repr vin messages m.1 p) ∧
    (succeeded repr vin messages).Nodup := by
  have hknows := knows repr vin messages
  refine ⟨?_, hknows.once⟩
  rintro ⟨m, outcome⟩ p hp
  rcases (after repr vin messages).onMessage_cases repr vin m outcome with ⟨data, -, heq⟩ |
    ⟨-, data, notify, update, htopic, hpayload, happroves, heq⟩ | ⟨-, -, hnone⟩
  · rw [heq] at hp
    cases hp
  · rw [heq] at hp
    obtain rfl : _ = p := Option.some.inj hp
    have hlast : lastNotify vin messages = some notify := hknows.notify.symm.trans happroves.kept
    have hversion := hknows.version.symm.trans happroves.version
    rw [hlast, Option.map_some, Option.some_inj] at hversion
    exact ⟨htopic, data, notify, hpayload, happroves.yes, hlast, hversion.symm, hversion.symm,
      happroves.update⟩
  · rw [hnone] at hp
    cases hp

end OtaBridge

end Ota

end VehicleStack
