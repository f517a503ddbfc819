import VehicleStack.DigitalKey.Text
import VehicleStack.Ota.OtaService
import VehicleStack.Ota.PendingNotify

/-!
# The publisher of updates

`send_ota.py` and `ota_publisher.py`: the digest of the new file is entered in the update, the
update is wrapped in a notify, and the notify is published again and again until an
acknowledgement says yes, or often enough.

An acknowledgement is judged by its text alone. `VehicleStack.Ota.publications_eq` is about the
publisher and terminals of `terminal_ui.py`: it stops with the first round in which a user says yes,
to whichever notify, and no sooner unless the number of rounds is limited.
-/

namespace VehicleStack

namespace Ota

open DigitalKey (Json strip)

/-! ### The notify -/

/-- `build_notify_payload`, which raises if there is no version. -/
def buildNotifyPayload (updatePayload : Members) (version : Option String) (rePromptSec : ℤ)
    (payloadMeta : Members) : Option Members :=
  let notifyVersion := (Json.ofOption version).or (member updatePayload "version" .null)
  if notifyVersion.truthy then
    some [("version", notifyVersion), ("re_prompt_sec", .int rePromptSec),
      ("update", .obj updatePayload), ("meta", .obj payloadMeta)]
  else none

/-- `update_checksum_in_json`, unless it raises: the digest of the file in the build directory that
has the name of the source. -/
def updateChecksumInJson (sha256Hex : Bytes → String) (buildDir : Path → Option Bytes)
    (updatePayload : Members) : Option Members :=
  match updatePayload.lookup "target" with
  | some (.obj target) =>
    match target.lookup "source_path" with
    | some (.str sourcePath) =>
      (buildDir (basename sourcePath.toList)).map fun content =>
        Json.setMember updatePayload "checksum" (.str (sha256Hex content))
    | _ => none
  | _ => none

/-- What `send_ota.py` publishes. -/
def sendOta (sha256Hex : Bytes → String) (buildDir : Path → Option Bytes)
    (updatePayload : Members) (version : Option String) (rePromptSec : ℤ)
    (payloadMeta : Members) : Option Members :=
  (updateChecksumInJson sha256Hex buildDir updatePayload).bind fun updatePayload =>
    buildNotifyPayload updatePayload version rePromptSec payloadMeta

/-- An update has the digest of a file in the build directory, the one its target names. -/
def HasDigest (sha256Hex : Bytes → String) (buildDir : Path → Option Bytes)
    (updatePayload : Members) (content : Bytes) : Prop :=
  ∃ target sourcePath, updatePayload.lookup "target" = some (.obj target) ∧
    target.lookup "source_path" = some (.str sourcePath) ∧
    buildDir (basename sourcePath.toList) = some content ∧
    updatePayload.lookup "checksum" = some (.str (sha256Hex content))

theorem lookup_cons_of_eq {key : String} {e : String × Json} (h : key = e.1) (members : Members) :
    (e :: members).lookup key = some e.2 := by
  rw [h]
  exact List.lookup_cons_self

theorem lookup_cons_of_ne {key : String} {e : String × Json} (h : key ≠ e.1) (members : Members) :
    (e :: members).lookup key = members.lookup key := by
  rw [List.lookup_cons, beq_eq_false_iff_ne.mpr h]

/-- Replacing a member leaves the others alone. -/
theorem lookup_replace_of_ne (members : Members) {name key : String} (value : Json)
    (h : key ≠ name) :
    (members.map fun e => if e.1 = name then (name, value) else e).lookup key =
      members.lookup key := by
  induction members with
  | nil => rfl
  | cons e members ih =>
    rw [List.map_cons]
    by_cases hname : e.1 = name
    · rw [if_pos hname, lookup_cons_of_ne h, lookup_cons_of_ne fun heq => h (heq.trans hname), ih]
    · rw [if_neg hname]
      by_cases hkey : key = e.1
      · rw [lookup_cons_of_eq hkey, lookup_cons_of_eq hkey]
      · rw [lookup_cons_of_ne hkey, lookup_cons_of_ne hkey, ih]

theorem lookup_replace_self {members : Members} {name : String} (value : Json)
    (h : members.any (fun e => e.1 = name) = true) :
    (members.map fun e => if e.1 = name then (name, value) else e).lookup name = some value := by
  induction members with
  | nil => exact absurd h Bool.false_ne_true
  | cons e members ih =>
    rw [List.map_cons]
    by_cases hname : e.1 = name
    · rw [if_pos hname]
      exact List.lookup_cons_self
    · rw [List.any_cons, decide_eq_false hname, Bool.false_or] at h
      rw [if_neg hname, lookup_cons_of_ne (Ne.symm hname), ih h]

/-- **What is found after a member has been set.** -/
theorem lookup_setMember (members : Members) (name key : String) (value : Json) :
    (Json.setMember members name value).lookup key =
      if key = name then some value else members.lookup key := by
  rw [Json.setMember]
  by_cases hthere : members.any (fun e => e.1 = name) = true
  · rw [if_pos hthere]
    by_cases hkey : key = name
    · rw [if_pos hkey, hkey, lookup_replace_self value hthere]
    · rw [if_neg hkey, lookup_replace_of_ne members value hkey]
  · rw [if_neg hthere, List.lookup_append]
    by_cases hkey : key = name
    · have hnone : members.lookup key = none := by
        rw [List.lookup_eq_none_iff]
        intro e he
        refine bne_iff_ne.mpr fun heq => hthere ?_
        exact List.any_eq_true.mpr ⟨e, he, decide_eq_true (heq.symm.trans hkey)⟩
      rw [hnone, if_pos hkey, Option.none_or]
      exact lookup_cons_of_eq hkey []
    · rw [if_neg hkey, lookup_cons_of_ne hkey, List.lookup_nil, Option.or_none]

theorem hasDigest_updateChecksumInJson {sha256Hex : Bytes → String}
    {buildDir : Path → Option Bytes} {updatePayload updatePayload' : Members}
    (h : updateChecksumInJson sha256Hex buildDir updatePayload = some updatePayload') :
    ∃ content, HasDigest sha256Hex buildDir updatePayload' content := by
  rw [updateChecksumInJson] at h
  split at h
  · rename_i target htarget
    split at h
    · rename_i sourcePath hsource
      obtain ⟨content, hbuilt, rfl⟩ := Option.map_eq_some_iff.mp h
      refine ⟨content, target, sourcePath, ?_, hsource, hbuilt, ?_⟩
      · rw [lookup_setMember, if_neg (by decide), htarget]
      · rw [lookup_setMember, if_pos rfl]
    · exact absurd h (Option.some_ne_none _).symm
  · exact absurd h (Option.some_ne_none _).symm

/-- **The update of a notify** that is published has the digest of the file that was built. -/
theorem hasDigest_sendOta {sha256Hex : Bytes → String} {buildDir : Path → Option Bytes}
    {updatePayload payloadMeta data update : Members} {version : Option String} {rePromptSec : ℤ}
    (h : sendOta sha256Hex buildDir updatePayload version rePromptSec payloadMeta = some data)
    (hupdate : member data "update" .null = .obj update) :
    ∃ content, HasDigest sha256Hex buildDir update content := by
  obtain ⟨updatePayload', hchecksum, hnotify⟩ := Option.bind_eq_some_iff.mp h
  simp only [buildNotifyPayload] at hnotify
  split at hnotify
  · obtain rfl := Option.some.inj hnotify
    obtain rfl : updatePayload' = update := Json.obj.inj hupdate
    exact hasDigest_updateChecksumInJson hchecksum
  · exact absurd hnotify (Option.some_ne_none _).symm

/-! ### Acknowledgements -/

/-- `str.lower`, given what it makes of strings that are not ASCII. -/
def lower (other : String → String) (s : String) : String :=
  if s.toList.all fun c => c.toNat < 128 then String.ofList (s.toList.map Char.toLower)
  else other s

/-- `APPROVED_VALUES`. -/
def approvedValues : List String :=
  ["approved", "approve", "accepted", "accept", "ok", "yes", "true"]

variable (other : String → String)

/-- What a value says, if it is a truth value or a text. -/
def decisionText : Json → Option String
  | .bool b => some (if b then "true" else "false")
  | .str s => some (lower other (strip s))
  | _ => none

/-- `_extract_decision`. -/
def extractDecision : Json → Option String
  | .obj message =>
    ["decision", "status", "result", "state", "response"].findSome? fun key =>
      decisionText other (member message key .null)
  | message => decisionText other message

/-- `_decode_payload`, of the text of an acknowledgement without the spaces around it. -/
def decodePayload (loads : String → Option Json) (text : String) : Json :=
  if text = "" then .str "" else (loads text).getD (.str text)

/-- `handle_ack`: whether the publisher takes it for a yes. -/
def handleAck (message : Json) : Bool :=
  match extractDecision other message with
  | some decision => decision ∈ approvedValues
  | none => false

/-! ### The rounds -/

/-- Why the publisher stops. -/
inductive PublisherExit where
  | published
  | acknowledged
  | maxRepeat
  deriving DecidableEq

/-- The loop of `publish_ota_message` when it repeats, over the acknowledgements that arrive in each
round: how often it has published by then, and why it has stopped, if it has. -/
def publishRounds (maxRepeat : Option ℤ) : Bool → ℕ → List (List Json) → ℕ × Option PublisherExit
  | _, publishCount, [] => (publishCount + 1, none)
  | ackEvent, publishCount, acks :: rounds =>
    let ackEvent := ackEvent || acks.any (handleAck other)
    if ackEvent then (publishCount + 1, some .acknowledged)
    else if maxRepeat.any fun most => most ≤ (publishCount : ℤ) + 1 then
      (publishCount + 1, some .maxRepeat)
    else publishRounds maxRepeat ackEvent (publishCount + 1) rounds

/-- `publish_ota_message`, with the acknowledgements that arrive before the first notify is out. -/
def publishOtaMessage (repeatUntilAck : Bool) (maxRepeat : Option ℤ) (early : List Json)
    (rounds : List (List Json)) : ℕ × Option PublisherExit :=
  if repeatUntilAck then publishRounds other maxRepeat (early.any (handleAck other)) 0 rounds
  else (1, some .published)

/-- What a terminal sends is taken for a yes exactly if it is one. -/
theorem handleAck_ackPayload (decision : String) (pending : NotifyState) :
    handleAck other (.obj (ackPayload decision pending)) = true ↔ decision = "yes" := by
  have hdecision : extractDecision other (.obj (ackPayload decision pending)) =
      some (lower other (strip (if decision = "yes" then "approved" else "declined"))) := rfl
  have happroved : lower other (strip "approved") = "approved" := rfl
  have hdeclined : lower other (strip "declined") = "declined" := rfl
  rw [handleAck, hdecision]
  by_cases hyes : decision = "yes"
  · rw [if_pos hyes, happroved]
    exact iff_of_true (by decide) hyes
  · rw [if_neg hyes, hdeclined]
    exact iff_of_false (by decide) hyes

/-- Whether the publisher gets as far as a round, if nobody says yes before it. -/
def allows (maxRepeat : Option ℤ) (round : ℕ) : Bool :=
  maxRepeat.all fun most => round < max 1 most.toNat

theorem allows_some_iff {most : ℤ} {round : ℕ} :
    allows (some most) round = true ↔ round < max 1 most.toNat := decide_eq_true_iff

/-- It gets as far as a round that does not come after one in which it stops. -/
theorem allows_of_left {maxRepeat : Option ℤ} {publishCount : ℕ}
    (hleft : ∀ most ∈ maxRepeat, publishCount = 0 ∨ (publishCount : ℤ) < most) :
    allows maxRepeat publishCount = true := by
  cases maxRepeat with
  | none => rfl
  | some most =>
    have hmost := hleft most rfl
    exact allows_some_iff.mpr (by omega)

/-- **The rounds that are left**, if nobody has said yes: the publisher stops in the first round in
which somebody does, or when it has published as often as it may. -/
theorem publishRounds_eq (maxRepeat : Option ℤ) (publishCount : ℕ) (rounds : List (List Json))
    (hleft : ∀ most ∈ maxRepeat, publishCount = 0 ∨ (publishCount : ℤ) < most) :
    publishRounds other maxRepeat false publishCount rounds =
      if allows maxRepeat (publishCount + rounds.findIdx (·.any (handleAck other))) then
        (publishCount + rounds.findIdx (·.any (handleAck other)) + 1,
          if rounds.findIdx (·.any (handleAck other)) < rounds.length then some .acknowledged
          else none)
      else (max 1 (maxRepeat.getD 0).toNat, some .maxRepeat) := by
  induction rounds generalizing publishCount with
  | nil =>
    rw [List.findIdx_nil, Nat.add_zero, if_pos (allows_of_left hleft)]
    rfl
  | cons acks rounds ih =>
    obtain ⟨k, hk⟩ : ∃ k, k = rounds.findIdx (·.any (handleAck other)) := ⟨_, rfl⟩
    rw [publishRounds, Bool.false_or, List.findIdx_cons, ← hk]
    rw [← hk] at ih
    by_cases hyes : acks.any (handleAck other) = true
    · rw [hyes, if_pos rfl, cond_true]
      exact (if_pos (allows_of_left hleft)).symm
    rw [Bool.eq_false_iff.mpr hyes, if_neg Bool.false_ne_true, cond_false, List.length_cons]
    have hsum : publishCount + (k + 1) = publishCount + 1 + k := by omega
    have hcount : k + 1 < rounds.length + 1 ↔ k < rounds.length := Nat.succ_lt_succ_iff
    rw [hsum]
    simp only [hcount]
    cases maxRepeat with
    | none => exact ih (publishCount + 1) fun most hmost => absurd hmost (Option.not_mem_none most)
    | some most =>
      have hmost := hleft most rfl
      by_cases hend : most ≤ (publishCount : ℤ) + 1
      · -- it has published as often as it may
        have hstop : ¬ allows (some most) (publishCount + 1 + k) = true := by
          rw [allows_some_iff]
          omega
        have hmany : publishCount + 1 = max 1 most.toNat := by omega
        rw [Option.any_some, if_pos (decide_eq_true hend), if_neg hstop, Option.getD_some, hmany]
      · rw [Option.any_some, if_neg (mt of_decide_eq_true hend)]
        refine ih (publishCount + 1) fun most' hmost' => Or.inr ?_
        obtain rfl : most = most' := Option.some.inj hmost'
        push_cast
        omega

/-- The user of a terminal answers yes to some notify. -/
def saysYes (answers : List (String × NotifyState)) : Bool := answers.any fun a => a.1 = "yes"

/-- **When the publisher stops**, with terminals that answer in each round: in the first round in
which a user says yes, to whichever notify, or else when it has published as often as it may. -/
theorem publications_eq (maxRepeat : Option ℤ) (rounds : List (List (String × NotifyState))) :
    publishOtaMessage other true maxRepeat []
        (rounds.map fun answers => answers.map fun a => .obj (ackPayload a.1 a.2)) =
      if allows maxRepeat (rounds.findIdx saysYes) then
        (rounds.findIdx saysYes + 1,
          if rounds.findIdx saysYes < rounds.length then some .acknowledged else none)
      else (max 1 (maxRepeat.getD 0).toNat, some .maxRepeat) := by
  have hyes : (fun answers : List (String × NotifyState) =>
      (answers.map fun a => Json.obj (ackPayload a.1 a.2)).any (handleAck other)) = saysYes := by
    funext answers
    rw [List.any_map]
    refine congrArg answers.any (funext fun a => ?_)
    rw [Function.comp_apply, Bool.eq_iff_iff, handleAck_ackPayload, decide_eq_true_iff]
  have hrounds := publishRounds_eq other maxRepeat 0
    (rounds.map fun answers => answers.map fun a => Json.obj (ackPayload a.1 a.2))
    fun _ _ => Or.inl rfl
  rw [List.findIdx_map, List.length_map, Nat.zero_add] at hrounds
  rw [publishOtaMessage, if_pos rfl]
  refine hrounds.trans ?_
  rw [← hyes]
  rfl

end Ota

end VehicleStack
