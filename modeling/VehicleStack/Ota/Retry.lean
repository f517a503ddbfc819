import VehicleStack.Ota.Bridge

/-!
# A `yes` that is given again

A version that the bridge counts as processed is not handed on again, so it matters that it
counts as processed only after a success: then a `yes` whose publish failed can be given again
(`VehicleStack.Ota.OtaBridge.LosesNothing`).

`_publish_update` prints a return code other than success and returns as it does on success, and
only an exception keeps the version out of the set. The main result is
`VehicleStack.Ota.OtaBridge.losesNothing_iff`: no approval is lost, at any time of a run, exactly if
no publish of it ends with such a return code.
-/

namespace VehicleStack

namespace Ota

open DigitalKey (Json)

namespace OtaBridge

variable (repr : Json → String) (vin : String)

/-- The versions of which a publish failed, as often as one did. -/
def failed (messages : List (Message × PublishOutcome)) : List String :=
  (reactions repr vin messages).filterMap fun r =>
    r.publication.bind fun p => if p.outcome = .success then none else some p.version

/-- A message is a decision `yes` for a version. -/
def IsYes (version : String) (m : Message) : Prop :=
  m.topic = prefixed topicDecision vin ∧ ∃ data, m.payload = some (.obj data) ∧
    member data "decision" .null = .str "yes" ∧ decisionVersion repr data = version

/-- **No approval is lost** by the end of a run: only versions that were published successfully
count as processed, and a `yes` for the latest version, of which a publish has failed and
none has succeeded, publishes the update of the notify that is kept. -/
structure LosesNothing (messages : List (Message × PublishOutcome)) : Prop where
  processed : ∀ v ∈ (after repr vin messages).processedVersions, v ∈ succeeded repr vin messages
  again : ∀ v ∈ failed repr vin messages, v ∉ succeeded repr vin messages →
    (after repr vin messages).latestVersion = some v →
      ∀ m outcome, IsYes repr vin v m → ∃ notify update,
        lastNotify vin messages = some notify ∧ member notify "update" .null = .obj update ∧
          ((after repr vin messages).onMessage repr vin (m, outcome)).2.publication =
            some ⟨v, update, outcome⟩

/-- A publish that is refused: the bridge acts on a `yes`, and the publish ends with a return code
other than success. -/
def Refused (b : OtaBridge) (m : Message × PublishOutcome) : Prop :=
  m.1.topic = prefixed topicDecision vin ∧ (∃ rc, m.2 = .failure rc) ∧
    ∃ data notify update, m.1.payload = some (.obj data) ∧ b.Approves repr data notify update

/-! ### What a message does to the set -/

variable {repr vin}

/-- A decision that the bridge can act on is acted on when it arrives. -/
theorem Approves.onMessage_eq {b : OtaBridge} {m : Message} {data notify update : Members}
    (h : b.Approves repr data notify update) (htopic : m.topic = prefixed topicDecision vin)
    (hpayload : m.payload = some (.obj data)) (outcome : PublishOutcome) :
    b.onMessage repr vin (m, outcome) =
      b.publishUpdate (decisionVersion repr data) update outcome := by
  have hother : ¬ m.topic = prefixed topicNotify vin := by
    rw [htopic]
    intro heq
    -- the tails of the topics begin with different characters
    have hchars := congrArg String.toList heq
    simp only [prefixed, topicDecision, topicNotify, String.toList_append,
      List.append_cancel_left_eq] at hchars
    exact absurd hchars (by decide)
  rw [← h.handleDecision_eq repr outcome, onMessage, hpayload]
  dsimp only
  rw [if_neg hother, if_pos htopic]

/-- What is published is published for a version that did not count as processed, and with the
outcome that came with the message. -/
theorem of_publication {b : OtaBridge} {m : Message} {outcome : PublishOutcome} {p : Publication}
    (h : (b.onMessage repr vin (m, outcome)).2.publication = some p) :
    p.outcome = outcome ∧ p.version ∉ b.processedVersions ∧
      (b.onMessage repr vin (m, outcome)).1 = (b.publishUpdate p.version p.update outcome).1 ∧
      m.topic = prefixed topicDecision vin ∧
      ∃ data notify, m.payload = some (.obj data) ∧ p.version = decisionVersion repr data ∧
        b.Approves repr data notify p.update := by
  rcases b.onMessage_cases repr vin m outcome with ⟨data, -, heq⟩ |
    ⟨-, data, notify, update, htopic, hpayload, happroves, heq⟩ | ⟨-, -, hnone⟩
  · rw [heq] at h
    cases h
  · rw [heq] at h
    obtain rfl : _ = p := Option.some.inj h
    exact ⟨rfl, happroves.fresh, by rw [heq], htopic, data, notify, hpayload, rfl, happroves⟩
  · rw [hnone] at h
    cases h

/-- A message that publishes nothing leaves the set of processed versions alone. -/
theorem processedVersions_of_silent {b : OtaBridge} {m : Message} {outcome : PublishOutcome}
    (h : (b.onMessage repr vin (m, outcome)).2.publication = none) :
    (b.onMessage repr vin (m, outcome)).1.processedVersions = b.processedVersions := by
  rcases b.onMessage_cases repr vin m outcome with ⟨data, -, heq⟩ |
    ⟨-, data, notify, update, -, -, -, heq⟩ | ⟨-, hsame, -⟩
  · rw [heq]
  · rw [heq] at h
    cases h
  · rw [hsame]

/-- A publish is refused if it is tried and ends with another return code than success. -/
theorem refused_iff {b : OtaBridge} {m : Message} {outcome : PublishOutcome} :
    Refused repr vin b (m, outcome) ↔
      (∃ rc, outcome = .failure rc) ∧
        (b.onMessage repr vin (m, outcome)).2.publication.isSome := by
  constructor
  · rintro ⟨htopic, hfailure, data, notify, update, hpayload, happroves⟩
    rw [happroves.onMessage_eq htopic hpayload]
    exact ⟨hfailure, rfl⟩
  · rintro ⟨hfailure, hsome⟩
    obtain ⟨p, hp⟩ := Option.isSome_iff_exists.mp hsome
    obtain ⟨-, -, -, htopic, data, notify, hpayload, -, happroves⟩ := of_publication hp
    exact ⟨htopic, hfailure, data, notify, p.update, hpayload, happroves⟩

/-- **One more message**: a version that is published counts as processed from then on unless the
publish raised, and as published successfully if it did. -/
theorem processedVersions_concat (messages : List (Message × PublishOutcome)) (m : Message)
    (outcome : PublishOutcome) (v : String) :
    (v ∈ (after repr vin (messages ++ [(m, outcome)])).processedVersions ↔
      v ∈ (after repr vin messages).processedVersions ∨
        outcome ≠ .raised ∧ ∃ p, ((after repr vin messages).onMessage repr vin
          (m, outcome)).2.publication = some p ∧ p.version = v) ∧
    (v ∈ succeeded repr vin (messages ++ [(m, outcome)]) ↔ v ∈ succeeded repr vin messages ∨
      outcome = .success ∧ ∃ p, ((after repr vin messages).onMessage repr vin
        (m, outcome)).2.publication = some p ∧ p.version = v) := by
  have hafter : after repr vin (messages ++ [(m, outcome)]) =
      ((after repr vin messages).onMessage repr vin (m, outcome)).1 := by
    rw [after, Mealy.final_concat]
    rfl
  rw [hafter, succeeded_concat, List.mem_append, Option.mem_toList]
  generalize after repr vin messages = b
  cases hp : (b.onMessage repr vin (m, outcome)).2.publication with
  | none =>
    rw [processedVersions_of_silent hp]
    simp
  | some p =>
    obtain ⟨houtcome, -, hnext, -⟩ := of_publication hp
    rw [hnext, publishUpdate, ← houtcome]
    constructor
    · by_cases hraised : p.outcome = .raised
      · simp [hraised]
      · simp [hraised, List.mem_insert_iff, or_comm, eq_comm]
    · by_cases hsuccess : p.outcome = .success
      · simp [hsuccess]
      · simp [hsuccess]

/-! ### Runs -/

/-- What was published successfully counts as processed; a version for which a publish was
refused counts as processed and has never been published successfully. -/
theorem not_succeeded_of_refused {messages : List (Message × PublishOutcome)} {m : Message}
    {outcome : PublishOutcome} (h : Refused repr vin (after repr vin messages) (m, outcome))
    (later : List (Message × PublishOutcome)) :
    ∃ v ∈ (after repr vin (messages ++ (m, outcome) :: later)).processedVersions,
      v ∉ succeeded repr vin (messages ++ (m, outcome) :: later) := by
  obtain ⟨⟨rc, hfailure⟩, hsome⟩ := refused_iff.mp h
  obtain ⟨p, hp⟩ := Option.isSome_iff_exists.mp hsome
  refine ⟨p.version, ?_⟩
  induction later using List.reverseRecOn with
  | nil =>
    obtain ⟨hprocessed, hsucceeded⟩ :=
      @processedVersions_concat repr vin messages m outcome p.version
    refine ⟨hprocessed.mpr (Or.inr ⟨by rw [hfailure]; nofun, p, hp, rfl⟩), fun hmem => ?_⟩
    rcases hsucceeded.mp hmem with hold | ⟨hsuccess, -⟩
    · exact (of_publication hp).2.1 ((knows repr vin messages).processed _ hold)
    · exact absurd (hfailure.symm.trans hsuccess) nofun
  | append_singleton later last ih =>
    obtain ⟨hprocessed, hsucceeded⟩ := @processedVersions_concat repr vin
      (messages ++ (m, outcome) :: later) last.1 last.2 p.version
    have hsplit : messages ++ (m, outcome) :: (later ++ [last]) =
        messages ++ (m, outcome) :: later ++ [(last.1, last.2)] := by
      rw [List.append_assoc, List.cons_append]
    rw [hsplit]
    refine ⟨hprocessed.mpr (Or.inl ih.1), fun hmem => ?_⟩
    rcases hsucceeded.mp hmem with hold | ⟨-, q, hq, hversion⟩
    · exact ih.2 hold
    · -- a version that counts as processed is not published again
      exact (of_publication hq).2.1 (hversion ▸ ih.1)

/-- As long as no publish is refused, only what was published successfully counts as
processed. -/
theorem succeeded_of_processed {messages : List (Message × PublishOutcome)}
    (h : Mealy.AtEach (onMessage repr vin) (fun b m => ¬ Refused repr vin b m) {} messages) :
    ∀ v ∈ (after repr vin messages).processedVersions, v ∈ succeeded repr vin messages := by
  induction messages using List.reverseRecOn with
  | nil => exact fun v hv => absurd hv List.not_mem_nil
  | append_singleton messages m ih =>
    obtain ⟨m, outcome⟩ := m
    intro v hv
    have hbefore : ∀ v ∈ (after repr vin messages).processedVersions,
        v ∈ succeeded repr vin messages :=
      ih fun before i later hsplit => h before i (later ++ [(m, outcome)]) (by
        rw [hsplit, List.append_assoc, List.cons_append])
    have hrefused : ¬ Refused repr vin (after repr vin messages) (m, outcome) :=
      h messages (m, outcome) [] rfl
    obtain ⟨hprocessed, hsucceeded⟩ :=
      @processedVersions_concat repr vin messages m outcome v
    refine hsucceeded.mpr ?_
    rcases hprocessed.mp hv with hold | ⟨hraised, p, hp, hversion⟩
    · exact Or.inl (hbefore v hold)
    · refine Or.inr ⟨?_, p, hp, hversion⟩
      cases outcome with
      | success => rfl
      | failure rc => exact absurd (refused_iff.mpr ⟨⟨rc, rfl⟩, by rw [hp]; rfl⟩) hrefused
      | raised => exact absurd rfl hraised

/-- The notify that came last has an update. -/
theorem update_of_lastNotify {messages : List (Message × PublishOutcome)} {notify : Members}
    (h : lastNotify vin messages = some notify) :
    ∃ update, member notify "update" .null = .obj update := by
  obtain ⟨m, -, hm⟩ := List.mem_filterMap.mp (List.mem_of_getLast? h)
  rw [bufferedNotify] at hm
  split at hm
  · split at hm
    · split at hm
      · rename_i update hupdate
        obtain rfl := Option.some.inj hm
        exact ⟨update, hupdate⟩
      · cases hm
    · cases hm
  · cases hm

/-- A version of which a publish failed is not empty. -/
theorem ne_empty_of_failed {messages : List (Message × PublishOutcome)} {v : String}
    (h : v ∈ failed repr vin messages) : v ≠ "" := by
  obtain ⟨r, hr, hv⟩ := List.mem_filterMap.mp h
  obtain ⟨before, m, later, -, rfl⟩ := Mealy.mem_outputs _ hr
  obtain ⟨p, hp, hpv⟩ := Option.bind_eq_some_iff.mp hv
  split at hpv
  · cases hpv
  · obtain rfl := Option.some.inj hpv
    obtain ⟨-, -, -, -, data, notify, -, hversion, happroves⟩ := of_publication hp
    exact hversion ▸ happroves.nonempty

/-- **No approval is lost, at any time of a run, exactly if no publish is refused**: each publish
of an update either reports success or raises. -/
theorem losesNothing_iff (messages : List (Message × PublishOutcome)) :
    LosesNothing repr vin messages ↔
      Mealy.AtEach (onMessage repr vin) (fun b m => ¬ Refused repr vin b m) {} messages := by
  constructor
  · rintro h before ⟨m, outcome⟩ later rfl hrefused
    obtain ⟨v, hprocessed, hsucceeded⟩ := not_succeeded_of_refused hrefused later
    exact hsucceeded (h.processed v hprocessed)
  · intro h
    have hprocessed := succeeded_of_processed h
    refine ⟨hprocessed, fun v hfailed hnever hlatest m outcome hyes => ?_⟩
    obtain ⟨htopic, data, hpayload, hdecision, hversion⟩ := hyes
    have hknows := knows repr vin messages
    obtain ⟨notify, hnotify, -⟩ := Option.map_eq_some_iff.mp (hknows.version.symm.trans hlatest)
    obtain ⟨update, hupdate⟩ := update_of_lastNotify hnotify
    have happroves : (after repr vin messages).Approves repr data notify update :=
      { yes := hdecision
        kept := hknows.notify.trans hnotify
        version := by rw [hlatest, hversion]
        nonempty := hversion ▸ ne_empty_of_failed hfailed
        fresh := fun hmem => hnever (hprocessed v (hversion ▸ hmem))
        update := hupdate }
    refine ⟨notify, update, hnotify, hupdate, ?_⟩
    rw [happroves.onMessage_eq htopic hpayload, hversion]
    rfl

/-- A notify of version 1.0, and the `yes` to it; the client has no connection. -/
def refusedRun : List (Message × PublishOutcome) :=
  [({ topic := prefixed topicNotify "V"
      payload := some (.obj [("version", .str "1.0"), ("update", .obj [])]) }, .success),
    ({ topic := prefixed topicDecision "V"
       payload := some (.obj [("decision", .str "yes"), ("version", .str "1.0")]) }, .failure 4)]

/-- The approval is lost: the version counts as processed, and nothing was published. -/
theorem refusedRun_loses : ¬ LosesNothing (fun _ => "") "V" refusedRun := by
  intro h
  have hprocessed : (after (fun _ => "") "V" refusedRun).processedVersions = ["1.0"] := by decide
  have hsucceeded : succeeded (fun _ => "") "V" refusedRun = [] := by decide
  have := h.processed "1.0" (hprocessed ▸ List.mem_singleton_self _)
  rw [hsucceeded] at this
  exact List.not_mem_nil this

end OtaBridge

end Ota

end VehicleStack
