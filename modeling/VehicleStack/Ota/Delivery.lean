import VehicleStack.Ota.UpdateService

/-!
# From the build to the vehicle

The publisher, the terminal, the bridge and the OTA service together. Notifies reach the terminal
and the bridge in any order, late, or again; the updates that the bridge hands on reach the OTA
service in the same way; and a call of `apply_ota` may break off anywhere.

`VehicleStack.Ota.installed_is_built` is the result: at the end of any run, a file of the vehicle is
as it was, or gone, or one with the digest of a file that was built for it; its update was in a
notify of the version that a user of the terminal has agreed to; and a user of the OTA service has
agreed, unless the update says that none is to be asked.
-/

namespace VehicleStack

namespace Ota

open DigitalKey (Json)

/-- The terminal, the bridge, and what is in flight between them; the updates that were handed on,
each with the notify that was pending when the user answered; and the disk of the vehicle. -/
structure DeliverySystem where
  ota : OtaSystem := {}
  updates : List (Members × NotifyState) := []
  disk : Disk Json

/-- What can happen. -/
inductive DeliveryEvent where
  | ota (e : OtaEvent)
  /-- An update that was handed on reaches the OTA service. -/
  | update (i : ℕ) (env : Env) (userInput : Option String)

namespace DeliverySystem

variable (repr : Json → String) (other : String → String)

/-- One event, if it can happen. -/
def step (s : DeliverySystem) : DeliveryEvent → Option DeliverySystem
  | .ota e =>
    (s.ota.step repr e).map fun ota =>
      { s with ota := ota, updates := s.updates ++ s.ota.handedOn repr e }
  | .update i env userInput =>
    s.updates[i]?.map fun u =>
      { s with disk := onMessage env repr other (some (.obj u.1)) userInput s.disk }

end DeliverySystem

section Runs

variable (repr : Json → String) (other : String → String) (sha256Hex : Bytes → String)
  (buildDir : Path → Option Bytes) (inboxDir : Path)

/-- The notifies that `send_ota.py` can publish. -/
def Sent : Set Members :=
  {data | ∃ updatePayload version rePromptSec payloadMeta,
    sendOta sha256Hex buildDir updatePayload version rePromptSec payloadMeta = some data}

/-- The notifies come from the publisher, and the OTA service has its digests and its inbox. -/
def DeliveryEvent.Regular : DeliveryEvent → Prop
  | .ota e => OtaSystem.NotifiesOf (Sent sha256Hex buildDir) e
  | .update _ env _ => env.sha256Hex = sha256Hex ∧ env.inboxDir = inboxDir

/-- An update that was handed on comes from a notify, and a user has agreed to its version. -/
structure Agreed (s : OtaSystem) (u : Members × NotifyState) : Prop where
  kept : ∃ kept ∈ Sent sha256Hex buildDir, member kept "update" .null = .obj u.1 ∧
    OtaBridge.notifyVersion repr kept = u.2.version
  shown : OtaSystem.IsShown repr (Sent sha256Hex buildDir) u.2
  yes : (decisionPayload "yes" u.2, u.2) ∈ s.sent

variable {repr} {other} {sha256Hex} {buildDir} {inboxDir}

theorem Agreed.mono {s s' : OtaSystem} {u : Members × NotifyState}
    (h : Agreed repr sha256Hex buildDir s u) (hsent : s.sent ⊆ s'.sent) :
    Agreed repr sha256Hex buildDir s' u :=
  ⟨h.kept, h.shown, hsent h.yes⟩

/-- What was sent is not taken back. -/
theorem sent_step {s s' : OtaSystem} {e : OtaEvent} (h : s.step repr e = some s') :
    s.sent ⊆ s'.sent := by
  cases e with
  | notifyUi data | notifyBridge data =>
    obtain rfl := Option.some.inj h
    exact List.Subset.refl _
  | answer decision =>
    rw [OtaSystem.step] at h
    split at h
    · exact absurd h (Option.some_ne_none s').symm
    · split at h
      · obtain rfl := Option.some.inj h
        exact List.Subset.refl _
      · split at h
        · obtain rfl := Option.some.inj h
          exact List.subset_append_left _ _
        · obtain rfl := Option.some.inj h
          exact List.Subset.refl _
  | answered =>
    rw [OtaSystem.step] at h
    split at h
    · obtain rfl := Option.some.inj h
      exact List.Subset.refl _
    · exact absurd h (Option.some_ne_none s').symm
  | deliver i outcome =>
    obtain ⟨m, -, rfl⟩ := Option.map_eq_some_iff.mp h
    exact List.Subset.refl _

/-- **An update is handed on for a yes** to the notify that was pending. -/
theorem agreed_handedOn {s : OtaSystem} {e : OtaEvent} {u : Members × NotifyState}
    (hs : OtaSystem.Sound repr (Sent sha256Hex buildDir) s) (hu : u ∈ s.handedOn repr e) :
    Agreed repr sha256Hex buildDir s u := by
  obtain ⟨hshown, kept, hkept, hupdate, hversion, -⟩ := hs.handedOn hu
  refine ⟨⟨kept, hkept, hupdate, hversion⟩, hshown, ?_⟩
  cases e with
  | deliver i outcome =>
    simp only [OtaSystem.handedOn] at hu
    split at hu
    · exact absurd hu List.not_mem_nil
    rename_i m hm
    have hmem := List.mem_of_getElem? hm
    obtain ⟨-, decision, hpayload⟩ := hs.sent m hmem
    rw [Option.mem_toList, Option.map_eq_some_iff] at hu
    obtain ⟨publication, hpublication, rfl⟩ := hu
    rcases s.bridge.handleDecision_cases repr m.1 outcome with ⟨_, _, happroves, -⟩ | ⟨-, hnone⟩
    · have hyes := happroves.yes
      rw [hpayload] at hyes
      obtain rfl : decision = "yes" := Json.str.inj hyes
      rw [← hpayload]
      exact hmem
    · rw [hnone] at hpublication
      exact absurd hpublication (Option.some_ne_none publication).symm
  | _ => exact absurd hu List.not_mem_nil

/-! ### The files of the vehicle -/

/-- A file has the digest of one that was built for its place, and everybody who is asked has
agreed: a user of the terminal to the version, and one of the OTA service, unless the update says
that none is to be asked. -/
def Genuine (repr : Json → String) (other : String → String) (sha256Hex : Bytes → String)
    (buildDir : Path → Option Bytes) (events : List DeliveryEvent) (s : DeliverySystem) (p : Path)
    (content : Bytes) : Prop :=
  ∃ u ∈ s.updates, Agreed repr sha256Hex buildDir s.ota u ∧ IsFor u.1 p ∧
    (∃ built, HasDigest sha256Hex buildDir u.1 built ∧ sha256Hex content = sha256Hex built) ∧
    (requireConfirm u.1 = false ∨ ∃ i env userInput, .update i env userInput ∈ events ∧
      s.updates[i]? = some u ∧ confirmed other userInput = true)

theorem Genuine.mono {events events' : List DeliveryEvent} {s s' : DeliverySystem} {p : Path}
    {content : Bytes} (h : Genuine repr other sha256Hex buildDir events s p content)
    (hevents : events ⊆ events') (hsent : s.ota.sent ⊆ s'.ota.sent)
    (hupdates : s.updates <+: s'.updates) :
    Genuine repr other sha256Hex buildDir events' s' p content := by
  obtain ⟨u, hu, hagreed, hfor, hdigest, hconfirm⟩ := h
  refine ⟨u, hupdates.subset hu, hagreed.mono hsent, hfor, hdigest, hconfirm.imp id ?_⟩
  rintro ⟨i, env, userInput, hevent, hi, hyes⟩
  obtain ⟨later, hlater⟩ := hupdates
  refine ⟨i, env, userInput, hevents hevent, ?_, hyes⟩
  rw [← hlater, List.getElem?_append_left (List.getElem?_eq_some_iff.mp hi).1, hi]

/-- What is known after some events, from a disk. -/
structure Known (repr : Json → String) (other : String → String) (sha256Hex : Bytes → String)
    (buildDir : Path → Option Bytes) (disk : Disk Json) (p : Path) (events : List DeliveryEvent)
    (s : DeliverySystem) : Prop where
  sound : OtaSystem.Sound repr (Sent sha256Hex buildDir) s.ota
  agreed : ∀ u ∈ s.updates, Agreed repr sha256Hex buildDir s.ota u
  file : s.disk.files p = disk.files p ∨ s.disk.files p = none ∨
    ∃ content, s.disk.files p = some content ∧
      Genuine repr other sha256Hex buildDir events s p content

/-- **Every event keeps what is known.** -/
theorem Known.step {disk : Disk Json} {p : Path} {events : List DeliveryEvent}
    {s s' : DeliverySystem} {e : DeliveryEvent}
    (h : Known repr other sha256Hex buildDir disk p events s)
    (hsha : ∀ content, sha256Hex content ≠ "") (hp : Elsewhere inboxDir p)
    (he : e.Regular sha256Hex buildDir inboxDir) (hstep : s.step repr other e = some s') :
    Known repr other sha256Hex buildDir disk p (events ++ [e]) s' := by
  have hevents : events ⊆ events ++ [e] := List.subset_append_left _ _
  cases e with
  | ota e =>
    obtain ⟨ota, hota, rfl⟩ := Option.map_eq_some_iff.mp hstep
    have hsent := sent_step hota
    refine ⟨h.sound.step he hota, fun u hu => ?_, ?_⟩
    · rcases List.mem_append.mp hu with hold | hnew
      · exact (h.agreed u hold).mono hsent
      · exact (agreed_handedOn h.sound hnew).mono hsent
    · refine h.file.imp id (Or.imp id ?_)
      rintro ⟨content, hcontent, hgenuine⟩
      exact ⟨content, hcontent, hgenuine.mono hevents hsent (List.prefix_append _ _)⟩
  | update i env userInput =>
    obtain ⟨u, hu, rfl⟩ := Option.map_eq_some_iff.mp hstep
    obtain ⟨rfl, rfl⟩ := he
    have hagreed := h.agreed u (List.mem_of_getElem? hu)
    have hmem := List.mem_of_getElem? hu
    refine ⟨h.sound, h.agreed, ?_⟩
    have hkeep : (∃ content, s.disk.files p = some content ∧
        Genuine repr other env.sha256Hex buildDir events s p content) →
        ∃ content, s.disk.files p = some content ∧
          Genuine repr other env.sha256Hex buildDir (events ++ [.update i env userInput])
            { s with disk := onMessage env repr other (some (.obj u.1)) userInput s.disk } p
            content := by
      rintro ⟨content, hcontent, hgenuine⟩
      exact ⟨content, hcontent, hgenuine.mono hevents (List.Subset.refl _) List.prefix_rfl⟩
    rcases onMessage_files repr other hp (some (.obj u.1)) userInput s.disk with
      hsame | ⟨data, hdata, hfor, hconfirm, hupdated⟩
    · -- the file has been left alone
      have hsame : (onMessage env repr other (some (.obj u.1)) userInput s.disk).files p =
          s.disk.files p := hsame
      simp only [hsame]
      exact h.file.imp id (Or.imp id hkeep)
    · obtain rfl : u.1 = data := Json.obj.inj (Option.some.inj hdata)
      obtain ⟨kept, hkept, hupdate, -⟩ := hagreed.kept
      obtain ⟨updatePayload, version, rePromptSec, payloadMeta, hsend⟩ := hkept
      obtain ⟨built, hdigest⟩ := hasDigest_sendOta hsend hupdate
      have hchecksum : member u.1 "checksum" (.str "") = .str (env.sha256Hex built) := by
        obtain ⟨target, sourcePath, -, -, -, hchecksum⟩ := hdigest
        rw [member, hchecksum]
        rfl
      rcases hupdated _ hchecksum (hsha built) with hsame | hgone | ⟨content, hcontent, hsame⟩
      · simp only [hsame]
        exact h.file.imp id (Or.imp id hkeep)
      · exact Or.inr (Or.inl hgone)
      · refine Or.inr (Or.inr
          ⟨content, hcontent, u, hmem, hagreed, hfor, ⟨built, hdigest, hsame⟩, ?_⟩)
        refine hconfirm.imp id fun hyes => ⟨i, env, userInput, ?_, hu, hyes⟩
        exact List.mem_append_right events List.mem_cons_self

/-- **What is installed was built, and agreed to.** -/
theorem installed_is_built {disk : Disk Json} {events : List DeliveryEvent} {s : DeliverySystem}
    (hsha : ∀ content, sha256Hex content ≠ "")
    (hregular : ∀ e ∈ events, e.Regular sha256Hex buildDir inboxDir)
    (hrun : Run.run (DeliverySystem.step repr other) { disk := disk } events = some s) {p : Path}
    (hp : Elsewhere inboxDir p) :
    s.disk.files p = disk.files p ∨ s.disk.files p = none ∨
      ∃ content, s.disk.files p = some content ∧
        Genuine repr other sha256Hex buildDir events s p content := by
  have hknown : Known repr other sha256Hex buildDir disk p events s := by
    refine Run.run_induct (P := fun is s => (∀ e ∈ is, e.Regular sha256Hex buildDir inboxDir) →
      Known repr other sha256Hex buildDir disk p is s) (fun _ => ?_) ?_ hrun hregular
    · exact ⟨⟨nofun, nofun, nofun⟩, nofun, Or.inl rfl⟩
    · intro is s e s' _ ih hstep hall
      refine (ih fun e he => hall e (List.mem_append_left _ he)).step hsha hp ?_ hstep
      exact hall e (List.mem_append_right _ (List.mem_singleton_self e))
  exact hknown.file

end Runs

/-! ### A delivery -/

/-- An update of `/a/x`, and the notify it is sent in. -/
def sampleUpdate : Members :=
  [("target", .obj [("target_path", .str "/a/x"), ("source_path", .str "u"),
    ("backup_path", .str "/b")]), ("version", .str "2.0"), ("checksum", .str newDigest)]

def sampleNotify : Members :=
  [("version", .str "2.0"), ("re_prompt_sec", .int 30), ("update", .obj sampleUpdate),
    ("meta", .obj [])]

/-- What was built. -/
def sampleBuild (name : Path) : Option Bytes :=
  if name = ['u'] then some [0x6E, 0x65, 0x77] else none

/-- The users agree, and nothing fails. -/
def sampleDelivery : List DeliveryEvent :=
  [.ota (.notifyUi sampleNotify), .ota (.notifyBridge sampleNotify), .ota (.answer "yes"),
    .ota (.deliver 0 .success), .update 0 (sampleEnv fun _ => false) (some "y")]

theorem sampleNotify_sent : sampleNotify ∈ Sent (sampleEnv fun _ => false).sha256Hex sampleBuild :=
  ⟨sampleUpdate, none, 30, [], rfl⟩

theorem sample_elsewhere : Elsewhere ['/', 'i'] ['/', 'a', '/', 'x'] := by
  refine ⟨by decide, fun name now heq => ?_⟩
  have hmem : '_' ∈ basename ['/', 'a', '/', 'x'] := by
    rw [heq]
    exact List.mem_append_right _ List.mem_cons_self
  revert hmem
  decide

/-- A vehicle without files. -/
def emptyDisk : Disk Json where
  files _ := none
  versions := .missing

/-- The file is there, and it is what was built. -/
theorem installed_is_built_sample : ∃ s : DeliverySystem,
    Run.run (DeliverySystem.step (fun _ => "") id) { disk := emptyDisk } sampleDelivery = some s ∧
    s.disk.files ['/', 'a', '/', 'x'] = some [0x6E, 0x65, 0x77] ∧
    (s.disk.files ['/', 'a', '/', 'x'] = emptyDisk.files ['/', 'a', '/', 'x'] ∨
      s.disk.files ['/', 'a', '/', 'x'] = none ∨
      ∃ content, s.disk.files ['/', 'a', '/', 'x'] = some content ∧
        Genuine (fun _ => "") id (sampleEnv fun _ => false).sha256Hex sampleBuild sampleDelivery s
          ['/', 'a', '/', 'x'] content) := by
  obtain ⟨s, hrun⟩ : ∃ s, Run.run (DeliverySystem.step (fun _ => "") id) { disk := emptyDisk }
      sampleDelivery = some s := ⟨_, rfl⟩
  have hfile : (Run.run (DeliverySystem.step (fun _ => "") id) { disk := emptyDisk }
      sampleDelivery).map (fun s => s.disk.files ['/', 'a', '/', 'x']) =
        some (some [0x6E, 0x65, 0x77]) := by decide +kernel
  rw [hrun] at hfile
  refine ⟨s, hrun, Option.some.inj hfile, installed_is_built ?_ ?_ hrun sample_elsewhere⟩
  · intro content
    show (if content = [0x6E, 0x65, 0x77] then newDigest else _) ≠ ""
    split <;> decide
  · simp only [sampleDelivery, List.forall_mem_cons]
    exact ⟨sampleNotify_sent, sampleNotify_sent, trivial, trivial, ⟨rfl, rfl⟩, nofun⟩

end Ota

end VehicleStack
