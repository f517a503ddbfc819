import VehicleStack.Ota.Atomicity
import VehicleStack.Ota.Publisher

/-!
# The updates that the OTA service takes

`on_message` of `ota_service.py`: an update is read, the user is asked if the update wants that, and
`apply_ota` is called. Whatever goes wrong is logged, so that what has been done by then stays.

`VehicleStack.Ota.onMessage_files` says what a message can do to a file that is neither in the inbox
nor a backup: nothing, unless the update is for it; then the file may be gone, or it is one with the
digest that the update gives.
-/

namespace VehicleStack

namespace Ota

open DigitalKey (Json strip)
open Effect

variable (env : Env) (repr : Json → String) (other : String → String)

/-! ### The code -/

/-- A path of the target. -/
def targetPathOf (target : Members) (key : String) : Option (Option Path) :=
  match target.lookup key with
  | none => some none
  | some (.str s) => some (some s.toList)
  | some _ => none

/-- The target of an update as `apply_ota` reads it. There is none if it is not an object, or if one
of its paths is not a text: what is raised then comes before any file is touched. -/
def Target.ofJson : Json → Option Target
  | .obj target => do
    let targetPath ← targetPathOf target "target_path"
    let sourcePath ← targetPathOf target "source_path"
    let backupPath ← targetPathOf target "backup_path"
    let processCheck := member target "process_check" .null
    some
      { targetPath := targetPath
        sourcePath := sourcePath
        backupPath := backupPath
        processCheck :=
          if processCheck.truthy then some (processCheck.toStr repr).toList else none }
  | _ => none

/-- `apply_ota` for an update with a digest that is not a text. No file has it, so that nothing is
done to a file after the download. -/
def applyUnverifiable (target : Target) : Py Json Bool := do
  let targetPath ← item target.targetPath "target_path"
  let srcUrl ← item target.sourcePath "source_path"
  let _ ← item target.backupPath "backup_path"
  attempt env .makedirsBackup
  attempt env .makedirsInbox
  downloadFile env srcUrl (joinPath env.inboxDir (basename targetPath))
  pure false

/-- `apply_ota`, of values as they come in an update. -/
def applyUpdate (target : Target) (version checksum : Json) : Py Json Bool :=
  match checksum with
  | .str checksum => applyOta env target version checksum
  | checksum =>
    if checksum.truthy then applyUnverifiable env target else applyOta env target version ""

/-- Whether the user is to be asked. -/
def requireConfirm (data : Members) : Bool :=
  match member data "require_confirm" .null with
  | .null => true
  | value => value.truthy

/-- Whether the user says yes; there may be no input. -/
def confirmed (userInput : Option String) : Bool :=
  match userInput with
  | some userInput => lower other (strip userInput) ∈ ["y", "yes"]
  | none => false

/-- `on_message`, of the value that the payload is, if it is UTF-8 and JSON. -/
def onMessage (payload : Option Json) (userInput : Option String) (disk : Disk Json) : Disk Json :=
  match payload with
  | some (.obj data) =>
    match data.lookup "target" with
    | some target =>
      if requireConfirm data = true ∧ confirmed other userInput = false then disk
      else
        match Target.ofJson repr target with
        | some target =>
          (exec (applyUpdate env target (member data "version" (.str "unknown"))
            (member data "checksum" (.str ""))) disk).2
        | none => disk
    | none => disk
  | _ => disk

/-! ### The files that are left alone -/

/-- A file is not in the inbox, and its name is not that of a backup. The service's own files,
`versions.json` and `ota.log`, are none of the `files` of a disk. -/
structure Elsewhere (inboxDir p : Path) : Prop where
  inbox : p ≠ joinPath inboxDir (basename p)
  backup : ∀ name now, basename p ≠ name ++ '_' :: Nat.toDigits 10 now

theorem Elsewhere.ne_temp {inboxDir p : Path} (h : Elsewhere inboxDir p) (targetPath : Path) :
    p ≠ joinPath inboxDir (basename targetPath) := by
  intro heq
  refine h.inbox ?_
  rw [heq, basename_joinPath _ (not_mem_basename targetPath)]

theorem Elsewhere.ne_backup {inboxDir p : Path} (h : Elsewhere inboxDir p)
    (targetPath backupDir : Path) (now : ℕ) :
    p ≠ joinPath backupDir (basename targetPath ++ '_' :: Nat.toDigits 10 now) := by
  intro heq
  refine h.backup (basename targetPath) now ?_
  rw [heq, basename_joinPath _ (not_mem_backupName targetPath now)]

/-- A file is as it was. -/
def SameFile (p : Path) (disk disk' : Disk Json) : Prop := disk'.files p = disk.files p

instance (p : Path) : IsPreorder (Disk Json) (SameFile p) where
  refl _ := rfl
  trans _ _ _ h h' := h'.trans h

variable {env} {p : Path}

theorem keeps_item (value : Option Path) (key : String) :
    Keeps (SameFile p) (item value key : Py Json Path) := by
  cases value with
  | none => exact keeps_throw _
  | some value => exact keeps_pure value

theorem keeps_attempt (op : Op) : Keeps (SameFile p) (attempt env op : Py Json Unit) :=
  keeps_ite (keeps_throw _) (keeps_pure _)

theorem keeps_downloadFile (url : Path) {dest : Path} (h : p ≠ dest) :
    Keeps (SameFile p) (downloadFile env url dest : Py Json Unit) := by
  intro disk
  rw [exec_downloadFile]
  split
  · cases env.leftover with
    | none => exact refl_of (SameFile p) disk
    | some content => exact Function.update_of_ne h _ _
  · exact Function.update_of_ne h _ _

theorem keeps_rename (op : Op) {source dest : Path} (hsource : p ≠ source) (hdest : p ≠ dest) :
    Keeps (SameFile p) (rename env op source dest : Py Json Unit) := by
  intro disk
  rw [exec_rename]
  split
  · exact refl_of (SameFile p) disk
  · split
    · exact refl_of (SameFile p) disk
    · exact (Function.update_of_ne hdest _ _).trans (Function.update_of_ne hsource _ _)

theorem keeps_verifyChecksum (filePath : Path) (checksum : String) :
    Keeps (SameFile p) (verifyChecksum env filePath checksum : Py Json Bool) := by
  rw [verifyChecksum]
  refine keeps_ite (keeps_bind (keeps_attempt _) fun _ => keeps_pure true) ?_
  refine keeps_bind (keeps_attempt _) fun _ => keeps_bind keeps_get fun disk => ?_
  split
  · exact keeps_throw _
  · refine keeps_bind (keeps_attempt _) fun _ => keeps_ite (keeps_pure true) ?_
    exact keeps_bind (keeps_attempt _) fun _ => keeps_pure false

theorem keeps_backupExisting {targetPath backupFile : Path} (htarget : p ≠ targetPath)
    (hbackup : p ≠ backupFile) :
    Keeps (SameFile p) (backupExisting env targetPath backupFile : Py Json Unit) := by
  rw [backupExisting]
  refine keeps_bind (keeps_bind keeps_get fun _ => keeps_pure _) fun found => ?_
  refine keeps_ite (keeps_bind (keeps_rename _ htarget hbackup) fun _ => ?_) (keeps_pure _)
  exact keeps_attempt _

theorem keeps_modify_same {f : Disk Json → Disk Json} (h : ∀ disk, (f disk).files = disk.files) :
    Keeps (SameFile p) (modify f : Py Json PUnit) :=
  keeps_modify fun disk => congrFun (h disk) p

theorem keeps_finish (processName fileName : Path) (version : Json) :
    Keeps (SameFile p) (finish env processName fileName version : Py Json Bool) := by
  have hrestart : Keeps (SameFile p) (restartService env processName : Py Json Unit) := by
    refine keeps_tryCatch ?_ fun _ => keeps_attempt _
    refine keeps_bind (keeps_modify_same fun _ => rfl) fun _ => ?_
    exact keeps_bind (keeps_attempt _) fun _ => keeps_attempt _
  have hload : Keeps (SameFile p) (loadVersions env : Py Json (Dict Path Json)) := by
    rw [loadVersions]
    refine keeps_bind keeps_get fun disk => ?_
    refine keeps_bind (keeps_bind keeps_get fun _ => keeps_pure _) fun found => ?_
    refine keeps_ite (keeps_bind (keeps_attempt _) fun _ => ?_) (keeps_pure _)
    split
    · exact keeps_pure _
    · exact keeps_throw _
  have hsave : ∀ versions : Dict Path Json,
      Keeps (SameFile p) (saveVersions env versions : Py Json Unit) := fun versions =>
    keeps_bind (keeps_attempt _) fun _ => keeps_bind (keeps_modify_same fun _ => rfl) fun _ =>
      keeps_bind (keeps_attempt _) fun _ => keeps_modify_same fun _ => rfl
  rw [finish]
  refine keeps_bind (keeps_attempt _) fun _ => keeps_bind (keeps_attempt _) fun _ => ?_
  refine keeps_bind hrestart fun _ => keeps_bind ?_ fun _ => ?_
  · exact keeps_bind hload fun versions => hsave _
  · exact keeps_bind (keeps_attempt _) fun _ => keeps_pure true

/-- **A call leaves other files alone**: those that are not of the update, not in the inbox, and not
backups. -/
theorem keeps_applyOta {target : Target} (htarget : target.targetPath ≠ some p)
    (h : Elsewhere env.inboxDir p) (version : Json) (checksum : String) :
    Keeps (SameFile p) (applyOta env target version checksum) := by
  rcases target with ⟨- | targetPath, sourcePath, backupPath, processCheck⟩
  · exact fun disk => refl_of (SameFile p) disk
  have hp : p ≠ targetPath := fun heq => htarget (congrArg some heq.symm)
  have hpath : item (some targetPath) "target_path" = (pure targetPath : Py Json Path) := rfl
  rw [applyOta, hpath, pure_bind]
  refine keeps_bind (keeps_item _ _) fun srcUrl => keeps_bind (keeps_item _ _) fun backupDir => ?_
  have hfetch : Keeps (SameFile p)
      (fetch env srcUrl (joinPath env.inboxDir (basename targetPath)) checksum : Py Json Bool) :=
    keeps_bind (keeps_attempt _) fun _ => keeps_bind (keeps_attempt _) fun _ =>
      keeps_bind (keeps_downloadFile srcUrl (h.ne_temp targetPath)) fun _ =>
        keeps_bind (keeps_attempt _) fun _ => keeps_verifyChecksum _ _
  refine keeps_bind hfetch fun verified => keeps_ite ?_ ?_
  · refine keeps_bind (keeps_backupExisting hp (h.ne_backup targetPath backupDir env.now)) ?_
    refine fun _ => keeps_bind (keeps_rename _ (h.ne_temp targetPath) hp) fun _ => ?_
    exact keeps_finish _ _ _
  · exact keeps_bind (keeps_attempt _) fun _ => keeps_pure false

/-- What a call may do to the file of the update, if that has a digest: the file stays, or it is
gone, or it is one with the digest. -/
def Updated (sha256Hex : Bytes → String) (p : Path) (checksum : String) (disk disk' : Disk Json) :
    Prop :=
  disk'.files p = disk.files p ∨ disk'.files p = none ∨
    ∃ content, disk'.files p = some content ∧ sha256Hex content = checksum

theorem Reached.updated {disk disk' : Disk Json} {content : Bytes} {version : Json}
    {progress : Progress} (h : Reached disk disk' p content version progress)
    {sha256Hex : Bytes → String} {checksum : String}
    (hdigest : progress ≠ .untouched → sha256Hex content = checksum) :
    Updated sha256Hex p checksum disk disk' := by
  cases progress with
  | untouched => exact Or.inl h.1
  | movedAway => exact Or.inr (Or.inl h.2.1)
  | replaced => exact Or.inr (Or.inr ⟨content, h.1, hdigest nofun⟩)
  | emptied => exact Or.inr (Or.inr ⟨content, h.1, hdigest nofun⟩)
  | recorded => exact Or.inr (Or.inr ⟨content, h.1, hdigest nofun⟩)

theorem updated_applyOta {target : Target} (htarget : target.targetPath = some p)
    (h : Elsewhere env.inboxDir p) (version : Json) {checksum : String} (hchecksum : checksum ≠ "")
    (disk : Disk Json) :
    Updated env.sha256Hex p checksum disk (exec (applyOta env target version checksum) disk).2 :=
  (reached env disk htarget hchecksum h.inbox version).updated
    fun hprogress => sha256Hex_of_progress env disk hprogress

/-! ### A message -/

/-- The file that an update is for. -/
def IsFor (data : Members) (p : Path) : Prop :=
  ∃ target, data.lookup "target" = some (.obj target) ∧
    ∃ s, target.lookup "target_path" = some (.str s) ∧ s.toList = p

/-- The target of an update names its file. -/
theorem Target.isFor_of_ofJson {data : Members} {j : Json} (hj : data.lookup "target" = some j)
    {target : Target} (h : Target.ofJson repr j = some target)
    (hp : target.targetPath = some p) : IsFor data p := by
  cases j with
  | obj members =>
    simp only [Target.ofJson, Option.bind_eq_bind, Option.bind_eq_some_iff] at h
    obtain ⟨targetPath, htarget, sourcePath, -, backupPath, -, heq⟩ := h
    obtain rfl := Option.some.inj heq
    refine ⟨members, hj, ?_⟩
    rw [targetPathOf] at htarget
    split at htarget
    · rw [← Option.some.inj htarget] at hp
      exact absurd hp (Option.some_ne_none p).symm
    · rename_i s hs
      rw [← Option.some.inj htarget] at hp
      exact ⟨s, hs, Option.some.inj hp⟩
    · exact absurd htarget (Option.some_ne_none _).symm
  | _ => exact absurd h (Option.some_ne_none _).symm

theorem keeps_applyUnverifiable {target : Target} (h : Elsewhere env.inboxDir p) :
    Keeps (SameFile p) (applyUnverifiable env target) := by
  rw [applyUnverifiable]
  refine keeps_bind (keeps_item _ _) fun targetPath => keeps_bind (keeps_item _ _) fun srcUrl => ?_
  refine keeps_bind (keeps_item _ _) fun _ => keeps_bind (keeps_attempt _) fun _ => ?_
  refine keeps_bind (keeps_attempt _) fun _ => keeps_bind ?_ fun _ => keeps_pure false
  exact keeps_downloadFile srcUrl (h.ne_temp targetPath)

/-- A call for an update of values leaves other files alone, too. -/
theorem keeps_applyUpdate {target : Target} (htarget : target.targetPath ≠ some p)
    (h : Elsewhere env.inboxDir p) (version checksum : Json) :
    Keeps (SameFile p) (applyUpdate env target version checksum) := by
  have happly : ∀ checksum, Keeps (SameFile p) (applyOta env target version checksum) :=
    keeps_applyOta htarget h version
  have hother : Keeps (SameFile p)
      (if checksum.truthy then applyUnverifiable env target else applyOta env target version "") :=
    keeps_ite (keeps_applyUnverifiable h) (happly "")
  cases checksum with
  | str checksum => exact happly checksum
  | _ => exact hother

/-- **What a message can do to a file** that is neither in the inbox nor a backup: nothing, or the
update is for it, the user has agreed if asked, and the file is what the update may make of it. -/
theorem onMessage_files (h : Elsewhere env.inboxDir p) (payload : Option Json)
    (userInput : Option String) (disk : Disk Json) :
    SameFile p disk (onMessage env repr other payload userInput disk) ∨
      ∃ data, payload = some (.obj data) ∧ IsFor data p ∧
        (requireConfirm data = false ∨ confirmed other userInput = true) ∧
        ∀ checksum, member data "checksum" (.str "") = .str checksum → checksum ≠ "" →
          Updated env.sha256Hex p checksum disk
            (onMessage env repr other payload userInput disk) := by
  rcases payload with _ | payload
  · exact Or.inl rfl
  cases payload with
  | obj data =>
    cases hlookup : data.lookup "target" with
    | none =>
      refine Or.inl ?_
      simp only [onMessage, hlookup]
      exact refl_of (SameFile p) disk
    | some j =>
      simp only [onMessage, hlookup]
      split
      · exact Or.inl rfl
      rename_i hagreed
      cases htarget : Target.ofJson repr j with
      | none => exact Or.inl rfl
      | some target =>
        by_cases hp : target.targetPath = some p
        · refine Or.inr ⟨data, rfl, target.isFor_of_ofJson repr hlookup htarget hp, ?_, ?_⟩
          · rw [not_and_or, Bool.not_eq_true, Bool.not_eq_false] at hagreed
            exact hagreed
          · intro checksum hchecksum hne
            rw [hchecksum]
            exact updated_applyOta hp h _ hne disk
        · exact Or.inl (keeps_applyUpdate hp h _ _ disk)
  | _ => exact Or.inl rfl

end Ota

end VehicleStack
