import VehicleStack.Ota.OtaService

/-!
# Whether an update is installed as a whole

`VehicleStack.Ota.Atomic` is what an installation should be: when it is over, however it ended,
the file is the old one or one with the expected digest, and `versions.json` names the new
version for it exactly if it is the latter. How far a call gets is read off its surroundings
(`VehicleStack.Ota.Env.progress`), and what it leaves is described for each of five
cases (`VehicleStack.Ota.reached`).

The main result is `VehicleStack.Ota.atomic_iff`. There is a gap between the two renames in
which there is no file at all, and another one, from the second rename until `versions.json`
has been written again, in which the file is new and the version is not.
-/

namespace VehicleStack

namespace Ota

/-! ### The files of an update are different files -/

theorem not_mem_basename (p : Path) : '/' ∉ basename p := by
  intro h
  have := List.mem_rtakeWhile_imp h
  simp at this

theorem basename_append (a : Path) {name : Path} (h : '/' ∉ name) :
    basename (a ++ '/' :: name) = name := by
  have hname : ∀ c ∈ name.reverse, (c ≠ '/' : Bool) = true := by
    intro c hc
    refine decide_eq_true fun heq => h ?_
    rw [← heq]
    exact List.mem_reverse.mp hc
  rw [basename, List.rtakeWhile, List.reverse_append, List.reverse_cons, List.append_assoc,
    List.takeWhile_append_of_pos hname]
  simp

/-- A file in a directory has the name it was given there. -/
theorem basename_joinPath (a : Path) {name : Path} (h : '/' ∉ name) :
    basename (joinPath a name) = name := by
  have hhead : ¬ name.head? = some '/' := fun heq => h (List.mem_of_head? heq)
  rw [joinPath, if_neg hhead]
  split
  · rename_i hend
    rcases hend with rfl | hend
    · refine List.rtakeWhile_eq_self_iff.mpr fun c hc => decide_eq_true fun heq => h ?_
      rwa [← heq]
    · obtain ⟨a', rfl⟩ := List.getLast?_eq_some_iff.mp hend
      rw [List.append_assoc]
      exact basename_append a' h
  · exact basename_append a h

/-- The name of a backup. -/
theorem not_mem_backupName (targetPath : Path) (now : ℕ) :
    '/' ∉ basename targetPath ++ '_' :: Nat.toDigits 10 now := by
  intro h
  rcases List.mem_append.mp h with hname | hstamp
  · exact not_mem_basename targetPath hname
  · rcases List.mem_cons.mp hstamp with heq | hdigit
    · cases heq
    · have := Nat.isDigit_of_mem_toDigits (by decide) (by decide) hdigit
      cases this

/-- A backup is not the file with the name it is made from, in any directory. -/
theorem backup_ne {p : Path} (targetPath backupDir : Path) (now : ℕ)
    (hp : basename p = basename targetPath) :
    p ≠ joinPath backupDir (basename targetPath ++ '_' :: Nat.toDigits 10 now) := by
  intro heq
  have hname := congrArg basename heq
  rw [hp, basename_joinPath _ (not_mem_backupName targetPath now)] at hname
  exact List.cons_ne_nil _ _ (List.self_eq_append_right.mp hname)

/-! ### How far a call gets -/

variable {V : Type} (env : Env) (disk : Disk V)

/-- How far a call of `apply_ota` gets. -/
inductive Progress where
  /-- The file is the old one, or there was none. -/
  | untouched
  /-- The old file is in the backup directory and the new one is not in place. -/
  | movedAway
  /-- The new file is in place, and `versions.json` is as it was. -/
  | replaced
  /-- `versions.json` has been emptied, and not been written. -/
  | emptied
  /-- The version has been entered. -/
  | recorded
  deriving DecidableEq

instance (url : Path) (checksum : String) : Decidable (env.Fetches url checksum) :=
  inferInstanceAs (Decidable (_ ∧ _))

/-- Whether a call stops when the new file is in place and `versions.json` is as it was. -/
def Env.stopsUnrecorded : Bool :=
  env.fails .chmod || env.fails .logReplaced || env.restartRaises || (env.loaded disk).isNone ||
    env.fails .openVersions

/-- How far a call gets once the new file has been fetched. -/
def Env.installProgress (targetPath : Path) : Progress :=
  let backsUp := env.backsUp disk targetPath
  if backsUp ∧ env.fails .renameToBackup then .untouched
  else if (backsUp ∧ env.fails .logBackup) ∨ env.fails .renameToTarget then
    if backsUp then .movedAway else .untouched
  else if env.stopsUnrecorded disk then .replaced
  else if env.fails .dumpVersions then .emptied
  else .recorded

/-- How far a call gets, by which operations fail and by what the target has. -/
def Env.progress (target : Target) (targetPath : Path) (checksum : String) : Progress :=
  match target.sourcePath, target.backupPath with
  | some url, some _ =>
    if env.Fetches url checksum then env.installProgress disk targetPath else .untouched
  | _, _ => .untouched

/-- What is found after a call. -/
def Reached (disk disk' : Disk V) (targetPath : Path) (content : Bytes) (version : V) :
    Progress → Prop
  | .untouched => disk'.files targetPath = disk.files targetPath ∧ disk'.versions = disk.versions
  | .movedAway =>
    disk.files targetPath ≠ none ∧ disk'.files targetPath = none ∧ disk'.versions = disk.versions
  | .replaced => disk'.files targetPath = some content ∧ disk'.versions = disk.versions
  | .emptied => disk'.files targetPath = some content ∧ disk'.versions = .broken
  | .recorded =>
    disk'.files targetPath = some content ∧
      ∃ versions : Dict Path V, disk'.versions =
        .object (versions.set (basename targetPath) version)

open Effect

/-- What is found after the last part of a call, which begins with the new file in place. -/
theorem reached_finish {targetPath : Path} {content : Bytes}
    (hnew : disk.files targetPath = some content) (processName : Path) (version : V) :
    Reached disk (exec (finish env processName (basename targetPath) version) disk).2 targetPath
      content version
      (if env.stopsUnrecorded disk then .replaced
        else if env.fails .dumpVersions then .emptied else .recorded) := by
  rw [finish, exec_attempt_bind]
  by_cases hchmod : env.fails .chmod
  · rw [if_pos hchmod, if_pos (by simp [Env.stopsUnrecorded, hchmod])]
    exact ⟨hnew, rfl⟩
  rw [if_neg hchmod, exec_attempt_bind]
  by_cases hlog : env.fails .logReplaced
  · rw [if_pos hlog, if_pos (by simp [Env.stopsUnrecorded, hlog])]
    exact ⟨hnew, rfl⟩
  rw [if_neg hlog]
  obtain ⟨restarted, hrestart⟩ := exec_restartService env disk processName
  by_cases hraises : env.restartRaises
  · rw [if_pos hraises] at hrestart
    rw [exec_bind_of_error hrestart, if_pos (by simp [Env.stopsUnrecorded, hraises])]
    exact ⟨hnew, rfl⟩
  rw [if_neg hraises] at hrestart
  rw [exec_bind_of_ok hrestart]
  have hupdate := exec_updateVersion env { disk with restarted := restarted } (basename targetPath)
    version
  have hsame : env.loaded { disk with restarted := restarted } = env.loaded disk := rfl
  rw [hsame] at hupdate
  cases hloaded : env.loaded disk with
  | none =>
    rw [hloaded] at hupdate
    rw [exec_bind_of_error hupdate, if_pos (by simp [Env.stopsUnrecorded, hloaded])]
    exact ⟨hnew, rfl⟩
  | some versions =>
    simp only [hloaded] at hupdate
    by_cases hopen : env.fails .openVersions
    · rw [if_pos hopen] at hupdate
      rw [exec_bind_of_error hupdate, if_pos (by simp [Env.stopsUnrecorded, hopen])]
      exact ⟨hnew, rfl⟩
    rw [if_neg hopen] at hupdate
    rw [if_neg (by simp [Env.stopsUnrecorded, hchmod, hlog, hraises, hloaded, hopen])]
    by_cases hdump : env.fails .dumpVersions
    · rw [if_pos hdump] at hupdate
      rw [exec_bind_of_error hupdate, if_pos hdump]
      exact ⟨hnew, rfl⟩
    rw [if_neg hdump] at hupdate
    rw [exec_bind_of_ok hupdate, if_neg hdump, exec_attempt_bind]
    -- what is logged last changes nothing any more
    split
    · exact ⟨hnew, versions, rfl⟩
    · exact ⟨hnew, versions, rfl⟩

/-- What is found after the new file was to be moved into place. -/
theorem reached_rename {disk disk' : Disk V} (hversions : disk'.versions = disk.versions)
    {targetPath tempFile : Path} {content : Bytes} (hfetched : disk'.files tempFile = some content)
    (hmoves : env.fails .renameToTarget = false) (processName : Path) (version : V) :
    Reached disk
      (exec (do
        rename env .renameToTarget tempFile targetPath
        finish env processName (basename targetPath) version) disk').2 targetPath content version
      (if env.stopsUnrecorded disk then .replaced
        else if env.fails .dumpVersions then .emptied else .recorded) := by
  have hrename := exec_rename env disk' .renameToTarget tempFile targetPath
  rw [hmoves, if_neg Bool.false_ne_true, hfetched] at hrename
  rw [exec_bind_of_ok hrename]
  have hnew : Function.update (Function.update disk'.files tempFile none) targetPath (some content)
      targetPath = some content := Function.update_self _ _ _
  have hfinish := reached_finish env
    { disk' with
      files := Function.update (Function.update disk'.files tempFile none) targetPath
        (some content) } hnew processName version
  -- the versions are still those from before the call
  have hstops : env.stopsUnrecorded disk' = env.stopsUnrecorded disk := by
    simp only [Env.stopsUnrecorded, Env.loaded, hversions]
  change Reached _ _ _ _ _ (if env.stopsUnrecorded disk' then _ else _) at hfinish
  rw [hstops] at hfinish
  split
  · rw [if_pos ‹_›] at hfinish
    exact ⟨hfinish.1, hfinish.2.trans hversions⟩
  · rw [if_neg ‹_›] at hfinish
    split
    · rw [if_pos ‹_›] at hfinish
      exact hfinish
    · rw [if_neg ‹_›] at hfinish
      exact hfinish

/-- What is found after a call that has fetched the new file, by how far it gets then. -/
theorem reached_install {disk disk' : Disk V} (hversions : disk'.versions = disk.versions)
    {targetPath tempFile backupFile : Path} {content : Bytes}
    (hkept : disk'.files targetPath = disk.files targetPath)
    (hfetched : disk'.files tempFile = some content) (htemp : targetPath ≠ tempFile)
    (hbackup : targetPath ≠ backupFile) (hboth : tempFile ≠ backupFile) (processName : Path)
    (version : V) :
    Reached disk
      (exec (do
        backupExisting env targetPath backupFile
        rename env .renameToTarget tempFile targetPath
        finish env processName (basename targetPath) version) disk').2 targetPath content version
      (env.installProgress disk targetPath) := by
  have hbacks : env.backsUp disk' targetPath = env.backsUp disk targetPath := by
    simp only [Env.backsUp, hkept]
  have hstep := exec_backupExisting env disk' targetPath backupFile
  rw [hbacks] at hstep
  rw [Env.installProgress]
  by_cases hold : env.backsUp disk targetPath
  · have hthere : disk.files targetPath ≠ none := by
      rw [← Option.isSome_iff_ne_none]
      exact (Bool.and_eq_true_iff.mp hold).2
    by_cases hmove : env.fails .renameToBackup
    · rw [if_neg (by simp [hmove]), if_pos hold] at hstep
      rw [exec_bind_of_error hstep, if_pos ⟨hold, hmove⟩]
      exact ⟨hkept, hversions⟩
    rw [if_pos ⟨hold, (Bool.not_eq_true _).mp hmove⟩] at hstep
    rw [if_neg (fun h => hmove h.2)]
    -- the file is not in its place any more, and the new one is still in the inbox
    have hgone : Function.update (Function.update disk'.files targetPath none) backupFile
        (disk'.files targetPath) targetPath = none := by
      rw [Function.update_of_ne hbackup, Function.update_self]
    have hnew : Function.update (Function.update disk'.files targetPath none) backupFile
        (disk'.files targetPath) tempFile = some content := by
      rw [Function.update_of_ne hboth, Function.update_of_ne (Ne.symm htemp), hfetched]
    by_cases hlog : env.fails .logBackup
    · rw [if_pos hlog] at hstep
      rw [exec_bind_of_error hstep, if_pos (Or.inl ⟨hold, hlog⟩), if_pos hold]
      exact ⟨hthere, hgone, hversions⟩
    rw [if_neg hlog] at hstep
    rw [exec_bind_of_ok hstep]
    by_cases hrename : env.fails .renameToTarget
    · have hstop := exec_rename env
        { disk' with
          files := Function.update (Function.update disk'.files targetPath none) backupFile
            (disk'.files targetPath) } .renameToTarget tempFile targetPath
      rw [if_pos hrename] at hstop
      rw [if_pos (Or.inr hrename), if_pos hold, exec_bind_of_error hstop]
      exact ⟨hthere, hgone, hversions⟩
    · rw [if_neg (by simp [hlog, hrename])]
      refine reached_rename env ?_ hnew ((Bool.not_eq_true _).mp hrename) processName version
      exact hversions
  · rw [if_neg (fun h => hold h.1), if_neg hold] at hstep
    rw [if_neg (fun h => hold h.1), exec_bind_of_ok hstep]
    by_cases hrename : env.fails .renameToTarget
    · have hstop := exec_rename env disk' .renameToTarget tempFile targetPath
      rw [if_pos hrename] at hstop
      rw [if_pos (Or.inr hrename), if_neg hold, exec_bind_of_error hstop]
      exact ⟨hkept, hversions⟩
    · rw [if_neg (by simp [hold, hrename])]
      exact reached_rename env hversions hfetched ((Bool.not_eq_true _).mp hrename) processName
        version

/-- **What is found after a call**, for an update whose file is not in the inbox of the OTA
service itself. -/
theorem reached {target : Target} {targetPath : Path} {checksum : String}
    (htarget : target.targetPath = some targetPath) (hchecksum : checksum ≠ "")
    (hinbox : targetPath ≠ joinPath env.inboxDir (basename targetPath)) (version : V) :
    Reached disk (exec (applyOta env target version checksum) disk).2 targetPath
      (env.served (target.sourcePath.getD [])) version
      (env.progress disk target targetPath checksum) := by
  rw [applyOta, htarget, item, exec_bind_of_ok (exec_pure _ _), Env.progress]
  rcases target.sourcePath with - | url
  · exact ⟨rfl, rfl⟩
  rcases target.backupPath with - | backupDir
  · exact ⟨rfl, rfl⟩
  rw [item, exec_bind_of_ok (exec_pure _ _), item, exec_bind_of_ok (exec_pure _ _)]
  obtain ⟨r, files, hfetch, hkept, hr, hcontent⟩ :=
    fetching env disk url (joinPath env.inboxDir (basename targetPath)) hchecksum
  have htargetKept : files targetPath = disk.files targetPath := hkept _ hinbox
  by_cases hfetches : env.Fetches url checksum
  · simp only [hfetches, if_true]
    rw [hr.mpr hfetches] at hfetch
    rw [exec_bind_of_ok hfetch, if_pos rfl]
    refine reached_install env ?_ htargetKept (hcontent hfetches) hinbox
      (backup_ne targetPath backupDir env.now rfl) ?_ _ version
    · rfl
    · exact backup_ne targetPath backupDir env.now
        (basename_joinPath _ (not_mem_basename targetPath))
  · simp only [hfetches, if_false]
    -- nothing but the file in the inbox has been touched
    rcases r with e | ok
    · rw [exec_bind_of_error hfetch]
      exact ⟨htargetKept, rfl⟩
    · cases ok with
      | true => exact absurd (hr.mp rfl) hfetches
      | false =>
        rw [exec_bind_of_ok hfetch, if_neg Bool.false_ne_true, exec_attempt_bind]
        split
        · exact ⟨htargetKept, rfl⟩
        · exact ⟨htargetKept, rfl⟩

/-! ### Atomicity -/

/-- The file is there with the digest the update gives. -/
def Installed (disk : Disk V) (targetPath : Path) (checksum : String) : Prop :=
  ∃ content, disk.files targetPath = some content ∧ env.sha256Hex content = checksum

/-- `versions.json` names a version for a file. -/
def Disk.Names (disk : Disk V) (fileName : Path) (version : V) : Prop :=
  match disk.versions with
  | .object versions => versions.get? fileName = some version
  | _ => False

/-- What an installation should be, from the disk before it and the disk after it. -/
structure Atomic (disk disk' : Disk V) (targetPath : Path) (version : V) (checksum : String) :
    Prop where
  content : disk'.files targetPath = disk.files targetPath ∨ Installed env disk' targetPath checksum
  version : disk'.Names (basename targetPath) version ↔ Installed env disk' targetPath checksum

/-- What was fetched has the digest the update gives. -/
theorem sha256Hex_of_progress {target : Target} {targetPath : Path} {checksum : String}
    (h : env.progress disk target targetPath checksum ≠ .untouched) :
    env.sha256Hex (env.served (target.sourcePath.getD [])) = checksum := by
  rcases target with ⟨p, - | url, - | backupDir, processName⟩
  · exact absurd rfl h
  · exact absurd rfl h
  · exact absurd rfl h
  · by_cases hfetches : env.Fetches url checksum
    · exact hfetches.2.2.2.2.2.2
    · exact absurd (if_neg hfetches) h

/-- The digest of `new`. -/
def newDigest : String := "11507a0e2f5e69d5dfa40a62a1bd7b6ee57e6bcd85c67c9b8431b36fff21c437"

/-- A call of which given operations fail; the server sends `new`. -/
def sampleEnv (fails : Op → Bool) : Env where
  sha256Hex content :=
    if content = [0x6E, 0x65, 0x77] then newDigest
    else "cba06b5736faf67e54b07b561eae94395e774c517a7d910a54369e1263ccfbd4"
  inboxDir := ['/', 'i']
  now := 1760448573
  served _ := [0x6E, 0x65, 0x77]
  leftover := none
  fails := fails

end Ota

end VehicleStack
