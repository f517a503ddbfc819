import VehicleStack.Lib.Dict
import VehicleStack.Lib.Effect
import Mathlib.Data.List.DropRight
import Mathlib.Logic.Function.Basic

/-!
# Installing an update

`apply_ota` of `ota_service.py`, with what it uses of `utils.py`. It fetches the new file into
the inbox, checks its digest, moves the old file to the backup directory, moves the new one
into its place, restarts the service and enters the version in `versions.json`.

Every operation on the file system, the network or the services, and every line that goes to
the log file, may raise where it stands (`VehicleStack.Ota.Op`): which ones do is part of the
surroundings (`VehicleStack.Ota.Env`). A `rename` or a write that raises has changed nothing,
except that a download may leave a part of the file behind, and that `save_versions` has emptied
`versions.json` by the time it writes. What the log says is left out.
-/

namespace VehicleStack

namespace Ota

/-! ### Paths -/

/-- A path, or another string. -/
abbrev Path := List Char

/-- Bytes. -/
abbrev Bytes := List UInt8

/-- `os.path.basename`. -/
def basename (p : Path) : Path := p.rtakeWhile (· ≠ '/')

/-- `os.path.join` of two paths. -/
def joinPath (a b : Path) : Path :=
  if b.head? = some '/' then b
  else if a = [] ∨ a.getLast? = some '/' then a ++ b
  else a ++ '/' :: b

/-! ### Surroundings -/

/-- The operations of `apply_ota` that may fail, in the order of the source. -/
inductive Op where
  | makedirsBackup
  | makedirsInbox
  | retrieve
  | logRetrieveFailed
  | logRetrieved
  | logNoChecksum
  | readTemp
  | logChecksum
  | logMismatch
  | logAborted
  | existsTarget
  | renameToBackup
  | logBackup
  | renameToTarget
  | chmod
  | logReplaced
  | restart
  | logRestarted
  | logRestartFailed
  | existsVersions
  | loadVersions
  | openVersions
  | dumpVersions
  | logVersion
  deriving DecidableEq

/-- The surroundings of one call. -/
structure Env where
  /-- `hashlib.sha256(content).hexdigest()`. -/
  sha256Hex : Bytes → String
  /-- `INBOX_DIR`. -/
  inboxDir : Path
  /-- `int(time.time())`. -/
  now : ℕ
  /-- What a server sends for a URL. -/
  served : Path → Bytes
  /-- What a download that fails leaves in its file, if it gets as far as opening it. -/
  leftover : Option Bytes
  /-- Which operations fail. -/
  fails : Op → Bool

/-- What `versions.json` holds. -/
inductive VersionsFile (V : Type) where
  | missing
  /-- Something that is not an object: emptied, cut off, or another value. -/
  | broken
  | object (versions : Dict Path V)

/-- The files, and the services that were asked to restart. -/
structure Disk (V : Type) where
  files : Path → Option Bytes
  versions : VersionsFile V
  restarted : List Path := []

/-- The exceptions: a key the target does not have, or an operation. -/
inductive OtaError where
  | keyError (key : String)
  | failed (op : Op)
  deriving DecidableEq

/-- The `target` of an update. -/
structure Target where
  targetPath : Option Path
  sourcePath : Option Path
  backupPath : Option Path
  processCheck : Option Path := none

/-! ### The code -/

variable {V : Type}

/-- A program of the OTA service. -/
abbrev Py (V α : Type) := Effect OtaError (Disk V) α

/-- `target[key]`. -/
def item (value : Option Path) (key : String) : Py V Path :=
  match value with
  | some p => pure p
  | none => throw (.keyError key)

variable (env : Env)

/-- An operation that changes no file, such as `log`. -/
def attempt (op : Op) : Py V Unit := if env.fails op then throw (.failed op) else pure ()

/-- Writing a whole file. -/
def writeFile (p : Path) (content : Bytes) : Py V Unit :=
  modify fun disk => { disk with files := Function.update disk.files p (some content) }

/-- `os.path.exists`, which is false if the file cannot be looked at. -/
def exists? (op : Op) (there : Disk V → Bool) : Py V Bool := do
  let disk ← get
  pure (!env.fails op && there disk)

/-- `os.rename`. -/
def rename (op : Op) (source dest : Path) : Py V Unit := do
  attempt env op
  let disk ← get
  match disk.files source with
  | none => throw (.failed op)
  | some content =>
    modify fun disk =>
      { disk with
        files := Function.update (Function.update disk.files source none) dest (some content) }

/-- `urllib.request.urlretrieve`. -/
def urlretrieve (url dest : Path) : Py V Unit := do
  if env.fails .retrieve then
    match env.leftover with
    | some content => writeFile dest content
    | none => pure ()
    throw (.failed .retrieve)
  else writeFile dest (env.served url)

/-- `download_file`. -/
def downloadFile (url dest : Path) : Py V Unit :=
  tryCatch (urlretrieve env url dest) fun e => do
    attempt env .logRetrieveFailed
    throw e

/-- `verify_checksum`. -/
def verifyChecksum (filePath : Path) (expectedChecksum : String) : Py V Bool := do
  if expectedChecksum = "" then
    attempt env .logNoChecksum
    pure true
  else
    attempt env .readTemp
    let disk ← get
    match disk.files filePath with
    | none => throw (.failed .readTemp)
    | some content =>
      attempt env .logChecksum
      if env.sha256Hex content = expectedChecksum then pure true
      else
        attempt env .logMismatch
        pure false

/-- `load_versions`. -/
def loadVersions : Py V (Dict Path V) := do
  let disk ← get
  let found ← exists? env .existsVersions fun disk =>
    match disk.versions with
    | .missing => false
    | _ => true
  if found then
    attempt env .loadVersions
    match disk.versions with
    | .object versions => pure versions
    | _ => throw (.failed .loadVersions)
  else pure .empty

/-- `save_versions`. -/
def saveVersions (versions : Dict Path V) : Py V Unit := do
  attempt env .openVersions
  modify fun disk => { disk with versions := .broken }
  attempt env .dumpVersions
  modify fun disk => { disk with versions := .object versions }

/-- Fetching the new file and checking it: steps 1 and 2 of `apply_ota`. -/
def fetch (url tempFile : Path) (checksum : String) : Py V Bool := do
  attempt env .makedirsBackup
  attempt env .makedirsInbox
  downloadFile env url tempFile
  attempt env .logRetrieved
  verifyChecksum env tempFile checksum

/-- Keeping the old file: step 3. -/
def backupExisting (targetPath backupFile : Path) : Py V Unit := do
  let found ← exists? env .existsTarget fun disk => (disk.files targetPath).isSome
  if found then
    rename env .renameToBackup targetPath backupFile
    attempt env .logBackup
  else pure ()

/-- Restarting the service: step 5. What goes wrong here is logged. -/
def restartService (processName : Path) : Py V Unit :=
  tryCatch
    (do
      modify fun disk =>
        { disk with
          restarted := disk.restarted ++ ["vc-".toList ++ processName ++ ".service".toList] }
      attempt env .restart
      attempt env .logRestarted)
    fun _ => attempt env .logRestartFailed

/-- Entering the version: step 6. -/
def updateVersion (fileName : Path) (version : V) : Py V Unit := do
  let versions ← loadVersions env
  saveVersions env (versions.set fileName version)

/-- The rest, once the new file is in place. -/
def finish (processName fileName : Path) (version : V) : Py V Bool := do
  attempt env .chmod
  attempt env .logReplaced
  restartService env processName
  updateVersion env fileName version
  attempt env .logVersion
  pure true

/-- `apply_ota`. -/
def applyOta (target : Target) (version : V) (checksum : String) : Py V Bool := do
  let targetPath ← item target.targetPath "target_path"
  let srcUrl ← item target.sourcePath "source_path"
  let backupDir ← item target.backupPath "backup_path"
  let fileName := basename targetPath
  let processName :=
    match target.processCheck with
    | none | some [] => fileName
    | some name => name
  let tempFile := joinPath env.inboxDir fileName
  let verified ← fetch env srcUrl tempFile checksum
  if verified then
    backupExisting env targetPath
      (joinPath backupDir (fileName ++ '_' :: Nat.toDigits 10 env.now))
    rename env .renameToTarget tempFile targetPath
    finish env processName fileName version
  else
    attempt env .logAborted
    pure false

/-! ### What the operations do -/

section Operations

variable {α : Type} (disk : Disk V)

open Effect

theorem exec_attempt (op : Op) :
    exec (attempt env op : Py V Unit) disk =
      if env.fails op then (.error (.failed op), disk) else (.ok (), disk) := by
  rw [attempt]
  split <;> rfl

/-- An operation and what follows it. -/
theorem exec_attempt_bind (op : Op) (f : Unit → Py V α) :
    exec (attempt env op >>= f) disk =
      if env.fails op then (.error (.failed op), disk) else exec (f ()) disk := by
  rw [exec_bind, exec_attempt]
  by_cases hfails : env.fails op
  · rw [if_pos hfails, if_pos hfails]
  · rw [if_neg hfails, if_neg hfails]

/-- A download: the file, or what is left of it. -/
theorem exec_downloadFile (url dest : Path) :
    exec (downloadFile env url dest : Py V Unit) disk =
      if env.fails .retrieve then
        (.error (if env.fails .logRetrieveFailed then .failed .logRetrieveFailed
          else .failed .retrieve),
          { disk with
            files :=
              match env.leftover with
              | some content => Function.update disk.files dest (some content)
              | none => disk.files })
      else
        (.ok (), { disk with
          files := Function.update disk.files dest (some (env.served url)) }) := by
  have hretrieve : exec (urlretrieve env url dest : Py V Unit) disk =
      if env.fails .retrieve then
        (.error (.failed .retrieve),
          { disk with
            files :=
              match env.leftover with
              | some content => Function.update disk.files dest (some content)
              | none => disk.files })
      else
        (.ok (), { disk with
          files := Function.update disk.files dest (some (env.served url)) }) := by
    rw [urlretrieve]
    split
    · cases env.leftover <;> rfl
    · rfl
  rw [downloadFile, exec_tryCatch, hretrieve]
  by_cases hfails : env.fails .retrieve
  · simp only [hfails, if_true, exec_attempt_bind, exec_throw]
    split <;> rfl
  · simp only [hfails, if_false, Bool.false_eq_true]

/-- A rename moves the content, and fails if there is none. -/
theorem exec_rename (op : Op) (source dest : Path) :
    exec (rename env op source dest : Py V Unit) disk =
      if env.fails op then (.error (.failed op), disk)
      else
        match disk.files source with
        | none => (.error (.failed op), disk)
        | some content =>
          (.ok (), { disk with
            files := Function.update (Function.update disk.files source none) dest
              (some content) }) := by
  rw [rename, exec_attempt_bind]
  split
  · rfl
  · rw [exec_bind, exec_get]
    cases hsource : disk.files source <;> simp only [hsource] <;> rfl

/-- A program changes the file in the inbox only. It returns true exactly under a condition,
and then that file has the given content. -/
def Fetching (tempFile : Path) (content : Bytes) (goes : Prop) (x : Py V Bool) (disk : Disk V) :
    Prop :=
  ∃ r files, exec x disk = (r, { disk with files := files }) ∧
    (∀ p, p ≠ tempFile → files p = disk.files p) ∧
    (r = .ok true ↔ goes) ∧ (goes → files tempFile = some content)

section Fetching

variable {env disk}
variable {tempFile : Path} {content : Bytes} {goes : Prop}

/-- A program that stops at once, without success. -/
theorem fetching_of_stop {x : Py V Bool} {r : Except OtaError Bool} (h : exec x disk = (r, disk))
    (hr : r ≠ .ok true) (hgoes : ¬ goes) : Fetching tempFile content goes x disk :=
  ⟨r, disk.files, h, fun _ _ => rfl, ⟨fun h => absurd h hr, fun h => absurd h hgoes⟩,
    fun h => absurd h hgoes⟩

/-- An operation that may fail comes first. -/
theorem Fetching.attempt {f : Unit → Py V Bool} {op : Op}
    (h : Fetching tempFile content goes (f ()) disk) :
    Fetching tempFile content (env.fails op = false ∧ goes) (attempt env op >>= f) disk := by
  by_cases hfails : env.fails op
  · refine fetching_of_stop (r := .error (.failed op)) ?_ nofun (fun hgoes => ?_)
    · rw [exec_attempt_bind, if_pos hfails]
    · rw [hgoes.1] at hfails
      cases hfails
  · obtain ⟨r, files, hexec, hkept, hr, hcontent⟩ := h
    refine ⟨r, files, ?_, hkept, ?_, fun hgoes => hcontent hgoes.2⟩
    · rw [exec_attempt_bind, if_neg hfails, hexec]
    · rw [hr, Bool.not_eq_true] at *
      exact (and_iff_right hfails).symm

/-- The download comes first. -/
theorem Fetching.download {f : Unit → Py V Bool} {url : Path}
    (h : Fetching tempFile content goes (f ())
      { disk with files := Function.update disk.files tempFile (some (env.served url)) }) :
    Fetching tempFile content (env.fails .retrieve = false ∧ goes)
      (downloadFile env url tempFile >>= f) disk := by
  by_cases hfails : env.fails .retrieve
  · have hnot : ¬ (env.fails .retrieve = false ∧ goes) := fun hgoes => by
      rw [hgoes.1] at hfails
      cases hfails
    have hexec := exec_downloadFile env disk url tempFile
    rw [if_pos hfails] at hexec
    refine ⟨_, _, exec_bind_of_error hexec, fun p hp => ?_,
      ⟨nofun, fun hgoes => absurd hgoes hnot⟩, fun hgoes => absurd hgoes hnot⟩
    cases env.leftover
    · rfl
    · exact Function.update_of_ne hp _ _
  · obtain ⟨r, files, hrest, hkept, hr, hcontent⟩ := h
    have hexec := exec_downloadFile env disk url tempFile
    rw [if_neg hfails] at hexec
    refine ⟨r, files, (exec_bind_of_ok hexec).trans hrest, fun p hp => ?_, ?_,
      fun hgoes => hcontent hgoes.2⟩
    · exact (hkept p hp).trans (Function.update_of_ne hp _ _)
    · rw [hr, Bool.not_eq_true] at *
      exact (and_iff_right hfails).symm

end Fetching

/-- What has to go well for the new file to be fetched, and what it has to be. -/
def Env.Fetches (url : Path) (checksum : String) : Prop :=
  env.fails .makedirsBackup = false ∧ env.fails .makedirsInbox = false ∧
    env.fails .retrieve = false ∧ env.fails .logRetrieved = false ∧ env.fails .readTemp = false ∧
    env.fails .logChecksum = false ∧ env.sha256Hex (env.served url) = checksum

/-- **Fetching** changes the file in the inbox only, and succeeds exactly if no operation fails
and the digest is the one expected; then the file is what the server sent. -/
theorem fetching (url tempFile : Path) {checksum : String} (hchecksum : checksum ≠ "") :
    Fetching tempFile (env.served url) (env.Fetches url checksum)
      (fetch env url tempFile checksum) disk := by
  refine Fetching.attempt (Fetching.attempt (Fetching.download (Fetching.attempt ?_)))
  rw [verifyChecksum, if_neg hchecksum]
  refine Fetching.attempt ?_
  -- the file that is read is the one that was just written
  have hread : Function.update disk.files tempFile (some (env.served url)) tempFile =
      some (env.served url) := Function.update_self _ _ _
  rw [Fetching, exec_bind, exec_get]
  simp only [hread]
  refine Fetching.attempt ?_
  by_cases hdigest : env.sha256Hex (env.served url) = checksum
  · rw [if_pos hdigest]
    exact ⟨.ok true, _, rfl, fun _ _ => rfl, iff_of_true rfl hdigest, fun _ => hread⟩
  · rw [if_neg hdigest]
    cases hlog : env.fails .logMismatch with
    | true =>
      refine fetching_of_stop (r := .error (.failed .logMismatch)) ?_ nofun hdigest
      rw [exec_attempt_bind, if_pos hlog]
    | false =>
      refine fetching_of_stop (r := .ok false) ?_ nofun hdigest
      rw [exec_attempt_bind, hlog, if_neg Bool.false_ne_true, exec_pure]

/-- Whether there is an old file to move away. -/
def Env.backsUp (targetPath : Path) : Bool :=
  !env.fails .existsTarget && (disk.files targetPath).isSome

/-- **Keeping the old file**: it is moved, and then the log may still raise. -/
theorem exec_backupExisting (targetPath backupFile : Path) :
    exec (backupExisting env targetPath backupFile) disk =
      if env.backsUp disk targetPath ∧ env.fails .renameToBackup = false then
        (if env.fails .logBackup then .error (.failed .logBackup) else .ok (),
          { disk with
            files := Function.update (Function.update disk.files targetPath none) backupFile
              (disk.files targetPath) })
      else
        (if env.backsUp disk targetPath then .error (.failed .renameToBackup) else .ok (),
          disk) := by
  have hfound : exec (backupExisting env targetPath backupFile) disk =
      exec (if env.backsUp disk targetPath then do
        rename env .renameToBackup targetPath backupFile
        attempt env .logBackup
      else pure ()) disk := rfl
  rw [hfound]
  cases hbacks : env.backsUp disk targetPath with
  | false => rfl
  | true =>
    obtain ⟨content, hcontent⟩ : ∃ content, disk.files targetPath = some content := by
      rw [← Option.isSome_iff_exists]
      exact (Bool.and_eq_true_iff.mp hbacks).2
    have hrename := exec_rename env disk .renameToBackup targetPath backupFile
    rw [if_pos rfl]
    cases hfails : env.fails .renameToBackup with
    | true =>
      rw [hfails, if_pos rfl] at hrename
      rw [exec_bind_of_error hrename, if_neg (fun h => Bool.noConfusion h.2), if_pos rfl]
    | false =>
      rw [hfails, if_neg Bool.false_ne_true, hcontent] at hrename
      rw [exec_bind_of_ok hrename, exec_attempt,
        if_pos (show true = true ∧ false = false from ⟨rfl, rfl⟩), hcontent]
      cases env.fails .logBackup <;> rfl

/-- Whether restarting the service raises. -/
def Env.restartRaises : Bool :=
  (env.fails .restart || env.fails .logRestarted) && env.fails .logRestartFailed

/-- Restarting the service leaves the files alone. -/
theorem exec_restartService (processName : Path) :
    ∃ restarted, exec (restartService env processName : Py V Unit) disk =
      (if env.restartRaises then .error (.failed .logRestartFailed) else .ok (),
        { disk with restarted := restarted }) := by
  refine ⟨disk.restarted ++ ["vc-".toList ++ processName ++ ".service".toList], ?_⟩
  rw [restartService, exec_tryCatch, exec_bind, exec_modify]
  simp only [exec_attempt_bind, exec_attempt, Env.restartRaises]
  by_cases hrestart : env.fails .restart <;> by_cases hlog : env.fails .logRestarted <;>
    by_cases hfailed : env.fails .logRestartFailed <;> simp [hrestart, hlog, hfailed]

/-- The versions as far as they can be read. -/
def Env.loaded : Option (Dict Path V) :=
  if env.fails .existsVersions then some .empty
  else
    match disk.versions with
    | .missing => some .empty
    | .broken => none
    | .object versions => if env.fails .loadVersions then none else some versions

/-- Reading the versions. -/
theorem exec_loadVersions :
    exec (loadVersions env : Py V (Dict Path V)) disk =
      match env.loaded disk with
      | some versions => (.ok versions, disk)
      | none => (.error (.failed .loadVersions), disk) := by
  obtain ⟨files, versions, restarted⟩ := disk
  cases hexists : env.fails .existsVersions <;> cases hload : env.fails .loadVersions <;>
    cases versions <;>
      simp [loadVersions, exists?, exec_bind, exec_map, exec_attempt, Env.loaded, hexists, hload]

/-- Entering the version: `versions.json` is emptied before it is written. -/
theorem exec_updateVersion (fileName : Path) (version : V) :
    exec (updateVersion env fileName version) disk =
      match env.loaded disk with
      | none => (.error (.failed .loadVersions), disk)
      | some versions =>
        if env.fails .openVersions then (.error (.failed .openVersions), disk)
        else if env.fails .dumpVersions then
          (.error (.failed .dumpVersions), { disk with versions := .broken })
        else (.ok (), { disk with versions := .object (versions.set fileName version) }) := by
  rw [updateVersion, exec_bind, exec_loadVersions]
  cases env.loaded disk with
  | none => rfl
  | some versions =>
    change exec (saveVersions env (versions.set fileName version)) disk = _
    rw [saveVersions, exec_attempt_bind]
    by_cases hopen : env.fails .openVersions
    · simp only [hopen, if_true]
    · simp only [hopen, if_false, Bool.false_eq_true]
      rw [exec_bind_of_ok (exec_modify _ _), exec_attempt_bind]
      split <;> rfl

end Operations

end Ota

end VehicleStack
