import Harvester.Kube.Basic
import Mathlib.Data.List.Dedup

/-!
# The metadata in the backup target

`OnBackupTargetChange` of `pkg/controller/master/backup/backup_metadata.go`, as far as it is about
VM backups: a cluster learns of the backups in a target from the metadata files there.

The files lie in a folder for each namespace; older versions had them all in one folder.  The
handler first moves such files, then it goes through the folders and makes the missing backups.  A
folder that the first step has made is not among those that the second step lists.
`sync_complete_iff` says when a pass misses nothing.

A VM image of the target is created when its backing image is there; the test for it looks at
another one (`checkBackupBackingImageExist_iff`).
-/

namespace Harvester

namespace Metadata

open Control

open Control.Action (ofExcept fail request attempt)

/-! ### The backup target -/

/-- A path, by its components. -/
abbrev Path := List String

/-- The part of a volume backup that the handler looks at. -/
structure VolumeBackup where
  storageClassName : Option String
  volumeName : String
  longhornBackupName : Option String
  deriving DecidableEq, Repr

/-- `VirtualMachineBackupMetadata`; its other fields are copied to the VM backup. -/
structure BackupMetadata where
  name : String
  ns : String
  volumeBackups : List VolumeBackup
  deriving DecidableEq, Repr

/-- A namespace that is not given is the default one. -/
def BackupMetadata.withNamespace (m : BackupMetadata) : BackupMetadata :=
  if m.ns = "" then { m with ns := "default" } else m

/-- The key of the backup. -/
def BackupMetadata.key (m : BackupMetadata) : Key := ⟨m.ns, m.name⟩

/-- The files with their contents; `none` cannot be decoded. -/
abbrev Files := List (Path × Option BackupMetadata)

namespace Files

variable (files : Files)

/-- There is a file. -/
def fileExists (p : Path) : Bool := (files.lookup p).isSome

/-- `List`: the names in a folder. -/
def list (p : Path) : List String :=
  (files.filterMap fun file => (p.isPrefixOf? file.1).bind List.head?).dedup

/-- A file is removed. -/
def remove (p : Path) : Files := files.filter (·.1 ≠ p)

/-- A file is written. -/
def write (p : Path) (m : BackupMetadata) : Files := files.remove p ++ [(p, some m)]

end Files

/-- `vmBackupMetadataFolderPath`. -/
def folderPath : Path := ["harvester", "vmbackups"]

/-- `getVMBackupMetadataFilePath`. -/
def filePath (m : BackupMetadata) : Path := folderPath ++ [m.ns, m.name ++ ".cfg"]

/-- The target, and what the cluster has. -/
structure World where
  files : Files
  backups : List Key
  namespaces : List String
  deriving DecidableEq, Repr

/-- Also the annotations of the setting: the hash of the synced target and the time. -/
structure State where
  world : World
  synced : Option (String × Nat)
  deriving DecidableEq, Repr

/-- What a pass finds, and what becomes of its requests. -/
structure Env where
  getBackupStoreDriver : Except Err Unit
  list : Path → Except Err Unit
  read : Path → Except Err Unit
  write : Path → Fault
  remove : Path → Fault
  /-- The order in which the set of folders is gone through. -/
  order : List Path → List Path
  order_perm : ∀ ds, (order ds).Perm ds
  /-- A storage class that is found, with whether it is being deleted. -/
  getStorageClass : String → Option Bool
  /-- The Longhorn backup of a volume is in the target, and in the cluster without being deleted. -/
  hasLonghornBackup : (volumeName longhornBackupName : String) → Bool
  /-- Whether the cache has the VM backup of the file at a path. -/
  getVMBackup : Path → Key → Except Err Bool
  getNamespace : Path → String → Except Err Bool
  createNamespace : Path → Fault
  createVMBackup : Path → Fault
  /-- The setting: its value, whether it decodes to the default target, and its hash. -/
  value : String
  isDefaultBackupTarget : Except Err Bool
  hash : String
  now : Nat
  refreshIntervalInSeconds : Nat
  syncVMImage : Except Err Unit
  checkExistingVMBackup : Except Err Unit
  updateSetting : Fault

section

variable (env : Env)

/-! ### A pass -/

/-- Look at the state. -/
def get : Action World Err World := fun w => (.ok w, w)

/-- `List` of the driver. -/
def list (p : Path) : Action World Err (List String) := do
  ofExcept (env.list p)
  let w ← get
  return w.files.list p

/-- `loadBackupMetadataInBackupTarget`, with the namespace filled in. -/
def loadBackupMetadata (p : Path) : Action World Err BackupMetadata := do
  let w ← get
  match w.files.lookup p with
  | none => fail (.other ("cannot find " ++ "/".intercalate p ++ " in backupstore"))
  | some content =>
    ofExcept (env.read p)
    match content with
    | none => fail (.other "cannot decode the metadata")
    | some m => return m.withNamespace

/-- Files of the old layout are moved. -/
def moveFilePaths : List Path → (folders : List Path) → Action World Err (List Path)
  | [], folders => pure folders
  | p :: ps, folders => do
    let m ← loadBackupMetadata env p
    request (env.write (filePath m)) (.other "write")
      (.modify fun w => { w with files := w.files.write (filePath m) m })
    request (env.remove p) (.other "remove")
      (.modify fun w => { w with files := w.files.remove p })
    -- The name of the namespace, not the path of its folder.
    moveFilePaths ps (folders ++ [[m.ns]])

/-- The second loop of `syncVMBackup`: the files in the folders. -/
def filesIn : List Path → Action World Err (List Path)
  | [] => pure []
  | d :: ds => do
    let fileNames ← list env d
    let w ← get
    let rest ← filesIn ds
    return (fileNames.map (d ++ [·])).filter w.files.fileExists ++ rest

/-- The storage classes exist. -/
def checkDependentStorageClassExist (m : BackupMetadata) : Bool :=
  m.volumeBackups.all fun vb =>
    vb.storageClassName.all fun sc => env.getStorageClass sc = some false

/-- The Longhorn backups exist. -/
def checkDependentLonghornBackupExist (m : BackupMetadata) : Bool :=
  m.volumeBackups.all fun vb => vb.longhornBackupName.any (env.hasLonghornBackup vb.volumeName)

/-- The namespace is created. -/
def createNamespaceIfNotExist (p : Path) (ns : String) : Action World Err Unit := do
  let found ← ofExcept (env.getNamespace p ns)
  if found then return
  request (env.createNamespace p) (.other "create namespace") fun w =>
    if ns ∈ w.namespaces then (.error (.alreadyExists ⟨"", ns⟩), w)
    else (.ok (), { w with namespaces := ns :: w.namespaces })

/-- The request to create a VM backup. -/
def create (key : Key) : Action World Err Unit := fun w =>
  if key ∈ w.backups then (.error (.alreadyExists key), w)
  else (.ok (), { w with backups := key :: w.backups })

/-- The backup is created. -/
def createVMBackupIfNotExist (p : Path) (m : BackupMetadata) : Action World Err Unit := do
  let found ← ofExcept (env.getVMBackup p m.key)
  if found then return
  if m.volumeBackups.any fun vb =>
      vb.storageClassName.any fun sc => env.getStorageClass sc = none then
    return
  createNamespaceIfNotExist env p m.ns
  request (env.createVMBackup p) (.other "create vm backup") (create m.key)

/-- The backups of some files. -/
def loadBackupMetadataAndCreateVMBackup : List Path → Action World Err Unit :=
  .forEach fun p => do
    let m ← loadBackupMetadata env p
    .when (checkDependentStorageClassExist env m ∧ checkDependentLonghornBackupExist env m)
      (createVMBackupIfNotExist env p m)

/-- A pass over the files. -/
def syncVMBackup : Action World Err Unit := do
  ofExcept env.getBackupStoreDriver
  let fileNames ← list env folderPath
  let w ← get
  let filePaths := fileNames.map (folderPath ++ [·])
  let folders ← moveFilePaths env (filePaths.filter w.files.fileExists)
    (filePaths.filter (!w.files.fileExists ·))
  let filePaths ← filesIn env (env.order folders.dedup)
  loadBackupMetadataAndCreateVMBackup env filePaths

/-! ### The handler -/

/-- The target is to be read again. -/
def shouldRefresh (s : State) : Bool :=
  match s.synced with
  | none => true
  | some (hash, time) => hash ≠ env.hash ||
    env.refreshIntervalInSeconds ≠ 0 && env.refreshIntervalInSeconds ≤ env.now - time

/-- Write the annotations. -/
def setSynced (synced : Option (String × Nat)) : Action State Err Unit :=
  request env.updateSetting (.other "update setting") (.modify fun s => { s with synced })

/-- `OnBackupTargetChange` for a target that is to be refreshed. -/
def refresh : Action State Err Unit :=
  match env.syncVMImage with
  | .error _ => pure ()
  | .ok () => do
    match ← attempt (.zoom State.world (fun world s => { s with world }) (syncVMBackup env)) with
    | .error (_ : Err) => pure ()
    | .ok () =>
      match env.checkExistingVMBackup with
      | .error _ => pure ()
      | .ok () => setSynced env (some (env.hash, env.now))

/-- The handler of the setting. -/
def onBackupTargetChange : Action State Err Unit :=
  if env.value = "" then setSynced env none
  else do
    let isDefault ← ofExcept env.isDefaultBackupTarget
    if isDefault then setSynced env none
    else fun s => Action.run (.when (shouldRefresh env s) (refresh env)) s

end

/-! ### What a pass does -/

/-- The files when the given ones have been moved, and the folders that are remembered. -/
def Files.move (files : Files) : List Path → Files × List Path
  | [] => (files, [])
  | p :: ps =>
    match files.lookup p with
    | some (some m) =>
      let m := m.withNamespace
      let rest := Files.move ((files.write (filePath m) m).remove p) ps
      (rest.1, [m.ns] :: rest.2)
    | _ => (files, [])

/-- The files in the layout of older versions. -/
def Files.flat (files : Files) : List Path :=
  ((files.list folderPath).map (folderPath ++ [·])).filter files.fileExists

/-- The files when those of older versions have been moved. -/
def Files.moved (files : Files) : Files := (files.move files.flat).1

/-- The folders that are listed: those before the pass, and the names of the namespaces of moved
files. -/
def Files.folders (files : Files) : List Path :=
  ((files.list folderPath).map (folderPath ++ [·])).filter (!files.fileExists ·) ++
    (files.move files.flat).2

/-- The file at a path leads to the creation of a VM backup. -/
def Creates (env : Env) (files : Files) (p : Path) (key : Key) : Prop :=
  ∃ m, files.lookup p = some (some m) ∧ m.withNamespace.key = key ∧
    checkDependentStorageClassExist env m.withNamespace ∧
    checkDependentLonghornBackupExist env m.withNamespace ∧ env.getVMBackup p key = .ok false

variable {env : Env} {w w' : World} {p : Path}

open Control.Action (run_bind_eq_ok run_request_eq_ok)

theorem ofExcept_eq_ok {α : Type} {x : Except Err α} {a : α}
    (h : (ofExcept x : Action World Err α).run w = (.ok a, w')) : x = .ok a ∧ w = w' := by
  cases h
  exact ⟨rfl, rfl⟩

theorem list_eq_ok {names : List String} (h : (list env p).run w = (.ok names, w')) :
    names = w.files.list p ∧ w = w' := by
  obtain ⟨_, v, hv, h⟩ := run_bind_eq_ok.1 h
  obtain ⟨-, rfl⟩ := ofExcept_eq_ok hv
  cases h
  exact ⟨rfl, rfl⟩

theorem loadBackupMetadata_eq_ok {m : BackupMetadata}
    (h : (loadBackupMetadata env p).run w = (.ok m, w')) :
    w = w' ∧ ∃ m', w.files.lookup p = some (some m') ∧ m = m'.withNamespace := by
  obtain ⟨_, v, hv, h⟩ := run_bind_eq_ok.1 h
  cases hv
  split at h
  · cases h
  next content hlookup =>
  obtain ⟨_, v, hv, h⟩ := run_bind_eq_ok.1 h
  obtain ⟨-, rfl⟩ := ofExcept_eq_ok hv
  split at h
  · cases h
  · cases h
    exact ⟨rfl, _, hlookup, rfl⟩

theorem moveFilePaths_eq_ok {ps folders folders' : List Path}
    (h : (moveFilePaths env ps folders).run w = (.ok folders', w')) :
    folders' = folders ++ (w.files.move ps).2 ∧ w' = { w with files := (w.files.move ps).1 } := by
  induction ps generalizing folders w with
  | nil =>
    cases h
    exact ⟨by simp [Files.move], rfl⟩
  | cons p ps ih =>
    obtain ⟨m, v, hload, h⟩ := run_bind_eq_ok.1 h
    obtain ⟨rfl, m, hlookup, rfl⟩ := loadBackupMetadata_eq_ok hload
    obtain ⟨_, v, hwrite, h⟩ := run_bind_eq_ok.1 h
    cases (run_request_eq_ok.1 hwrite).2
    obtain ⟨_, v, hremove, h⟩ := run_bind_eq_ok.1 h
    cases (run_request_eq_ok.1 hremove).2
    obtain ⟨rfl, rfl⟩ := ih h
    simp [Files.move, hlookup]

theorem Files.mem_list {files : Files} {f : String} (h : files.fileExists (p ++ [f]) = true) :
    f ∈ files.list p := by
  obtain ⟨content, hcontent⟩ := Option.isSome_iff_exists.1 h
  obtain ⟨before, after, rfl, -⟩ := List.lookup_eq_some_iff.1 hcontent
  refine List.mem_dedup.2 (List.mem_filterMap.2 ⟨(p ++ [f], content), by simp, ?_⟩)
  have hsuffix : List.isPrefixOf? p (p ++ [f]) = some [f] :=
    List.isPrefixOf?_eq_some_iff_append_eq.2 rfl
  rw [hsuffix]
  rfl

theorem filesIn_eq_ok {ds ps : List Path} (h : (filesIn env ds).run w = (.ok ps, w')) :
    w = w' ∧ ∀ q, q ∈ ps ↔ ∃ d ∈ ds, ∃ f, q = d ++ [f] ∧ w.files.fileExists q = true := by
  induction ds generalizing ps w' with
  | nil =>
    cases h
    simp
  | cons d ds ih =>
    obtain ⟨names, v, hnames, h⟩ := run_bind_eq_ok.1 h
    obtain ⟨rfl, rfl⟩ := list_eq_ok hnames
    obtain ⟨_, v, hget, h⟩ := run_bind_eq_ok.1 h
    cases hget
    obtain ⟨rest, v, hrest, h⟩ := run_bind_eq_ok.1 h
    obtain ⟨rfl, hmem⟩ := ih hrest
    cases h
    refine ⟨rfl, fun q => ?_⟩
    simp only [List.mem_append, hmem, List.mem_cons, exists_eq_or_imp, List.mem_filter,
      List.mem_map]
    refine or_congr_left ⟨?_, ?_⟩
    · rintro ⟨⟨f, -, rfl⟩, hq⟩
      exact ⟨f, rfl, hq⟩
    · rintro ⟨f, rfl, hq⟩
      exact ⟨⟨f, Files.mem_list hq, rfl⟩, hq⟩

theorem createNamespaceIfNotExist_eq_ok {ns : String}
    (h : (createNamespaceIfNotExist env p ns).run w = (.ok (), w')) :
    w'.files = w.files ∧ w'.backups = w.backups := by
  obtain ⟨found, v, hfound, h⟩ := run_bind_eq_ok.1 h
  obtain ⟨-, rfl⟩ := ofExcept_eq_ok hfound
  split_ifs at h
  · cases h
    exact ⟨rfl, rfl⟩
  have hcreate := (run_request_eq_ok.1 h).2
  simp only [Action.run] at hcreate
  split_ifs at hcreate
  · cases hcreate
  · cases hcreate
    exact ⟨rfl, rfl⟩

theorem createVMBackupIfNotExist_eq_ok {m : BackupMetadata}
    (hsc : checkDependentStorageClassExist env m = true)
    (h : (createVMBackupIfNotExist env p m).run w = (.ok (), w')) :
    w'.files = w.files ∧ ∀ key, key ∈ w'.backups ↔
      key ∈ w.backups ∨ m.key = key ∧ env.getVMBackup p key = .ok false := by
  obtain ⟨found, v, hget, h⟩ := run_bind_eq_ok.1 h
  obtain ⟨hfound, rfl⟩ := ofExcept_eq_ok hget
  cases found with
  | true =>
    cases h
    refine ⟨rfl, fun key => (or_iff_left ?_).symm⟩
    rintro ⟨rfl, hnotFound⟩
    simp [hfound] at hnotFound
  | false =>
    have hclasses : ¬ (m.volumeBackups.any fun vb =>
        vb.storageClassName.any fun sc => env.getStorageClass sc = none) = true := by
      simp only [checkDependentStorageClassExist, List.all_eq_true, Option.all_eq_true,
        decide_eq_true_eq, List.any_eq_true, Option.any_eq_true, not_exists, not_and] at hsc ⊢
      intro vb hvb sc hname hnone
      simp [hsc vb hvb sc hname] at hnone
    rw [if_neg hclasses] at h
    obtain ⟨_, v, hns, h⟩ := run_bind_eq_ok.1 h
    obtain ⟨hfiles, hbackups⟩ := createNamespaceIfNotExist_eq_ok hns
    have hcreate := (run_request_eq_ok.1 h).2
    simp only [Action.run, create] at hcreate
    split_ifs at hcreate
    · cases hcreate
    cases hcreate
    refine ⟨hfiles, fun key => ?_⟩
    rw [← hbackups, List.mem_cons, or_comm, eq_comm]
    refine or_congr_right ⟨?_, And.left⟩
    rintro rfl
    exact ⟨rfl, hfound⟩

theorem loadBackupMetadataAndCreateVMBackup_eq_ok {ps : List Path}
    (h : (loadBackupMetadataAndCreateVMBackup env ps).run w = (.ok (), w')) :
    w'.files = w.files ∧ ∀ key, key ∈ w'.backups ↔
      key ∈ w.backups ∨ ∃ p ∈ ps, Creates env w.files p key := by
  induction ps generalizing w with
  | nil =>
    cases h
    simp
  | cons p ps ih =>
    obtain ⟨_, v, hturn, h⟩ := run_bind_eq_ok.1 h
    obtain ⟨m, v', hload, hturn⟩ := run_bind_eq_ok.1 hturn
    obtain ⟨rfl, m, hlookup, rfl⟩ := loadBackupMetadata_eq_ok hload
    have hstep : v.files = w.files ∧ ∀ key, key ∈ v.backups ↔
        key ∈ w.backups ∨ Creates env w.files p key := by
      unfold Action.when at hturn
      split_ifs at hturn with hchecks
      · obtain ⟨hfiles, hmem⟩ := createVMBackupIfNotExist_eq_ok hchecks.1 hturn
        refine ⟨hfiles, fun key => (hmem key).trans (or_congr_right ⟨?_, ?_⟩)⟩
        · exact fun ⟨hkey, hfound⟩ => ⟨m, hlookup, hkey, hchecks.1, hchecks.2, hfound⟩
        · rintro ⟨m', hlookup', hkey, -, -, hfound⟩
          cases hlookup.symm.trans hlookup'
          exact ⟨hkey, hfound⟩
      · cases hturn
        refine ⟨rfl, fun key => (or_iff_left ?_).symm⟩
        rintro ⟨m', hlookup', -, hsc, hlonghorn, -⟩
        cases hlookup.symm.trans hlookup'
        exact hchecks ⟨hsc, hlonghorn⟩
    obtain ⟨hfiles, hmem⟩ := ih h
    refine ⟨hfiles.trans hstep.1, fun key => ?_⟩
    rw [hmem, hstep.2, hstep.1, or_assoc]
    simp

/-- **What a pass does.** -/
theorem syncVMBackup_eq_ok (h : (syncVMBackup env).run w = (.ok (), w')) :
    w'.files = w.files.moved ∧ ∀ key, key ∈ w'.backups ↔ key ∈ w.backups ∨
      ∃ d ∈ w.files.folders, ∃ f, Creates env w.files.moved (d ++ [f]) key := by
  obtain ⟨_, v, hdriver, h⟩ := run_bind_eq_ok.1 h
  obtain ⟨-, rfl⟩ := ofExcept_eq_ok hdriver
  obtain ⟨names, v, hnames, h⟩ := run_bind_eq_ok.1 h
  obtain ⟨rfl, rfl⟩ := list_eq_ok hnames
  obtain ⟨_, v, hget, h⟩ := run_bind_eq_ok.1 h
  cases hget
  obtain ⟨folders, v, hmove, h⟩ := run_bind_eq_ok.1 h
  obtain ⟨hfolders, rfl⟩ := moveFilePaths_eq_ok hmove
  obtain ⟨ps, v, hps, h⟩ := run_bind_eq_ok.1 h
  obtain ⟨rfl, hmem⟩ := filesIn_eq_ok hps
  obtain ⟨hfiles, hbackups⟩ := loadBackupMetadataAndCreateVMBackup_eq_ok h
  refine ⟨hfiles, fun key => (hbackups key).trans (or_congr_right ⟨?_, ?_⟩)⟩
  · rintro ⟨q, hq, hcreates⟩
    obtain ⟨d, hd, f, rfl, -⟩ := (hmem q).1 hq
    rw [(env.order_perm _).mem_iff, List.mem_dedup, hfolders] at hd
    exact ⟨d, hd, f, hcreates⟩
  · rintro ⟨d, hd, f, hcreates⟩
    refine ⟨d ++ [f], (hmem _).2 ⟨d, ?_, f, rfl, ?_⟩, hcreates⟩
    · rw [(env.order_perm _).mem_iff, List.mem_dedup, hfolders]
      exact hd
    · obtain ⟨m, hlookup, -⟩ := hcreates
      exact Option.isSome_iff_exists.2 ⟨_, hlookup⟩

/-! ### When nothing is missed -/

/-- The path of a metadata file, in the old layout or the new one. -/
def InLayout (p : Path) : Prop := ∃ d f, p = folderPath ++ [f] ∨ p = folderPath ++ [d, f]

/-- Every metadata file of a kind has a VM backup. -/
def Complete (kind : BackupMetadata → Prop) (w : World) : Prop :=
  ∀ p m, InLayout p → w.files.lookup p = some (some m) → kind m → m.withNamespace.key ∈ w.backups

/-- For every metadata file of the kind there is a VM backup, or the cache has none and a file for
it, with its storage classes and Longhorn backups, lies in a folder that is listed. -/
def Reached (env : Env) (kind : BackupMetadata → Prop) (w : World) : Prop :=
  ∀ p m, InLayout p → w.files.moved.lookup p = some (some m) → kind m →
    m.withNamespace.key ∈ w.backups ∨
      ∃ d ∈ w.files.folders, ∃ f, Creates env w.files.moved (d ++ [f]) m.withNamespace.key

section

variable {s s' : State} {r : Except Err Unit}

theorem run_setSynced {synced : Option (String × Nat)}
    (h : (setSynced env synced).run s = (r, s')) : s' = s ∨ s' = { s with synced } := by
  unfold setSynced at h
  cases hfault : env.updateSetting <;> rw [hfault] at h <;> cases h
  · exact .inr rfl
  · exact .inl rfl
  · exact .inr rfl

theorem run_refresh (h : (refresh env).run s = (r, s')) (hnew : s'.synced ≠ s.synced) :
    (syncVMBackup env).run s.world = (.ok (), s'.world) := by
  unfold refresh at h
  split at h
  · cases h
    exact absurd rfl hnew
  rw [Action.run_attempt_bind] at h
  rcases hsync : (syncVMBackup env).run s.world with ⟨e | ⟨⟩, v⟩ <;>
    simp only [Action.zoom, Action.run] at h hsync <;> rw [hsync] at h
  · cases h
    exact absurd rfl hnew
  cases hcheck : env.checkExistingVMBackup with
  | error e =>
    rw [hcheck] at h
    cases h
    exact absurd rfl hnew
  | ok _ =>
    rw [hcheck] at h
    rcases run_setSynced h with rfl | rfl <;> rfl

theorem onBackupTargetChange_synced (h : (onBackupTargetChange env).run s = (r, s'))
    (hnew : s'.synced ≠ s.synced) (hsome : s'.synced ≠ none) :
    (syncVMBackup env).run s.world = (.ok (), s'.world) := by
  have hreset : (setSynced env none).run s ≠ (r, s') := by
    intro h
    rcases run_setSynced h with rfl | rfl
    · exact hnew rfl
    · exact hsome rfl
  unfold onBackupTargetChange at h
  split_ifs at h
  · exact absurd h hreset
  cases hdefault : env.isDefaultBackupTarget with
  | error e =>
    rw [hdefault] at h
    cases h
    exact absurd rfl hnew
  | ok isDefault =>
    rw [hdefault] at h
    cases isDefault with
    | true => exact absurd h hreset
    | false =>
      change (Action.when (shouldRefresh env s) (refresh env)).run s = _ at h
      unfold Action.when at h
      split_ifs at h
      · exact run_refresh h hnew
      · cases h
        exact absurd rfl hnew

end

/-- **A pass misses nothing** if and only if every metadata file is reached; and only such a pass,
without an error, lets the target be recorded as synced. -/
theorem sync_complete_iff {kind : BackupMetadata → Prop} :
    (∀ w', (syncVMBackup env).run w = (.ok (), w') → (Complete kind w' ↔ Reached env kind w)) ∧
    ∀ synced r s', (onBackupTargetChange env).run ⟨w, synced⟩ = (r, s') → s'.synced ≠ synced →
      s'.synced ≠ none → (Complete kind s'.world ↔ Reached env kind w) := by
  have hsync {v : World} (h : (syncVMBackup env).run w = (.ok (), v)) :
      Complete kind v ↔ Reached env kind w := by
    obtain ⟨hfiles, hbackups⟩ := syncVMBackup_eq_ok h
    simp only [Complete, Reached, hfiles, hbackups]
  refine ⟨fun _ => hsync, fun synced r s' h hnew hsome => ?_⟩
  exact hsync (onBackupTargetChange_synced h hnew hsome)

namespace Sample

def healthy : Env where
  getBackupStoreDriver := .ok ()
  list _ := .ok ()
  read _ := .ok ()
  write _ := .none
  remove _ := .none
  order := id
  order_perm _ := .refl _
  getStorageClass _ := some false
  hasLonghornBackup _ _ := true
  getVMBackup _ _ := .ok false
  getNamespace _ _ := .ok true
  createNamespace _ := .none
  createVMBackup _ := .none
  value := "s3"
  isDefaultBackupTarget := .ok false
  hash := "hash"
  now := 7
  refreshIntervalInSeconds := 0
  syncVMImage := .ok ()
  checkExistingVMBackup := .ok ()
  updateSetting := .none

def metadata (name : String) : BackupMetadata :=
  ⟨name, "default", [⟨some "longhorn", "pv", some "lh"⟩]⟩

/-- A file as older versions have written it. -/
def legacy : Files := [(folderPath ++ ["vmb.cfg"], some (metadata "vmb"))]

/-- A file where it belongs. -/
def current (name : String) : Path × Option BackupMetadata :=
  (folderPath ++ ["default", name ++ ".cfg"], some (metadata name))

/-- The state of a cluster that has not seen the target yet. -/
def start (files : Files) : State := ⟨⟨files, [], ["default"]⟩, none⟩

end Sample

open Sample in
/-- Both files are reached when the namespace has a folder already. -/
theorem sync_complete_iff_mixed : ∃ s',
    (onBackupTargetChange healthy).run (start (legacy ++ [current "a"])) =
      (.ok (), s') ∧ s'.synced = some ("hash", 7) ∧ Complete (fun _ => True) s'.world := by
  have hrun : (onBackupTargetChange healthy).run
      (start (legacy ++ [current "a"])) = (.ok (), ⟨⟨[current "a",
        current "vmb"], [⟨"default", "vmb"⟩, ⟨"default", "a"⟩], ["default"]⟩,
        some ("hash", 7)⟩) := rfl
  refine ⟨_, hrun, rfl, (sync_complete_iff.2 none _ _ hrun (by decide) (by decide)).2 ?_⟩
  intro p m _ hlookup _
  obtain ⟨before, after, hfiles, -⟩ := List.lookup_eq_some_iff.1 hlookup
  have hmem : (p, some m) ∈ [current "a", current "vmb"] := by
    change [current "a", current "vmb"] = _ at hfiles
    simp [hfiles]
  rcases List.mem_pair.1 hmem with hp | hp <;> cases hp
  · exact .inr ⟨folderPath ++ ["default"], by decide, "a.cfg", metadata "a",
      rfl, rfl, rfl, rfl, rfl⟩
  · exact .inr ⟨folderPath ++ ["default"], by decide, "vmb.cfg", metadata "vmb", rfl, rfl, rfl,
      rfl, rfl⟩

open Sample in
/-- **A file is missed**: the pass succeeds and is recorded, and there is no VM backup. -/
theorem legacy_missed : ∃ s',
    (onBackupTargetChange healthy).run (start legacy) = (.ok (), s') ∧
    s'.synced = some ("hash", 7) ∧ ¬ Complete (fun m => m.ns ∈ s'.world.namespaces ∧
      checkDependentStorageClassExist healthy m) s'.world := by
  refine ⟨⟨⟨[current "vmb"], [], ["default"]⟩, some ("hash", 7)⟩, rfl, rfl, fun h => ?_⟩
  have hbackup := h (current "vmb").1 (metadata "vmb") ⟨_, _, .inr rfl⟩ rfl (by decide)
  simp at hbackup

/-! ### The VM images -/

/-- The part of a BackupBackingImage that the handler looks at. -/
structure BackupBackingImage where
  backingImage : String
  state : String
  deriving DecidableEq, Repr

/-- The image is complete. -/
def BackupBackingImage.isCompleted (image : BackupBackingImage) : Bool := image.state = "Completed"

/-- The parameter `backingImage` of a URL; `parse` is `url.Parse` with the query. -/
def backingImageName (parse : String → Except Err (List (String × String))) (url : String) :
    Option String :=
  match parse url with
  | .error _ => none
  | .ok query => (query.lookup "backingImage").filter (· ≠ "")

/-- At the first image with the name the loop looks at the first image of the list. -/
def checkImages (backupBackingImages : List BackupBackingImage) (name : String) :
    List BackupBackingImage → Bool
  | [] => false
  | backupBackingImage :: rest =>
    if backupBackingImage.backingImage ≠ name then checkImages backupBackingImages name rest
    else backupBackingImages.head?.any BackupBackingImage.isCompleted

/-- Whether the VM image of a metadata file with this URL can be created. -/
def checkBackupBackingImageExist (parse : String → Except Err (List (String × String)))
    (list : Except Err (List BackupBackingImage)) (url : String) : Bool :=
  match backingImageName parse url, list with
  | some name, .ok backupBackingImages =>
    checkImages backupBackingImages name backupBackingImages
  | _, _ => false

theorem checkImages_eq_true {images rest : List BackupBackingImage} {name : String} :
    checkImages images name rest = true ↔ (∃ image ∈ rest, image.backingImage = name) ∧
      ∃ image ∈ images.head?, image.isCompleted = true := by
  induction rest with
  | nil => simp [checkImages]
  | cons image rest ih =>
    unfold checkImages
    split
    · next hne => simp [ih, hne]
    · next heq => simp [not_not.1 heq, Option.any_eq_true]

/-- **The check looks at the first image.**  It is right if and only if, whenever an image has the
name of the URL, the first image of the list is completed exactly when one with the name is. -/
theorem checkBackupBackingImageExist_iff {parse : String → Except Err (List (String × String))}
    {images : List BackupBackingImage} {url : String} :
    (checkBackupBackingImageExist parse (.ok images) url = true ↔
      ∃ name ∈ backingImageName parse url,
        ∃ image ∈ images, image.backingImage = name ∧ image.isCompleted = true) ↔
    ∀ name ∈ backingImageName parse url, (∃ image ∈ images, image.backingImage = name) →
      ((∃ image ∈ images.head?, image.isCompleted = true) ↔
        ∃ image ∈ images, image.backingImage = name ∧ image.isCompleted = true) := by
  rcases hname : backingImageName parse url with _ | name
  · simp [checkBackupBackingImageExist, hname]
  · simp only [checkBackupBackingImageExist, hname, checkImages_eq_true, Option.mem_some_iff,
      exists_eq_left', forall_eq']
    refine ⟨fun h hmatch => by rw [← h, and_iff_right hmatch], fun h => ?_⟩
    by_cases hmatch : ∃ image ∈ images, image.backingImage = name
    · rw [and_iff_right hmatch, h hmatch]
    · refine iff_of_false (fun hand => hmatch hand.1) ?_
      rintro ⟨image, himage, heq, -⟩
      exact hmatch ⟨image, himage, heq⟩

/-- **Another image decides**, in both directions. -/
theorem other_image_decides :
    let parse := fun _ => .ok [("backingImage", "bi-1")]
    ∀ images ∈ [[⟨"bi-0", "Error"⟩, ⟨"bi-1", "Completed"⟩],
        [⟨"bi-0", "Completed"⟩, ⟨"bi-1", "Error"⟩]],
      ¬ (checkBackupBackingImageExist parse (.ok images) "" = true ↔
        ∃ name ∈ backingImageName parse "",
          ∃ image ∈ images, image.backingImage = name ∧ image.isCompleted = true) := by
  decide

end Metadata

end Harvester
