import Mathlib.Logic.Relation

/-!
# The disks of the installer

Two questions about the disks of a node, from `pkg/installer`.

* Is there an installation on a disk?  `deviceContainsCOSPartition` returns what it finds below the
  first multipath device, so that nothing after it is looked at (`found_iff`).
* Is the data disk the installation disk?  The installer compares the paths as they are written,
  while several paths lead to one device (`spares_iff`).
-/

namespace Harvester

namespace Installer

/-- The type of a device. -/
inductive DiskType where
  | part
  | mpath
  | other (name : String)
  deriving DecidableEq

/-- A device in the output of `lsblk`. -/
structure Device where
  diskType : DiskType
  label : String
  children : List Device

/-- The label of an installation. -/
def cosDiskLabelPrefix : String := "COS_OEM"

/-- A partition with the label of an installation. -/
def Device.IsCOS (partition : Device) : Prop :=
  partition.diskType = .part ∧ partition.label = cosDiskLabelPrefix
  deriving Decidable

mutual

/-- There is an installation. -/
def deviceContainsCOSPartition : Device → Bool
  | ⟨_, _, children⟩ => searchChildren children

/-- The loop over the children. -/
def searchChildren : List Device → Bool
  | [] => false
  | partition :: children =>
    if partition.diskType = .mpath then deviceContainsCOSPartition partition
    else if partition.IsCOS then true
    else searchChildren children

end

/-- There is such a partition below the device, directly or through multipath devices. -/
inductive COSBelow : Device → Prop
  | partition {disk p : Device} (hmem : p ∈ disk.children) (hp : p.IsCOS) : COSBelow disk
  | multipath {disk m : Device} (hmem : m ∈ disk.children) (htype : m.diskType = .mpath)
      (hbelow : COSBelow m) : COSBelow disk

/-- The loop passes the device over. -/
def Device.Skipped (d : Device) : Prop := d.diskType ≠ .mpath ∧ ¬ d.IsCOS

/-- The search goes on in the first multipath device, unless it has ended before. -/
def Enters (disk m : Device) : Prop :=
  ∃ before after, disk.children = before ++ m :: after ∧ m.diskType = .mpath ∧
    ∀ d ∈ before, d.Skipped

theorem searchChildren_append {before l : List Device} (h : ∀ d ∈ before, d.Skipped) :
    searchChildren (before ++ l) = searchChildren l := by
  induction before with
  | nil => rfl
  | cons d before ih =>
    obtain ⟨⟨htype, hcos⟩, hbefore⟩ := List.forall_mem_cons.1 h
    rw [List.cons_append, searchChildren, if_neg htype, if_neg hcos, ih hbefore]

theorem Enters.contains_eq {disk m : Device} (h : Enters disk m) :
    deviceContainsCOSPartition disk = deviceContainsCOSPartition m := by
  obtain ⟨before, after, hsplit, htype, hbefore⟩ := h
  obtain ⟨_, _, children⟩ := disk
  obtain rfl : children = _ := hsplit
  rw [deviceContainsCOSPartition, searchChildren_append hbefore, searchChildren, if_pos htype]

theorem contains_cases (disk : Device) :
    (∃ m, m ∈ disk.children ∧ Enters disk m) ∨
      (deviceContainsCOSPartition disk = true ∧ COSBelow disk) ∨
      deviceContainsCOSPartition disk = false ∧ ∀ d ∈ disk.children, d.Skipped := by
  obtain ⟨diskType, label, children⟩ := disk
  -- What has been passed over so far is kept apart.
  suffices h : ∀ before l, children = before ++ l → (∀ d ∈ before, d.Skipped) → _ from
    h [] children rfl (by simp)
  intro before l hsplit hbefore
  induction l generalizing before with
  | nil =>
    rw [List.append_nil] at hsplit
    refine .inr (.inr ⟨?_, hsplit ▸ hbefore⟩)
    have hnil := searchChildren_append (l := []) hbefore
    rwa [List.append_nil, ← hsplit] at hnil
  | cons d l ih =>
    have hmem : d ∈ children := hsplit ▸ by simp
    by_cases htype : d.diskType = .mpath
    · exact .inl ⟨d, hmem, before, l, hsplit, htype, hbefore⟩
    by_cases hcos : d.IsCOS
    · refine .inr (.inl ⟨?_, .partition hmem hcos⟩)
      rw [deviceContainsCOSPartition, hsplit, searchChildren_append hbefore, searchChildren,
        if_neg htype, if_pos hcos]
    · refine ih (before ++ [d]) (by simpa using hsplit) fun d' hd' => ?_
      rcases List.mem_append.1 hd' with hd' | hd'
      · exact hbefore d' hd'
      · exact List.mem_singleton.1 hd' ▸ ⟨htype, hcos⟩

theorem sizeOf_lt_of_mem_children {disk m : Device} (h : m ∈ disk.children) :
    sizeOf m < sizeOf disk := by
  have hlt := List.sizeOf_lt_of_mem h
  obtain ⟨_, _, children⟩ := disk
  simp only [Device.mk.sizeOf_spec] at hlt ⊢
  omega

theorem cosBelow_of_contains (disk : Device) (h : deviceContainsCOSPartition disk = true) :
    COSBelow disk := by
  rcases contains_cases disk with ⟨m, hmem, henters⟩ | ⟨-, hbelow⟩ | ⟨hfalse, -⟩
  · have hbelow := cosBelow_of_contains m (henters.contains_eq ▸ h)
    obtain ⟨_, _, -, htype, -⟩ := henters
    exact .multipath hmem htype hbelow
  · exact hbelow
  · simp [hfalse] at h
termination_by sizeOf disk
decreasing_by exact sizeOf_lt_of_mem_children hmem

open Relation in
theorem contains_of_entered (disk : Device) (h : ∀ m, ReflTransGen Enters disk m → COSBelow m) :
    deviceContainsCOSPartition disk = true := by
  rcases contains_cases disk with ⟨m, hmem, henters⟩ | ⟨htrue, -⟩ | ⟨-, hskipped⟩
  · rw [henters.contains_eq]
    exact contains_of_entered m fun m' hm' => h m' (.head henters hm')
  · exact htrue
  · cases h disk .refl with
    | partition hmem hp => exact absurd hp (hskipped _ hmem).2
    | multipath hmem htype _ => exact absurd htype (hskipped _ hmem).1
termination_by sizeOf disk
decreasing_by exact sizeOf_lt_of_mem_children hmem

open Relation in
/-- **The search finds an installation** if and only if there is one below every multipath device
that it enters. -/
theorem found_iff (disk : Device) : (deviceContainsCOSPartition disk = true ↔ COSBelow disk) ↔
    (COSBelow disk → ∀ m, ReflTransGen Enters disk m → COSBelow m) := by
  constructor
  · intro hiff hbelow m hm
    have heq : deviceContainsCOSPartition disk = deviceContainsCOSPartition m := by
      induction hm with
      | refl => rfl
      | tail _ henters ih => exact ih.trans henters.contains_eq
    exact cosBelow_of_contains m (heq ▸ hiff.2 hbelow)
  · exact fun h => ⟨cosBelow_of_contains disk, fun hbelow => contains_of_entered disk (h hbelow)⟩

/-- **An installation is missed** behind a multipath device without partitions. -/
theorem installation_missed : ∃ disk, COSBelow disk ∧ deviceContainsCOSPartition disk = false :=
  ⟨⟨.other "disk", "", [⟨.mpath, "", []⟩, ⟨.part, "COS_OEM", []⟩]⟩,
    .partition (List.mem_cons_of_mem _ List.mem_cons_self) (by decide), by decide⟩

/-- The mode of the installer. -/
inductive Mode where
  | create
  | join
  | upgrade
  | install
  deriving DecidableEq

/-- The role of the node. -/
inductive Role where
  | default
  | witness
  | management
  | worker
  deriving DecidableEq

/-- The configuration, as far as disks are concerned. -/
structure Config where
  automatic : Bool
  skipChecks : Bool
  mode : Mode
  role : Role
  device : String
  dataDisk : String
  forceMBR : Bool
  rawDiskImagePath : String

/-- What the installer finds out about the node. -/
structure System where
  /-- The path is a symbolic link. -/
  lstat : String → Except String Bool
  evalSymlinks : String → Except String String
  /-- The paths of the disks. -/
  refresh : Except String (List String)
  getDiskSizeBytes : String → Except String Nat
  checkForceMBR : String → Except String Unit

section

variable (sys : System) (cfg : Config)

/-- A message with a value. -/
def prettyError (errMsg value : String) : String := errMsg ++ ": " ++ value

/-- The message for a small device. -/
def errMsgDeviceTooSmall : String := "device size too small. At least 250G is required"

/-- A disk has a size. -/
def validateSize (disk : String) (minGiB : Nat) (devPath : String) : Except String Unit := do
  let diskSizeBytes ← sys.getDiskSizeBytes devPath
  if diskSizeBytes >>> 30 < minGiB then
    throw (disk ++ " disk size is too small. Minimum " ++ toString minGiB ++ "Gi is required")

/-- The installation disk is large enough. -/
def validateDiskSize (devPath : String) (single : Bool) : Except String Unit :=
  validateSize sys "installation" (if single then 250 else 180) devPath

/-- The data disk is large enough. -/
def validateDataDiskSize (devPath : String) : Except String Unit :=
  validateSize sys "data" 50 devPath

/-- The checks of the disks. -/
def checkDevice : Except String Unit := do
  let installDisk := cfg.device
  if installDisk = "" then throw "no device specified"
  let targetDevice ← if ← sys.lstat installDisk then sys.evalSymlinks installDisk
    else pure installDisk
  let options ← sys.refresh
  if targetDevice ∉ options then throw (prettyError "device not found" installDisk)
  if cfg.skipChecks then return
  let tooSmall (disk : String) (_ : String) := prettyError errMsgDeviceTooSmall disk
  if cfg.role = .witness then
    (validateDiskSize sys installDisk false).mapError (tooSmall installDisk)
  else if cfg.dataDisk = installDisk ∨ cfg.dataDisk = "" then
    (validateDiskSize sys installDisk true).mapError (tooSmall installDisk)
  else
    (validateDiskSize sys installDisk false).mapError (tooSmall installDisk)
    (validateDataDiskSize sys cfg.dataDisk).mapError (tooSmall cfg.dataDisk)

/-- All the checks. -/
def diskChecks : Except String Unit := do
  checkDevice sys cfg
  if cfg.forceMBR then sys.checkForceMBR cfg.device

/-- The install panel removes a data disk that is the installation disk. -/
def clearDataDisk : Config :=
  if cfg.dataDisk = cfg.device then { cfg with dataDisk := "" } else cfg

/-- An image is streamed to the disk. -/
def Config.Streams : Prop := cfg.automatic ∧ cfg.mode = .install ∧ cfg.rawDiskImagePath ≠ ""
  deriving Decidable

/-- The data go to the installation disk. -/
def shouldCreateDataPartitionOnOsDisk : Bool :=
  if cfg.role = .witness then false else cfg.dataDisk = "" && !cfg.forceMBR

/-- The layout of the partitions. -/
inductive Layout where
  | sharedDataDisk
  | separateDataDisk

/-- The layout of the partitions, unless an image is streamed, and the variables that name a disk.
-/
def doInstall : Option Layout × List (String × String) :=
  let env := if cfg.dataDisk = "" then [] else [("HARVESTER_DATA_DISK", cfg.dataDisk)]
  if cfg.Streams then (none, env)
  else (some (if shouldCreateDataPartitionOnOsDisk cfg then .sharedDataDisk else .separateDataDisk),
    if cfg.dataDisk = "" then env else env ++ [("HARVESTER_DATA_DISK", cfg.dataDisk)])

/-- The configuration is accepted, and its two disks are one device. -/
def OneDisk (dev : String) : Prop :=
  diskChecks sys (clearDataDisk cfg) = .ok () ∧ sys.evalSymlinks cfg.device = .ok dev ∧
    sys.evalSymlinks cfg.dataDisk = .ok dev

/-- The data partition is on the installation disk, which is not passed on as a data disk. -/
def Spares (dev : String) : Prop :=
  (doInstall (clearDataDisk cfg)).1 = some .sharedDataDisk ∧
    ∀ disk, ("HARVESTER_DATA_DISK", disk) ∈ (doInstall (clearDataDisk cfg)).2 →
      sys.evalSymlinks disk ≠ .ok dev

end

/-- **The installation disk is not formatted as a data disk** if and only if both disks are written
in the same way or no data disk is given, and the node is one that gets a data partition. -/
theorem spares_iff {sys : System} {cfg : Config} {dev : String} :
    (OneDisk sys cfg dev → Spares sys cfg dev) ↔
      (OneDisk sys cfg dev → (cfg.dataDisk = cfg.device ∨ cfg.dataDisk = "") ∧
        cfg.role ≠ .witness ∧ cfg.forceMBR = false ∧ ¬ cfg.Streams) := by
  refine imp_congr_right fun _ => ?_
  obtain ⟨dataDisk, hclear, hdata⟩ : ∃ dataDisk, clearDataDisk cfg = { cfg with dataDisk } ∧
      (dataDisk = "" ↔ cfg.dataDisk = cfg.device ∨ cfg.dataDisk = "") := by
    unfold clearDataDisk
    split
    · next h => exact ⟨"", rfl, by simp [h]⟩
    · next h => exact ⟨cfg.dataDisk, rfl, by simp [h]⟩
  rw [Spares, hclear, ← hdata]
  have hstreams : ({ cfg with dataDisk } : Config).Streams ↔ cfg.Streams := Iff.rfl
  by_cases h : cfg.Streams
  · simp [doInstall, hstreams, h]
  by_cases hempty : dataDisk = ""
  · subst hempty
    simp [doInstall, hstreams, h, shouldCreateDataPartitionOnOsDisk]
  · simp [doInstall, hstreams, h, shouldCreateDataPartitionOnOsDisk, hempty]

namespace Sample

/-- A disk of 300 GiB with a second name. -/
def system : System where
  lstat path := .ok (path = "/dev/disk/by-id/ata-0")
  evalSymlinks path := .ok (if path = "/dev/disk/by-id/ata-0" then "/dev/sda" else path)
  refresh := .ok ["/dev/sda"]
  getDiskSizeBytes _ := .ok (300 <<< 30)
  checkForceMBR _ := .ok ()

def config : Config :=
  ⟨true, false, .create, .default, "/dev/disk/by-id/ata-0", "/dev/sda", false, ""⟩

end Sample

open Sample in
/-- **The installation disk is passed on as the data disk**: it is given by two names. -/
theorem formatted_twice : OneDisk system config "/dev/sda" ∧
    (doInstall (clearDataDisk config)).2 =
      [("HARVESTER_DATA_DISK", "/dev/sda"), ("HARVESTER_DATA_DISK", "/dev/sda")] ∧
    ¬ Spares system config "/dev/sda" := by
  have henv : (doInstall (clearDataDisk config)).2 =
      [("HARVESTER_DATA_DISK", "/dev/sda"), ("HARVESTER_DATA_DISK", "/dev/sda")] := by decide
  exact ⟨⟨rfl, rfl, rfl⟩, henv, fun h => h.2 "/dev/sda" (henv ▸ List.mem_cons_self) rfl⟩

end Installer

end Harvester
