import Harvester.Control.Machine
import Harvester.Image.Cdi

/-!
# Isolation of a CDI image

The data volume of an image is the one with its namespace and name, whoever created it: the owner
reference is never looked at, and the webhook admits an image whose name a data volume has already.

* `Own`: every data volume under the key of the image is its own, and so were all that it was
  imported from or that it deleted.  The controller and the upload handler keep it.
* `cdi_isolated_iff`: an image keeps to its own data volumes exactly if there was no other one under
  its key at the beginning.
* `image_adopts_vm_disk`: an image takes over the disk of a VM, and deletes it.
-/

namespace Harvester

namespace Image

namespace Cdi

open Control Action

/-- The data volume under the key of the image is its own, and so were those in the trace. -/
structure Own (vmi : VMImage) (s : Server) : Prop where
  key : s.image.key = vmi.key
  uid : s.image.uid = vmi.uid
  dv : ∀ dv, s.dvs.get vmi.key = some dv → dv.CreatedFor vmi.uid
  trace : ∀ e ∈ s.trace, e.dv.CreatedFor vmi.uid

/-- A copy of the image. -/
structure Copy (vmi copy : VMImage) : Prop where
  key : copy.key = vmi.key
  uid : copy.uid = vmi.uid

section

variable {vmi copy : VMImage} (env : Env)

theorem createdFor_newDataVolume (vmi : VMImage) : (newDataVolume vmi).CreatedFor vmi.uid :=
  ⟨_, List.mem_singleton.2 rfl, rfl, rfl⟩

theorem getDV_yields (r : Request) :
    Yields (Own vmi) (DataVolume.CreatedFor vmi.uid) (env.request r (getDV vmi.key)) := by
  refine .request fun s hs => ?_
  simp only [run, getDV]
  cases hget : s.dvs.get vmi.key with
  | none => exact ⟨hs, fun dv hdv => by simp at hdv⟩
  | some found => exact ⟨hs, fun dv hdv => Except.ok.inj hdv ▸ hs.dv found hget⟩

theorem addDV_own (hcopy : Copy vmi copy) :
    Preserves (Own vmi) (addDV (newDataVolume copy)) := by
  intro s hs
  have hkey : (newDataVolume copy).key = vmi.key := hcopy.key
  simp only [run, addDV]
  split
  · exact hs
  refine { hs with dv := fun dv hdv => ?_ }
  rw [← hkey, Store.get_put_self] at hdv
  rw [← Option.some.inj hdv, ← hcopy.uid]
  exact createdFor_newDataVolume copy

theorem removeDV_own : Preserves (Own vmi) (removeDV vmi.key) := by
  intro s hs
  simp only [run, removeDV]
  split
  · exact hs
  next dv hget =>
  refine { hs with dv := fun dv hdv => by simp at hdv, trace := fun e he => ?_ }
  rcases List.mem_append.1 he with he | he
  · exact hs.trace e he
  · exact List.mem_singleton.1 he ▸ hs.dv dv hget

theorem putImage_yields (new : VMImage) :
    Yields (Own vmi) (Copy vmi) (putImage new) := by
  intro s hs
  simp only [run, putImage]
  split
  · have hkeep : Own vmi { s with image := { s.image with
        resourceVersion := s.image.resourceVersion + 1, status := new.status } } :=
      ⟨hs.key, hs.uid, hs.dv, hs.trace⟩
    exact ⟨hkeep, fun a ha => Except.ok.inj ha ▸ ⟨hs.key, hs.uid⟩⟩
  · exact ⟨hs, fun a ha => by simp at ha⟩

theorem putImage_own (new : VMImage) : Preserves (Own vmi) (putImage new) :=
  fun s hs => (putImage_yields new s hs).1

theorem putImported_own {dv : DataVolume} (hdv : dv.CreatedFor vmi.uid) (new : VMImage) :
    Preserves (Own vmi) (putImported dv new) := by
  refine (putImage_own new).bind fun v => Preserves.bind ?_ fun _ => .pure v
  refine .modify fun s hs => { hs with trace := fun e he => ?_ }
  rcases List.mem_append.1 he with he | he
  · exact hs.trace e he
  · exact List.mem_singleton.1 he ▸ hdv

theorem updateVMI_own {put : VMImage → Act VMImage}
    (hput : ∀ new, Preserves (Own vmi) (put new)) (r : Request) (old new : VMImage) :
    Preserves (Own vmi) (updateVMI env r put old new) := by
  unfold updateVMI
  split
  · exact .pure _
  · exact (hput new).request

theorem isDataVolumeCreated_own (hcopy : Copy vmi copy) :
    Preserves (Own vmi) (isDataVolumeCreated env copy) := by
  unfold isDataVolumeCreated
  rw [hcopy.key]
  refine (getDV_yields env .getDV).attemptBind fun r _ => ?_
  cases r with
  | ok dv => exact .pure true
  | error e =>
    dsimp only
    split
    · exact .pure false
    · exact .fail _

theorem createDataVolume_own {ε : Type} (hcopy : Copy vmi copy)
    {before creation : String → Err → ε} :
    Preserves (Own vmi) (createDataVolume env copy before creation) := by
  refine (Preserves.ofExcept _).mapError.bind fun _ => ?_
  refine (Preserves.ofExcept _).mapError.bind fun _ => ?_
  exact (addDV_own hcopy).request.mapError

theorem ensureSizes_yields (hcopy : Copy vmi copy) (virtualSize size : Int) :
    Yields (Own vmi) (Copy vmi) (ensureSizes env copy virtualSize size) := by
  unfold ensureSizes
  split
  · refine .mapError ?_
    unfold updateVMI
    split
    · exact .pure ⟨hcopy.key, hcopy.uid⟩
    · exact (putImage_yields _).request
  · exact .pure hcopy

theorem initializeVMI_own (hcopy : Copy vmi copy) :
    Preserves (Own vmi) (initializeVMI env copy) := by
  refine (isDataVolumeCreated_own env hcopy).mapError.bind fun created => ?_
  cases created with
  | true => exact .pure copy
  | false =>
    show Preserves (Own vmi) (initializeSource env copy)
    unfold initializeSource
    split
    · refine (Preserves.ofExcept _).mapError.bind fun virtualSize => ?_
      refine (Preserves.ofExcept _).mapError.bind fun size => ?_
      refine (ensureSizes_yields env hcopy _ _).bind fun new hnew => ?_
      refine (Preserves.ofExcept _).mapError.bind fun _ => ?_
      exact (createDataVolume_own env hnew).bind fun _ => .pure new
    · exact .pure copy
    · refine (Preserves.ofExcept _).mapError.bind fun size => ?_
      refine (ensureSizes_yields env hcopy _ _).bind fun new hnew => ?_
      exact (createDataVolume_own env hnew).bind fun _ => .pure new
    · exact .fail _
    · exact .fail _

theorem markImported_own {dv : DataVolume} (hdv : dv.CreatedFor vmi.uid) :
    Preserves (Own vmi) (markImported env copy dv) :=
  updateVMI_own env (putImported_own hdv) _ _ _

theorem showProgress_own (dv : DataVolume) :
    Preserves (Own vmi) (showProgress env copy dv) := by
  unfold showProgress
  split
  · split
    · dsimp only
      split
      · exact .fail _
      · exact (updateVMI_own env putImage_own _ _ _).attempt.bind fun _ => .pure ()
    · exact .pure ()
  · exact .pure ()

theorem check_own (hcopy : Copy vmi copy) : Preserves (Own vmi) (check env copy) := by
  unfold check
  rw [hcopy.key]
  refine (getDV_yields env .getDV).mapError.bind fun dv hdv => ?_
  refine (showProgress_own env dv).bind fun _ => ?_
  split
  · exact .fail _
  · exact (markImported_own env hdv).mapError.bind fun _ => .pure ()

theorem delete_own (hcopy : Copy vmi copy) : Preserves (Own vmi) (delete env copy) := by
  unfold delete
  rw [hcopy.key]
  refine (getDV_yields env .getDV).attemptBind fun r _ => ?_
  cases r with
  | ok dv => exact removeDV_own.request.mapError
  | error e =>
    dsimp only
    split
    · exact .pure ()
    · exact .fail _

theorem startVMI_own (hcopy : Copy vmi copy) : Preserves (Own vmi) (startVMI env copy) := by
  refine (initializeVMI_own env hcopy).attempt.bind fun r => ?_
  cases r with
  | ok new | error failure => exact (putImage_own _).request.bind fun _ => .pure ()

theorem onChanged_own (hcopy : Copy vmi copy) :
    Preserves (Own vmi) (onChanged env copy) := by
  unfold onChanged
  split
  · exact .pure ()
  split
  · exact .pure ()
  refine (check_own env hcopy).attempt.bind fun r => ?_
  split
  · exact .pure ()
  · exact .pure ()
  split
  · unfold handleRetry
    split
    · exact startVMI_own env hcopy
    · exact (putImage_own _).request.bind fun _ => .pure ()
    · split
      · exact .pure ()
      · exact startVMI_own env hcopy
  · exact .fail _

theorem doUpload_own (hcopy : Copy vmi copy) : Preserves (Own vmi) (doUpload env copy) := by
  refine .bind (Preserves.attempt ?_) fun r => ?_
  · refine (Preserves.ofExcept _).mapError.bind fun sizes => ?_
    refine (putImage_own _).request.mapError.bind fun _ => ?_
    refine (Preserves.ofExcept _).mapError.bind fun _ => ?_
    have hsized : Copy vmi (copy.withSizes sizes.1 sizes.2) := ⟨hcopy.key, hcopy.uid⟩
    exact (createDataVolume_own env hsized).bind fun _ => Preserves.ofExcept _
  · split
    · exact .pure ()
    · exact .fail _
    · refine .bind (Preserves.attempt (.request ?_)) fun _ => .fail _
      exact fun s hs => putImage_own _ s hs

theorem updateVMImageProgress_own (hcopy : Copy vmi copy) (progress : Int) :
    Preserves (Own vmi) (updateVMImageProgress env copy progress) := by
  unfold updateVMImageProgress
  rw [hcopy.key]
  refine (getDV_yields env .getDV).attemptBind fun r hr => ?_
  cases r with
  | error e => exact .pure ()
  | ok dv =>
    dsimp only
    split
    · exact (markImported_own env (hr dv rfl)).bind fun _ => .pure ()
    · exact (updateVMI_own env putImage_own _ _ _).bind fun _ => .pure ()

end

/-- The controller and the upload handler see a copy of the image, with any status and version. -/
inductive Step where
  | onChanged (copy : VMImage) (env : Env)
  | onRemove (copy : VMImage) (env : Env)
  | doUpload (copy : VMImage) (env : Env)
  | updateVMImageProgress (copy : VMImage) (progress : Int) (env : Env)
  /-- CDI reports on a data volume. -/
  | report (key : Key) (phase : Phase) (progress : String)
  /-- Somebody else creates a data volume, the VM controller for a disk, for example. -/
  | create (dv : DataVolume)
  /-- Somebody else deletes a data volume. -/
  | remove (key : Key)

/-- Call an operation with a copy of the image. -/
def Server.call (s : Server) (copy : VMImage) (m : Act Unit) : Option Server :=
  if copy.key = s.image.key ∧ copy.uid = s.image.uid ∧ copy.spec = s.image.spec then
    some (m.run s).2
  else none

/-- The runs of one image among the data volumes of the cluster. -/
def cdi : Machine Server Step where
  next s
    | .onChanged copy env => s.call copy (onChanged env copy)
    | .onRemove copy env => s.call copy (delete env copy)
    | .doUpload copy env => s.call copy (doUpload env copy)
    | .updateVMImageProgress copy progress env =>
      s.call copy (updateVMImageProgress env copy progress)
    | .report key phase progress =>
      (s.dvs.get key).map fun dv => { s with dvs := s.dvs.put { dv with phase, progress } }
    | .create dv => if s.dvs.get dv.key = none then some { s with dvs := s.dvs.put dv } else none
    | .remove key => some { s with dvs := s.dvs.delete key }

/-- Nobody else creates a data volume under the key of the image. -/
def Avoids (s : Server) : Step → Prop
  | .create dv => dv.key = s.image.key → dv.CreatedFor s.image.uid
  | _ => True

/-- In every run in which nobody else creates a data volume under the key of the image, it is
imported only from data volumes that were created for it, and deletes only such ones. -/
def Isolated (vmi : VMImage) (dvs : Store DataVolume.key) : Prop :=
  ∀ (steps : List Step) (s : Server), cdi.Along Avoids ⟨vmi, dvs, []⟩ steps →
    cdi.run ⟨vmi, dvs, []⟩ steps = some s → ∀ e ∈ s.trace, e.dv.CreatedFor vmi.uid

section

variable {vmi : VMImage} {s s' : Server}

theorem own_call {copy : VMImage} {m : Act Unit} (h : Own vmi s)
    (hm : Copy vmi copy → Preserves (Own vmi) m) (hs : s.call copy m = some s') :
    Own vmi s' := by
  simp only [Server.call, Machine.guarded_eq_some] at hs
  obtain ⟨⟨hkey, huid, -⟩, rfl⟩ := hs
  exact hm ⟨hkey.trans h.key, huid.trans h.uid⟩ s h

theorem Own.put {dv : DataVolume} (h : Own vmi s) (hdv : dv.key = vmi.key → dv.CreatedFor vmi.uid) :
    Own vmi { s with dvs := s.dvs.put dv } := by
  refine { h with dv := fun found hfound => ?_ }
  by_cases hkey : dv.key = vmi.key
  · rw [← hkey, Store.get_put_self] at hfound
    exact Option.some.inj hfound ▸ hdv hkey
  · rw [Store.get_put_of_ne _ fun heq => hkey heq.symm] at hfound
    exact h.dv found hfound

theorem own_step {step : Step} (h : Own vmi s) (hstep : Avoids s step)
    (hs : cdi.next s step = some s') : Own vmi s' := by
  cases step with
  | onChanged copy env => exact own_call h (onChanged_own env) hs
  | onRemove copy env => exact own_call h (delete_own env) hs
  | doUpload copy env => exact own_call h (doUpload_own env) hs
  | updateVMImageProgress copy progress env =>
    exact own_call h (fun hcopy => updateVMImageProgress_own env hcopy progress) hs
  | report key phase progress =>
    obtain ⟨dv, hget, rfl⟩ := Option.map_eq_some_iff.1 hs
    -- The report changes the status only, so the data volume belongs to whom it belonged to.
    refine h.put fun hkey => ?_
    have hown : dv.key = vmi.key := hkey
    rw [← Store.key_of_get hget, hown] at hget
    exact h.dv dv hget
  | create dv =>
    simp only [cdi, Machine.guarded_eq_some] at hs
    rw [← hs.2]
    simp only [Avoids, h.key, h.uid] at hstep
    exact h.put hstep
  | remove key =>
    simp only [cdi, Option.some.injEq] at hs
    rw [← hs]
    refine { h with dv := fun dv hdv => ?_ }
    by_cases hkey : vmi.key = key
    · simp [hkey] at hdv
    · exact h.dv dv (Store.get_delete_of_ne s.dvs hkey ▸ hdv)

end

/-- An environment without failures. -/
def quietEnv : Env where
  fault _ := (.none, .other "")
  now := 0
  fetchImageVirtualSize := .ok 0
  fetchImageSize := .ok 1
  additionalCA := .ok ()
  targetStorageClass := .ok ()
  sourcePVC := .ok 1
  uploadSizes := .ok (1, 1)
  waitVMImageStatus := .ok ()
  transfer := .ok ()

theorem delete_run {s : Server} {vmi : VMImage} {dv : DataVolume}
    (h : s.dvs.get vmi.key = some dv) :
    ((delete quietEnv vmi).run s).2.trace = s.trace ++ [.deleted dv] := by
  simp [delete, run, bind, attempt, Env.request, quietEnv, getDV, h, mapError, removeDV]

/-- **A CDI image is isolated exactly if there is no data volume of somebody else under its key.**
-/
theorem cdi_isolated_iff (vmi : VMImage) (dvs : Store DataVolume.key) :
    Isolated vmi dvs ↔ ∀ dv, dvs.get vmi.key = some dv → dv.CreatedFor vmi.uid := by
  constructor
  · intro hiso dv hdv
    have htrace := delete_run (s := ⟨vmi, dvs, []⟩) hdv
    refine hiso [.onRemove vmi quietEnv] _ ⟨trivial, fun _ _ => trivial⟩
      (by simp [Machine.run, cdi, Server.call]; rfl) (.deleted dv) ?_
    rw [htrace]
    exact List.mem_singleton.2 rfl
  · intro hown steps s halong hrun
    have hinit : Own vmi ⟨vmi, dvs, []⟩ := ⟨rfl, rfl, hown, by simp⟩
    exact (Machine.run_invariant (fun _ _ _ => own_step) hinit halong hrun).trace

namespace Sample

/-- An image that waits for its upload. -/
def image : VMImage where
  ns := "default"
  name := "disk-0"
  uid := "3b7e"
  resourceVersion := 1
  deleting := false
  storageClassAnnotation := none
  spec := ⟨"ubuntu", .upload, "", "lvm", "", "", 3⟩
  status := ⟨0, 0, 0, 0, .never, .unset, "", .unset, "", "", .unset, ""⟩

/-- The disk of a VM in the same namespace, with the name of the image. -/
def disk : DataVolume := ⟨"default", "disk-0", [], .succeeded, "100.0%"⟩

def dvs : Store DataVolume.key := Store.empty.put disk

def cluster : Cluster where
  images _ _ := .ok []
  urlError _ := none
  podsByPVC _ := .ok []
  access _ _ := .ok true
  pvcs _ := .ok ()

/-- The image is reconciled once, and deleted later. -/
def steps : List Step := [.onChanged image quietEnv, .onRemove image quietEnv]

/-- Without the disk, the image would be isolated. -/
example : ∀ dv, (dvs.delete disk.key).get image.key = some dv → dv.CreatedFor image.uid := by decide

end Sample

open Sample in
/-- The image is imported because of the disk of a VM, and the disk is deleted with the image. -/
theorem image_adopts_vm_disk :
    create cluster image "alice" = .ok () ∧
      cdi.Along Avoids ⟨image, dvs, []⟩ steps ∧
      (∃ s, cdi.run ⟨image, dvs, []⟩ steps = some s ∧
        s.trace = [.imported disk, .deleted disk] ∧
        s.image.status.imported = .isTrue) ∧
      ¬ disk.CreatedFor image.uid := by
  have hadmitted : create cluster image "alice" = .ok () := by decide
  refine ⟨hadmitted, ⟨trivial, fun _ _ => ⟨trivial, fun _ _ => trivial⟩⟩, ?_, by decide⟩
  decide

end Cdi

end Image

end Harvester
