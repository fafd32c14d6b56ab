import Harvester.Control.Machine
import Harvester.VirtualMachine.Volumes

/-!
# Access to the images of volumes

The webhook decides by the storage class of a template which image to check, the controller decides
by the image ID annotation which image to clone.

* `created_volume_access`: a volume that is made for a template of an admitted request, which the
  request has brought in or changed and whose storage class leads to an image, has its content from
  an image that the user may get;
* `updates_vouched`: after any number of admitted updates, every such template was brought in by a
  user who may get the image;
* `cdi_image_cloned_without_access`: a template whose storage class does not lead to an image is not
  checked, and the controller clones the CDI image that it names.
-/

namespace Harvester

namespace VirtualMachine

namespace Volumes

open Control Action

section

variable (c : Cluster)

/-- The templates of a VM. -/
def templatesOf (vm : VM) : List Template :=
  (c.unmarshalVolumeClaimTemplates vm.templates).toOption.getD []

/-- The templates that a request brings in or changes. -/
def Request.examined : Request → List Template
  | create vm => templatesOf c vm
  | update oldVM newVM =>
    if oldVM.templates = newVM.templates then []
    else (templatesOf c newVM).filter fun entry => !unchanged (templatesOf c oldVM) entry

/-- The storage class of the template leads to the image ID, by way of a backing image. -/
def Resolves (template : Template) (imageID : String) : Prop :=
  ∃ scName, template.storageClassName = some scName ∧
    getVMImageIDFromSC c scName = .ok imageID ∧ imageID ≠ ""

/-- The template names the image of its storage class or none, and the user may get the image. -/
structure Checked (user : String) (template : Template) (imageID : String) : Prop where
  named : template.imageID.getD "" = "" ∨ template.imageID.getD "" = imageID
  access : ∀ ns name, splitSlash imageID = some (ns, name) → c.access user ⟨ns, name⟩ = .ok true

variable {c} {user : String}

theorem checkImageAccess_eq_ok {imageID : String} (h : checkImageAccess c user imageID = .ok ())
    {ns name : String} (hsplit : splitSlash imageID = some (ns, name)) :
    c.access user ⟨ns, name⟩ = .ok true := by
  simp only [checkImageAccess, hsplit] at h
  obtain ⟨allowed, hallowed, h⟩ := except_bind_eq_ok.1 h
  rw [except_mapError_eq_ok.1 hallowed]
  simpa using h

theorem checked_of_ok {template : Template} {imageID : String}
    (h : checkVolumeClaimTemplateEntry c user template = .ok ())
    (hres : Resolves c template imageID) : Checked c user template imageID := by
  obtain ⟨scName, hsc, hid, hne⟩ := hres
  simp only [checkVolumeClaimTemplateEntry, hsc] at h
  obtain ⟨id, hid', h⟩ := except_bind_eq_ok.1 h
  obtain rfl : imageID = id := Except.ok.inj (hid.symm.trans hid')
  rw [if_neg hne] at h
  obtain ⟨hnamed, haccess⟩ := except_bind_unit_eq_ok.1 h
  refine ⟨?_, fun ns name => checkImageAccess_eq_ok haccess⟩
  simp only [rejectIf_eq_ok, Bool.and_eq_false_iff, decide_eq_false_iff_not, not_not] at hnamed
  exact hnamed.imp id Eq.symm

theorem checkEntries_eq_ok {entries : List Template} :
    checkEntries c user entries = .ok () ↔
      ∀ entry ∈ entries, checkVolumeClaimTemplateEntry c user entry = .ok () := by
  induction entries with
  | nil => simp [checkEntries]
  | cons entry entries ih =>
    rw [checkEntries, except_bind_unit_eq_ok, ih, List.forall_mem_cons]

theorem entriesOf_eq_ok {vm : VM} {entries : List Template} (h : entriesOf c vm = .ok entries) :
    templatesOf c vm = entries := by
  rw [templatesOf, except_mapError_eq_ok.1 h]
  rfl

theorem templatesOf_empty {vm : VM} (h : vm.templates = "") : templatesOf c vm = [] := by
  simp [templatesOf, Cluster.unmarshalVolumeClaimTemplates, h, Except.toOption]

/-- **Every template that an admitted request brings in or changes has been checked.** -/
theorem examined_checked {other : OtherChecks} {r : Request}
    (h : validate c other user r = .ok ()) :
    ∀ entry ∈ r.examined c, checkVolumeClaimTemplateEntry c user entry = .ok () := by
  cases r with
  | create vm =>
    simp only [validate, except_bind_unit_eq_ok] at h
    obtain ⟨-, -, hall, -⟩ := h
    intro entry hentry
    unfold checkAllVolumeClaimTemplateEntries at hall
    split at hall
    · next hempty => simp [Request.examined, templatesOf_empty hempty] at hentry
    · obtain ⟨entries, hentries, hall⟩ := except_bind_eq_ok.1 hall
      refine checkEntries_eq_ok.1 hall entry ?_
      rwa [Request.examined, entriesOf_eq_ok hentries] at hentry
  | update oldVM newVM =>
    simp only [validate, except_bind_unit_eq_ok] at h
    obtain ⟨-, -, -, hchanged, -⟩ := h
    intro entry hentry
    unfold checkChangedVolumeClaimTemplateEntries at hchanged
    rw [Request.examined] at hentry
    -- The check is skipped when there are no templates, or the same ones as before.
    split at hentry
    · simp at hentry
    next hdiffers =>
    split at hchanged
    · next hskip =>
      simp [templatesOf_empty (hskip.resolve_right hdiffers)] at hentry
    obtain ⟨newEntries, hnew, hchanged⟩ := except_bind_eq_ok.1 hchanged
    obtain ⟨oldEntries, hold, hchanged⟩ := except_bind_eq_ok.1 hchanged
    rw [entriesOf_eq_ok hnew, entriesOf_eq_ok hold] at hentry
    exact checkEntries_eq_ok.1 hchanged entry hentry

end

/-- The image that a volume of this storage class has its content from. -/
def imageOfStorageClass (c : Cluster) (scName : String) : Option Key :=
  match getVMImageIDFromSC c scName with
  | .ok imageID => (splitSlash imageID).map fun parts => ⟨parts.1, parts.2⟩
  | .error _ => none

namespace Event

/-- The template of an event. -/
def template : Event → Template
  | dataVolume template _ | pvc template => template

/-- The image that the volume has its content from. -/
def image (c : Cluster) : Event → Option Key
  | dataVolume _ image => some image
  | pvc template => template.storageClassName.bind (imageOfStorageClass c)

/-- A data volume clones the image that its template names. -/
def Follows : Event → Prop
  | dataVolume template image => template.imageID.bind splitImageID = some image
  | pvc _ => True

end Event

/-- The volumes were made for templates in the list. -/
def MadeFor (templates : List Template) (s : Server) : Prop :=
  ∀ e ∈ s.trace, e.template ∈ templates ∧ e.Follows

section

variable {c : Cluster} {env : Env} {vm : VM} {template : Template} {templates : List Template}

theorem MadeFor.append {s s' : Server} {e : Event} (h : MadeFor templates s)
    (hs : s'.trace = s.trace ++ [e]) (hmem : e.template ∈ templates) (hfollows : e.Follows) :
    MadeFor templates s' := by
  intro e' he'
  rw [hs] at he'
  rcases List.mem_append.1 he' with he' | he'
  · exact h e' he'
  · rw [List.mem_singleton.1 he']
    exact ⟨hmem, hfollows⟩

theorem imageRef_eq_cdi {image : Key} (h : imageRef c template = .cdi image) :
    template.imageID.bind splitImageID = some image := by
  unfold imageRef at h
  split at h
  · cases h
  next key hkey =>
  split at h
  · cases h
  · cases h
    exact hkey
  · cases h

theorem checkPVC_madeFor (hmem : template ∈ templates) (withDataVolume : Bool) :
    Preserves (MadeFor templates) (checkPVC env vm template withDataVolume) := by
  unfold checkPVC
  split
  · next pvc _ =>
    unfold expandPVC
    split
    · exact .pure ()
    have hput : Preserves (MadeFor templates)
        (putPVC { pvc with storage := template.storage }) := by
      intro s hs
      simp only [run, putPVC]
      split
      · exact hs
      · exact hs
    refine hput.request.attempt.bind fun r => ?_
    split
    · exact .pure ()
    · split
      · exact .pure ()
      · exact .fail _
  · split
    · split
      · exact .pure ()
      · refine .request fun s hs => ?_
        simp only [run, addPVC]
        split
        · exact hs
        · exact hs.append rfl hmem trivial
    · exact .fail _

theorem createVolume_madeFor (hmem : template ∈ templates) :
    Preserves (MadeFor templates) (createVolume c env vm template) := by
  unfold createVolume
  split
  · exact .pure ()
  · exact checkPVC_madeFor hmem false
  -- An image with the CDI backend: the volume is a data volume that clones it.
  next image href =>
  have hget : Preserves (MadeFor templates) (getDV ⟨vm.ns, template.name⟩) := by
    intro s hs
    simp only [run, getDV]
    split <;> exact hs
  refine hget.request.attempt.bind fun r => ?_
  split
  · exact checkPVC_madeFor hmem true
  split
  · refine (Preserves.ofExcept _).mapError.bind fun _ => ?_
    refine .mapError (Preserves.request fun s hs => ?_)
    simp only [run, addDV]
    split
    · exact hs
    · exact hs.append rfl hmem (imageRef_eq_cdi href)
  · exact .fail _

theorem createPVCs_madeFor :
    Preserves (MadeFor (templatesOf c vm)) <| createPVCsFromAnnotation c env vm := by
  unfold createPVCsFromAnnotation
  split
  · exact .pure ()
  have hparse : Yields (MadeFor (templatesOf c vm)) (fun ts => templatesOf c vm = ts)
      (Action.ofExcept (c.unmarshalVolumeClaimTemplates vm.templates)) := by
    refine .ofExcept fun ts hts => ?_
    rw [templatesOf, hts]
    rfl
  refine hparse.bind fun ts hts => Preserves.forEach fun template htemplate => ?_
  exact createVolume_madeFor (hts ▸ htemplate)

theorem Checked.image_access {user imageID : String} {e : Event} {image : Key}
    (h : Checked c user e.template imageID) (hres : Resolves c e.template imageID)
    (hfollows : e.Follows) (himage : e.image c = some image) : c.access user image = .ok true := by
  cases e with
  | dataVolume template key =>
    obtain rfl : key = image := Option.some.inj himage
    obtain ⟨raw, hraw, hsplit⟩ := Option.bind_eq_some_iff.1 hfollows
    have hnamed : raw = "" ∨ raw = imageID := by
      simpa [Event.template, hraw] using h.named
    -- The annotation has a slash, so it is not empty and must be the image of the storage class.
    unfold splitImageID at hsplit
    split at hsplit
    · cases hsplit
    next ns name hparts =>
    split at hsplit
    · cases hsplit
    cases hsplit
    rcases hnamed with rfl | rfl
    · cases hparts
    · exact h.access ns name hparts
  | pvc template =>
    obtain ⟨scName, hsc, hid, -⟩ := hres
    simp only [Event.template] at hsc
    simp only [Event.image, hsc, Option.bind_some, imageOfStorageClass, hid] at himage
    obtain ⟨⟨ns, name⟩, hparts, rfl⟩ := Option.map_eq_some_iff.1 himage
    exact h.access ns name hparts

end

/-- **A volume has its content from an image that the user may get**, if it is made for a template
that an admitted request of the user has brought in or changed and whose storage class leads to an
image. -/
theorem created_volume_access (c : Cluster) (other : OtherChecks) (user : String) (r : Request)
    (env : Env) (dvs : Store Image.Cdi.DataVolume.key) (pvcs : Store PVC.key)
    (hadmitted : validate c other user r = .ok ()) (e : Event)
    (he : e ∈ ((run <| createPVCsFromAnnotation c env r.vm) ⟨dvs, pvcs, []⟩).2.trace)
    (hexamined : e.template ∈ r.examined c) (hresolves : ∃ imageID, Resolves c e.template imageID)
    (image : Key) (himage : e.image c = some image) : c.access user image = .ok true := by
  obtain ⟨imageID, hres⟩ := hresolves
  have hnone : MadeFor (templatesOf c r.vm) ⟨dvs, pvcs, []⟩ := by
    intro e he
    cases he
  have hmade : MadeFor (templatesOf c r.vm)
      ((run <| createPVCsFromAnnotation c env r.vm) ⟨dvs, pvcs, []⟩).2 :=
    createPVCs_madeFor _ hnone
  have hchecked := checked_of_ok (examined_checked hadmitted _ hexamined) hres
  exact hchecked.image_access hres (hmade e he).2 himage

namespace Sample

/-- A volume on the storage class of the image `team/ubuntu`. -/
def root : Template := ⟨"root", some "team/ubuntu", some "lh-ubuntu", 10⟩

/-- A volume that names the CDI image `secret/windows`, on another storage class. -/
def data : Template := ⟨"data", some "secret/windows", some "lvm", 10⟩

/-- Alice may get the images of the team only. -/
def cluster : Cluster where
  unmarshal text :=
    if text = "root" then .ok [root] else if text = "data" then .ok [data]
    else if text = "both" then .ok [root, data]
    else .error (.other "unexpected end of JSON input")
  storageClasses name :=
    if name = "lh-ubuntu" then .ok ⟨"driver.longhorn.io", "vmi-ubuntu"⟩
    else .ok ⟨"lvm.driver.harvesterhci.io", ""⟩
  backingImages _ := .ok "team/ubuntu"
  images key := if key = ⟨"secret", "windows"⟩ then .ok .cdi else .ok .backingImage
  access user key := .ok (user = "alice" && key.ns = "team")
  defaultStorageClass := .error (.other "")

def other : OtherChecks :=
  ⟨.ok (), .ok (), .ok (), .ok (), .ok (), .ok (), .ok (), false, .ok (), .ok ()⟩

/-- No PVC is there yet, and no request fails. -/
def env : Env where
  pvcs := Store.empty.lookup .notFound
  fault _ := (.none, .other "")
  isExpandError _ := false

/-- A VM with the given annotation. -/
def vm (templates : String) : VM := ⟨"team", "vm", false, templates⟩

end Sample

open Sample in
/-- Alice creates a VM with a volume of the image `team/ubuntu`. -/
theorem created_volume_access_root :
    validate cluster other "alice" (.create (vm "root")) = .ok () ∧
      cluster.access "alice" ⟨"team", "ubuntu"⟩ = .ok true := by
  have hadmitted : validate cluster other "alice" (.create (vm "root")) =
      .ok () := by decide
  have hmade : Event.pvc root ∈ ((run <| createPVCsFromAnnotation cluster env (vm "root"))
      ⟨Store.empty, Store.empty, []⟩).2.trace := by decide
  have hresolves : Resolves cluster root "team/ubuntu" :=
    ⟨"lh-ubuntu", rfl, by decide, by decide⟩
  exact ⟨hadmitted, created_volume_access cluster other "alice" _ env _ _
    hadmitted (.pvc root) hmade (by decide) ⟨_, hresolves⟩ _ (by decide)⟩

open Sample in
/-- A new volume names the CDI image `secret/windows`.  Its storage class does not lead to the
image, so it is not checked, and the controller clones it. -/
theorem cdi_image_cloned_without_access :
    (∀ r ∈ [Request.create (vm "data"), .update (vm "root") (vm "both")],
      validate cluster other "alice" r = .ok () ∧
      Event.dataVolume data ⟨"secret", "windows"⟩ ∈
        ((run <| createPVCsFromAnnotation cluster env r.vm)
          ⟨Store.empty, Store.empty, []⟩).2.trace) ∧
    cluster.access "alice" ⟨"secret", "windows"⟩ = .ok false := by
  decide +kernel

/-- An update of the VM by a user. -/
structure Update where
  user : String
  other : OtherChecks
  vm : VM

/-- The admitted updates of a VM. -/
def updates (c : Cluster) : Machine VM Update where
  next vm u :=
    if validate c u.other u.user (.update vm u.vm) = .ok () then some u.vm else none

/-- Each template whose storage class leads to an image has been checked for one of the users. -/
def Vouched (c : Cluster) (users : String → Prop) (vm : VM) : Prop :=
  ∀ template ∈ templatesOf c vm, ∀ imageID, Resolves c template imageID →
    ∃ user, users user ∧ Checked c user template imageID

section

variable {c : Cluster} {users : String → Prop} {user : String} {other : OtherChecks}

theorem vouched_unchanged {oldVM : VM} {template : Template} {imageID : String}
    (h : Vouched c users oldVM) (hsame : unchanged (templatesOf c oldVM) template = true)
    (hres : Resolves c template imageID) :
    ∃ user, users user ∧ Checked c user template imageID := by
  obtain ⟨old, hfind, hold⟩ := (Option.any_eq_true _ _).1 hsame
  simp only [Bool.and_eq_true, decide_eq_true_eq] at hold
  have hmem : old ∈ templatesOf c oldVM := List.mem_reverse.1 (List.mem_of_find?_eq_some hfind)
  obtain ⟨scName, hsc, hid⟩ := hres
  obtain ⟨user, huser, hchecked⟩ := h old hmem imageID ⟨scName, hold.2.trans hsc, hid⟩
  exact ⟨user, huser, hold.1 ▸ hchecked.named, hchecked.access⟩

theorem vouched_create {vm : VM} (h : validate c other user (.create vm) = .ok ())
    (huser : users user) : Vouched c users vm := by
  intro template htemplate imageID hres
  exact ⟨user, huser, checked_of_ok (examined_checked h template htemplate) hres⟩

theorem vouched_update {oldVM newVM : VM} (h : Vouched c users oldVM)
    (hupdate : validate c other user (.update oldVM newVM) = .ok ()) (huser : users user) :
    Vouched c users newVM := by
  intro template htemplate imageID hres
  by_cases htext : oldVM.templates = newVM.templates
  · have hsame : templatesOf c newVM = templatesOf c oldVM := by
      rw [templatesOf, templatesOf, htext]
    exact h template (hsame ▸ htemplate) imageID hres
  cases hunchanged : unchanged (templatesOf c oldVM) template with
  | true => exact vouched_unchanged h hunchanged hres
  | false =>
    have hexamined : template ∈ (Request.update oldVM newVM).examined c := by
      rw [Request.examined, if_neg htext]
      exact List.mem_filter.2 ⟨htemplate, by simp [hunchanged]⟩
    exact ⟨user, huser, checked_of_ok (examined_checked hupdate template hexamined) hres⟩

/-- **Every template is vouched for**: from the creation of a VM on, whatever admitted updates
follow, each template whose storage class leads to an image was checked for one of the users. -/
theorem updates_vouched {vm₀ vm : VM} {us : List Update}
    (hcreate : validate c other user (.create vm₀) = .ok ()) (huser : users user)
    (husers : (updates c).Along (fun _ u => users u.user) vm₀ us)
    (hrun : (updates c).run vm₀ us = some vm) : Vouched c users vm := by
  refine Machine.run_invariant (fun old u new hold hu hnext => ?_)
    (vouched_create hcreate huser) husers hrun
  simp only [updates, Machine.guarded_eq_some] at hnext
  exact hnext.2 ▸ vouched_update hold hnext.1 hu

end

open Sample in
/-- Bob may not get the image of the volume that Alice has created. -/
theorem updates_vouched_root : ∃ vm', (updates cluster).run (vm "root")
    [⟨"bob", other, vm "both"⟩] = some vm' ∧ root ∈ templatesOf cluster vm' ∧
      Resolves cluster root "team/ubuntu" ∧ Vouched cluster (· ∈ ["alice", "bob"]) vm' :=
  ⟨_, Machine.run_get (by decide), by decide, ⟨"lh-ubuntu", rfl, by decide, by decide⟩,
    updates_vouched (by decide : validate cluster other "alice" (.create (vm "root")) = .ok ())
      (by decide) (by exact ⟨by decide, fun _ _ => True.intro⟩) (Machine.run_get _)⟩

end Volumes

end VirtualMachine

end Harvester
