import Harvester.Control.Machine
import Harvester.Image.BackingImage

/-!
# Isolation of two images

Whether a backing image or a storage class belongs to an image is decided by its name alone:
`longhorn-<name>` leaves the namespace out and `<ns>-<name>` does not tell where it ends.

* `Stays`: all that the backend does with existing objects, it does under names of the image;
* `isolated_iff`: no image resolves or deletes an object of the other, exactly if they share no
  name;
* `initialize_deletes_storage_class_of_other`: a new image deletes the storage class of an image
  with the same name in another namespace.
-/

namespace Harvester

namespace Image

open Control Action

variable {checksum : String → String}

namespace Event

/-- The image that acts. -/
def image : Event checksum → VMImage
  | resolvedBI vmi _ | resolvedSC vmi _ | deletedBI vmi _ | deletedSC vmi _ => vmi

/-- The image that the object was created for. -/
def createdFor : Event checksum → Option VMImage
  | resolvedBI _ bi | deletedBI _ bi => bi.createdFor
  | resolvedSC _ sc | deletedSC _ sc => sc.createdFor

/-- The object has one of the names of the image that acts. -/
def Named : Event checksum → Prop
  | resolvedBI vmi bi | deletedBI vmi bi => bi.name ∈ backingImageNames checksum vmi
  | resolvedSC vmi sc | deletedSC vmi sc => sc.name ∈ storageClassNames checksum vmi

end Event

/-- The invariant stays when objects are resolved and deleted under names of the image. -/
def Stays (I : Server checksum → Prop) : Prop :=
  ∀ s s' es, I s → s'.trace = s.trace ++ es → (∀ e ∈ es, e.Named) → I s'

section

variable {I : Server checksum → Prop} {s s' : Server checksum}

theorem Stays.same (hI : Stays I) (hs : I s) (htrace : s'.trace = s.trace) : I s' :=
  hI s s' [] hs (by simp [htrace]) (by simp)

theorem named_resolvedBI (cache : Lookup Err (@BackingImage.name checksum)) (vmi : VMImage) :
    ∀ e ∈ (getBackingImage cache vmi).toOption.map (Event.resolvedBI vmi), e.Named := by
  intro e he
  obtain ⟨bi, hbi, rfl⟩ := Option.map_eq_some_iff.1 he
  cases hfound : getBackingImage cache vmi with
  | error e => simp [hfound, Except.toOption] at hbi
  | ok found =>
    simp only [hfound, Except.toOption, Option.some.injEq] at hbi
    exact hbi ▸ getBackingImage_ok hfound

theorem preserves_ignoring (counts : Err → Bool) (r : Except Err Unit) :
    Preserves I (ignoring counts r) := by
  cases r with
  | error e =>
    simp only [ignoring]
    split
    · exact .fail e
    · exact .pure ()
  | ok u => exact .pure ()

theorem preserves_refuseDeletingBI (found : Except Err (BackingImage checksum)) :
    Preserves I (refuseDeletingBI found) := by
  cases found with
  | error e => exact .pure ()
  | ok bi =>
    simp only [refuseDeletingBI]
    split
    · exact .fail _
    · exact .pure ()

theorem preserves_refuseDeletingSC (found : Except Err (StorageClass checksum)) :
    Preserves I (refuseDeletingSC found) := by
  cases found with
  | error e => exact .pure ()
  | ok sc =>
    simp only [refuseDeletingSC]
    split
    · exact .fail _
    · exact .pure ()

theorem preserves_checkFound (found : Except Err (StorageClass checksum)) :
    Preserves I (match found with
      | .error e => if e.isNotFound then fail (.storageClassNotFound e) else fail .storageClass
      | .ok sc => if sc.deleting then fail .retryLater else pure () :
      Action (Server checksum) CheckErr Unit) := by
  split
  · split <;> exact .fail _
  · split
    · exact .fail _
    · exact .pure ()

variable (hI : Stays I)

include hI

theorem note_stays {ε : Type} {event : Option (Event checksum)} (h : ∀ e ∈ event, e.Named) :
    Preserves I (note event : Action (Server checksum) ε Unit) :=
  Preserves.modify fun _ hs => hI _ _ _ hs rfl fun e he => h e (Option.mem_toList.1 he)

theorem getBackingImageName_stays (cache : Lookup Err (@BackingImage.name checksum))
    (vmi : VMImage) : Preserves I (getBackingImageName cache vmi) :=
  (note_stays hI (named_resolvedBI cache vmi)).bind fun _ => .ofExcept _

theorem getStorageClassName_stays {ε : Type} (cache : Lookup Err (@StorageClass.name checksum))
    (vmi : VMImage) :
    Preserves I (getStorageClassName cache vmi : Action _ ε _) := by
  refine (note_stays hI fun e he => ?_).bind fun _ => .pure _
  obtain ⟨sc, hsc, rfl⟩ := Option.map_eq_some_iff.1 he
  exact getSCByNames_eq_some hsc

theorem removeBI_stays {vmi : VMImage} {name : String}
    (h : name ∈ backingImageNames checksum vmi) :
    Preserves I (removeBI vmi name : Act checksum Unit) := by
  intro s hs
  simp only [run, removeBI]
  split
  · exact hs
  · next bi hget =>
    have hname : bi.name = name := Store.key_of_get hget
    exact hI _ _ _ hs rfl (by simpa [Event.Named, hname] using h)

theorem removeSC_stays {vmi : VMImage} {name : String}
    (h : name ∈ storageClassNames checksum vmi) :
    Preserves I (removeSC vmi name : Act checksum Unit) := by
  intro s hs
  simp only [run, removeSC]
  split
  · exact hs
  · next sc hget =>
    have hname : sc.name = name := Store.key_of_get hget
    exact hI _ _ _ hs rfl (by simpa [Event.Named, hname] using h)

variable (env : Env checksum) (vmi : VMImage)

theorem deleteBackingImage_stays : Preserves I (deleteBackingImage env vmi) :=
  (getBackingImageName_stays hI _ vmi).bind fun name => (removeBI_stays hI name.2).request

theorem deleteStorageClass_stays : Preserves I (deleteStorageClass env vmi) :=
  (getStorageClassName_stays hI _ vmi).bind fun name => (removeSC_stays hI name.2).request

theorem deleteBackingImageAndStorageClass_stays :
    Preserves I (deleteBackingImageAndStorageClass env vmi) := by
  refine (deleteBackingImage_stays hI env vmi).attempt.bind fun r => ?_
  refine (preserves_ignoring _ r).bind fun _ => ?_
  exact (deleteStorageClass_stays hI env vmi).attempt.bind fun r => preserves_ignoring _ r

theorem sourceParameters_stays : Preserves I (sourceParameters env vmi) := by
  unfold sourceParameters
  split
  · exact .pure ()
  · exact .pure ()
  · exact .pure ()
  · exact .ofExcept _
  · refine (Preserves.ofExcept _).bind fun source => ?_
    exact (getBackingImageName_stays hI _ source).bind fun _ => .pure ()

theorem createBackingImage_stays : Preserves I (createBackingImage env vmi) := by
  refine (note_stays hI (named_resolvedBI _ vmi)).bind fun _ => ?_
  refine (preserves_refuseDeletingBI _).bind fun _ => ?_
  refine (getBackingImageName_stays hI _ vmi).bind fun name => ?_
  refine (Preserves.ofExcept _).bind fun _ => ?_
  refine (sourceParameters_stays hI env vmi).bind fun _ => Preserves.request ?_
  intro s hs
  simp only [run, addBI]
  split
  · exact hs
  · exact hI.same hs rfl

theorem createStorageClass_stays : Preserves I (createStorageClass env vmi) := by
  refine (getStorageClassName_stays hI _ vmi).bind fun name => ?_
  refine (preserves_refuseDeletingSC _).bind fun _ => ?_
  refine (getBackingImageName_stays hI _ vmi).bind fun biName => Preserves.request ?_
  intro s hs
  simp only [run, addSC]
  split
  · exact hs
  · exact hI.same hs rfl

theorem createBackingImageAndStorageClass_stays :
    Preserves I (createBackingImageAndStorageClass env vmi) := by
  refine (createBackingImage_stays hI env vmi).attempt.bind fun r => ?_
  refine (preserves_ignoring _ r).bind fun _ => ?_
  exact (createStorageClass_stays hI env vmi).attempt.bind fun r => preserves_ignoring _ r

theorem initializeVMI_stays : Preserves I (initializeVMI env vmi) := by
  refine (deleteBackingImageAndStorageClass_stays hI env vmi).bind fun _ => ?_
  refine (Preserves.ofExcept _).bind fun _ => ?_
  exact (createBackingImageAndStorageClass_stays hI env vmi).bind fun _ => .ofExcept _

theorem delete_stays : Preserves I (delete env vmi) :=
  (deleteBackingImageAndStorageClass_stays hI env vmi).bind fun _ => .ofExcept _

theorem checkStorageClass_stays : Preserves I (checkStorageClass env vmi) :=
  (getStorageClassName_stays hI _ vmi).bind fun _ => preserves_checkFound _

theorem check_stays : Preserves I (check env vmi) := by
  refine (note_stays hI (named_resolvedBI _ vmi)).bind fun _ => ?_
  split
  · split <;> exact .fail _
  split
  · exact .fail _
  split
  · exact .fail _
  exact checkStorageClass_stays hI env vmi

end

/-- Two images. -/
structure Pair where
  a : VMImage
  b : VMImage
  distinct : a.uid ≠ b.uid

/-- What the image controller calls; `Initialize` may be a retry. -/
inductive Operation where
  | initializeVMI
  | check
  | delete

/-- The server after an operation. -/
def Operation.perform (env : Env checksum) (vmi : VMImage) (s : Server checksum) :
    Operation → Server checksum
  | initializeVMI => ((Image.initializeVMI env vmi).run s).2
  | check => ((Image.check env vmi).run s).2
  | delete => ((Image.delete env vmi).run s).2

/-- The steps of the system. -/
inductive Step (checksum : String → String) where
  | call (operation : Operation) (vmi : VMImage) (env : Env checksum)
  /-- Longhorn has cleaned up after a backing image that is being deleted. -/
  | collect (name : String)
  /-- Longhorn reports on the disk files of a backing image. -/
  | report (name : String) (failed : Bool)

/-- The runs of a pair of images. -/
def images (p : Pair) : Machine (Server checksum) (Step checksum) where
  next s
    | .call operation vmi env =>
      if vmi = p.a ∨ vmi = p.b then some (operation.perform env vmi s) else none
    | .collect name =>
      match s.bis.get name with
      | some bi => if bi.deleting then some { s with bis := s.bis.delete name } else none
      | none => none
    | .report name failed =>
      (s.bis.get name).map fun bi => { s with bis := s.bis.put { bi with failed } }

/-- One image resolves or deletes an object that was created for the other. -/
def Event.Crosses (p : Pair) (e : Event checksum) : Prop :=
  e.image = p.a ∧ e.createdFor = some p.b ∨ e.image = p.b ∧ e.createdFor = some p.a
  deriving Decidable

/-- In every run, from any objects, the images keep out of each other's way. -/
def Isolated (checksum : String → String) (p : Pair) : Prop :=
  ∀ (s s' : Server checksum) (steps : List (Step checksum)), s.trace = [] →
    (images p).run s steps = some s' → ∀ e ∈ s'.trace, ¬ e.Crosses p

/-- The images have no name in common, neither for backing images nor for storage classes. -/
def Separate (checksum : String → String) (p : Pair) : Prop :=
  (∀ name ∈ backingImageNames checksum p.a, name ∉ backingImageNames checksum p.b) ∧
    ∀ name ∈ storageClassNames checksum p.a, name ∉ storageClassNames checksum p.b
  deriving Decidable

theorem stays_step {p : Pair} {I : Server checksum → Prop} (hI : Stays I) {s s' : Server checksum}
    {step : Step checksum} (h : I s) (hs : (images p).next s step = some s') : I s' := by
  cases step with
  | call operation vmi env =>
    simp only [images, Machine.guarded_eq_some] at hs
    rw [← hs.2]
    cases operation with
    | initializeVMI => exact initializeVMI_stays hI env vmi s h
    | check => exact check_stays hI env vmi s h
    | delete => exact delete_stays hI env vmi s h
  | collect name =>
    simp only [images] at hs
    split at hs
    · simp only [Machine.guarded_eq_some] at hs
      exact hI.same h (by rw [← hs.2])
    · simp at hs
  | report name failed =>
    obtain ⟨bi, -, rfl⟩ := Option.map_eq_some_iff.1 hs
    exact hI.same h rfl

theorem not_crosses {p : Pair} {e : Event checksum} (h : Separate checksum p) (he : e.Named) :
    ¬ e.Crosses p := by
  rintro (⟨himage, hfor⟩ | ⟨himage, hfor⟩)
  all_goals cases e with
  | resolvedBI vmi bi | deletedBI vmi bi =>
    subst himage
    first
    | exact h.1 _ he (bi.named _ hfor)
    | exact h.1 _ (bi.named _ hfor) he
  | resolvedSC vmi sc | deletedSC vmi sc =>
    subst himage
    first
    | exact h.2 _ he (sc.named _ hfor)
    | exact h.2 _ (sc.named _ hfor) he

section

theorem find_single {V : Type} {key : V → String} (v : V) (name : String)
    (notFound : String → Err) :
    ((Store.empty.put v : Store key).lookup notFound).find name =
      if name = key v then .ok v else .error (notFound name) := by
  by_cases h : name = key v
  · subst h
    simp [Store.lookup]
  · simp [Store.lookup, Store.get_put_of_ne _ h, h]

/-- A cluster in which requests succeed and the caches are up to date. -/
def quietEnv (s : Server checksum) : Env checksum where
  bis _ := s.bis.lookup fun name => .notFound ⟨"longhorn-system", name⟩
  scs _ := s.scs.lookup fun name => .notFound ⟨"", name⟩
  fault _ := (.none, .other "")
  numOfCopies := .ok 3
  pvc := .ok ()
  sourceImage := .error (.other "")
  checkURLAndUpdate := .ok ()
  updateVMI := .ok ()
  deleteVMImageMetadata := .ok ()

variable {vmi : VMImage}

theorem getBackingImage_single {bi : BackingImage checksum} {scs} {trace}
    (h : bi.name ∈ backingImageNames checksum vmi) (site : Site) :
    getBackingImage ((quietEnv ⟨Store.empty.put bi, scs, trace⟩).bis site) vmi = .ok bi := by
  -- The last candidate is looked up by itself, so the induction is on the names before it.
  have hgen : ∀ last names, bi.name ∈ (names ++ [last]).filter (· ≠ "") →
      getBackingImageByNames ((quietEnv ⟨Store.empty.put bi, scs, trace⟩).bis site) last names =
        .ok bi := by
    intro last names
    induction names with
    | nil =>
      intro hmem
      simp only [getBackingImageByNames, quietEnv, find_single]
      rw [if_pos]
      simp only [List.nil_append, List.mem_filter, List.mem_singleton] at hmem
      exact hmem.1.symm
    | cons name names ih =>
      simp only [getBackingImageByNames, quietEnv, find_single] at ih ⊢
      grind [Err.isNotFound]
  exact hgen _ _ (by rwa [List.append_assoc])

theorem getSCByNames_single {sc : StorageClass checksum} {bis} {trace}
    (h : sc.name ∈ storageClassNames checksum vmi) (site : Site) :
    getSCByNames ((quietEnv ⟨bis, Store.empty.put sc, trace⟩).scs site)
      (storageClassCandidates checksum vmi) = some sc := by
  have hgen : ∀ names : List String, sc.name ∈ names.filter (· ≠ "") →
      getSCByNames ((quietEnv ⟨bis, Store.empty.put sc, trace⟩).scs site) names = some sc := by
    intro names
    induction names with
    | nil => simp
    | cons name names ih =>
      simp only [getSCByNames, quietEnv, find_single] at ih ⊢
      grind
  exact hgen _ h

theorem stays_mem (e : Event checksum) : Stays fun s => e ∈ s.trace :=
  fun _ _ es hs htrace _ => htrace.symm.subst (List.mem_append_left es hs)

theorem note_triple {ε : Type} (e : Event checksum) :
    Triple (fun _ => True) (note (some e) : Action (Server checksum) ε Unit)
      fun _ s => e ∈ s.trace := by
  intro s _
  simp [note, run, Action.modify]

theorem check_eq {env : Env checksum} {bi : BackingImage checksum}
    (h : getBackingImage (env.bis .check) vmi = .ok bi) (hdeleting : bi.deleting = false)
    (hfailed : bi.failed = false) :
    check env vmi = (do
      note (some (.resolvedBI vmi bi))
      checkStorageClass env vmi) := by
  simp [check, h, hdeleting, hfailed, Except.toOption]

theorem checkStorageClass_resolves {env : Env checksum} {sc : StorageClass checksum}
    (h : getSCByNames (env.scs .check) (storageClassCandidates checksum vmi) = some sc) :
    Triple (fun _ => True) (checkStorageClass env vmi) fun _ s => .resolvedSC vmi sc ∈ s.trace := by
  have hnote : (getSCByNames (env.scs .check) (storageClassCandidates checksum vmi)).map
      (Event.resolvedSC vmi) = some (.resolvedSC vmi sc) := by simp [h]
  have hname :
      Triple (fun _ => True) (getStorageClassName (env.scs .check) vmi : Action _ CheckErr _)
      fun _ s => .resolvedSC vmi sc ∈ s.trace := by
    unfold getStorageClassName
    rw [hnote]
    exact .bind (note_triple _) (fun _ => .pure fun _ hs => hs) fun _ _ hs => hs
  exact hname.bind (fun name => preserves_checkFound _) fun _ _ hs => hs

end

theorem crosses_of_shared {p : Pair} (h : ¬ Separate checksum p) : ¬ Isolated checksum p := by
  intro hiso
  refine h ⟨fun name ha hb => ?_, fun name ha hb => ?_⟩
  · let bi : BackingImage checksum :=
      ⟨name, some p.b, "", false, false, fun _ hfor => Option.some.inj hfor ▸ hb⟩
    let s : Server checksum := ⟨Store.empty.put bi, Store.empty, []⟩
    refine hiso s _ [.call .check p.a (quietEnv s)] rfl (by simp [Machine.run, images]; rfl)
      (.resolvedBI p.a bi) ?_ (.inl ⟨rfl, rfl⟩)
    rw [Operation.perform, check_eq (getBackingImage_single ha .check) rfl rfl]
    exact Triple.bind (note_triple _) (fun _ => checkStorageClass_stays (stays_mem _) _ _)
      (fun _ _ hs => hs) s True.intro
  · let bi : BackingImage checksum :=
      ⟨backingImageNameForCreate checksum p.a, none, "", false, false, by simp⟩
    let sc : StorageClass checksum :=
      ⟨name, some p.b, "", false, fun _ hfor => Option.some.inj hfor ▸ hb⟩
    let s : Server checksum := ⟨Store.empty.put bi, Store.empty.put sc, []⟩
    refine hiso s _ [.call .check p.a (quietEnv s)] rfl (by simp [Machine.run, images]; rfl)
      (.resolvedSC p.a sc) ?_ (.inl ⟨rfl, rfl⟩)
    have hbi := backingImageNameForCreate_mem checksum p.a
    have hsc : getSCByNames ((quietEnv s).scs .check) (storageClassCandidates checksum p.a) =
        some sc := getSCByNames_single ha .check
    rw [Operation.perform, check_eq (getBackingImage_single hbi .check) rfl rfl]
    exact checkStorageClass_resolves hsc { s with trace := [.resolvedBI p.a bi] } True.intro

/-- **Two images are isolated exactly if they have no name in common.** -/
theorem isolated_iff (checksum : String → String) (p : Pair) :
    Isolated checksum p ↔ Separate checksum p := by
  refine ⟨fun h => not_not.1 fun hsep => crosses_of_shared hsep h, fun hsep => ?_⟩
  intro s s' steps htrace hrun e he
  have hstays : Stays fun s : Server checksum => ∀ e ∈ s.trace, e.Named := by
    intro s s' es hs htrace hes
    rw [htrace]
    exact List.forall_mem_append.2 ⟨hs, hes⟩
  have hnamed : ∀ e ∈ s'.trace, e.Named := Machine.run_invariant
    (fun _ _ _ h _ hs => stays_step hstays h hs) (by simp [htrace])
    (Machine.along_true s steps) hrun
  exact not_crosses hsep (hnamed e he)

namespace Sample

/-- The names of the sample are short, so no checksum is taken. -/
def noChecksum : String → String := fun _ => ""

/-- `tenant-a/ubuntu` has the storage class `longhorn-ubuntu`; `tenant-b/ubuntu` is new. -/
def pair : Pair where
  a := ⟨"tenant-a", "ubuntu", "6f1c", .download, "", none⟩
  b := ⟨"tenant-b", "ubuntu", "9d20", .download, "", none⟩
  distinct := by decide

/-- The cluster after the upgrade. -/
def server : Server noChecksum where
  bis := Store.empty.put ⟨"tenant-a-ubuntu", some pair.a, "tenant-a/ubuntu", false, false,
    by rintro _ ⟨⟩; decide⟩
  scs := Store.empty.put ⟨"longhorn-ubuntu", some pair.a, "tenant-a-ubuntu", false,
    by rintro _ ⟨⟩; decide⟩
  trace := []

/-- Images with different names, on the other hand, can be separate. -/
example : Separate noChecksum
    { pair with b := ⟨"tenant-b", "debian", "9d20", .download, "", none⟩ } := by decide

end Sample

open Sample in
/-- The new image deletes the storage class of `tenant-a/ubuntu`. -/
theorem initialize_deletes_storage_class_of_other :
    ∃ s' sc, (images pair).run server
        [.call .initializeVMI pair.b (quietEnv server)] = some s' ∧
      Event.deletedSC pair.b sc ∈ s'.trace ∧ sc.createdFor = some pair.a ∧
      ¬ Isolated noChecksum pair := by
  have hrun : ((images pair).run server
      [.call .initializeVMI pair.b (quietEnv server)]).any (fun s' =>
        s'.trace.any fun
          | .deletedSC vmi sc => vmi = pair.b && sc.createdFor = some pair.a
          | _ => false) = true := by decide
  obtain ⟨s', hs', hany⟩ := (Option.any_eq_true _ _).1 hrun
  obtain ⟨e, he, hmatch⟩ := List.any_eq_true.1 hany
  split at hmatch
  · next vmi sc =>
    simp only [Bool.and_eq_true, decide_eq_true_eq] at hmatch
    obtain ⟨rfl, hfor⟩ := hmatch
    refine ⟨s', sc, hs', he, hfor, fun hiso => ?_⟩
    exact hiso _ s' _ rfl hs' _ he (.inr ⟨rfl, hfor⟩)
  · simp at hmatch

end Image

end Harvester
