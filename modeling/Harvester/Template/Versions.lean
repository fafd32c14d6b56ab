import Harvester.Control.Machine
import Harvester.Kube.Basic
import Mathlib.Data.List.Sort
import Mathlib.Data.Prod.Lex
import Mathlib.Data.String.Basic

/-!
# Numbers of template versions

The controller numbers a version of a virtual machine template when it first handles it: one more
than the number of the latest version that has one.  The latest one is found by the time of its
creation, in seconds, and by its name among those of one second, not by its number.

`version_unique`: the numbers of a template are different as long as a version is numbered only
while it comes before all the versions that have a number, in that order.  `same_number` shows two
versions with the same number.
-/

namespace Harvester

open Control Action

namespace Template

/-! ### Versions -/

/-- A version, with the time of its creation in seconds. -/
structure TemplateVersion where
  name : String
  /-- The namespace and the name of the template. -/
  templateID : Key
  creationTimestamp : Nat
  resourceVersion : Nat
  /-- The version has a deletion timestamp. -/
  deleting : Bool
  /-- The label with the name of the template. -/
  templateLabel : Option String
  ownerReferences : List OwnerReference
  /-- The condition `ready`. -/
  ready : Option Bool
  /-- The condition `assigned` is true. -/
  versionAssigned : Bool
  version : Nat
  deriving DecidableEq

/-- A template, as far as its versions refer to it. -/
structure VMTemplate where
  name : String
  kind : String
  uid : String

/-- The versions in the namespace of the templates, and a clock for resource versions. -/
structure World where
  versions : Store TemplateVersion.name
  clock : Nat

/-- What a reconcile finds. -/
structure Env where
  template : Except Err VMTemplate
  imagesReady : Except Err Bool
  list : Except Err Unit
  update : Fault
  failure : Err

/-- Calls of the controller. -/
abbrev Handler := Action World Err

/-- The later one first; of those of one second the one with the smaller name first. -/
def less (a b : TemplateVersion) : Bool :=
  if a.creationTimestamp = b.creationTimestamp then a.name < b.name
  else b.creationTimestamp < a.creationTimestamp

/-- The first version does not come after the second one. -/
def NotAfter (a b : TemplateVersion) : Prop := less b a = false

instance : DecidableRel NotAfter := fun a b => inferInstanceAs (Decidable (less b a = false))

/-- The order of `sort.Sort`. -/
def sortByCreationTimestamp (tvs : List TemplateVersion) : List TemplateVersion :=
  tvs.insertionSort NotAfter

/-- The number of the latest version of a template, or `0`. -/
def latestVersion (tvs : List TemplateVersion) (templateID : Key) : Nat :=
  match (sortByCreationTimestamp (tvs.filter fun v => v.templateID = templateID)).find?
      TemplateVersion.versionAssigned with
  | none => 0
  | some v => v.version

section

variable (env : Env) (w : World) (tv : TemplateVersion)

/-- The latest number. -/
def getTemplateLatestVersion (templateID : Key) : Handler Nat := fun w =>
  (env.list.map fun _ => latestVersion w.versions.objs templateID, w)

/-- The server replaces the version that a new one is based on. -/
def store : Handler Unit := fun w =>
  match w.versions.get tv.name with
  | none => (.error (.notFound ⟨"", tv.name⟩), w)
  | some old =>
    if old.resourceVersion = tv.resourceVersion then
      (.ok (), ⟨w.versions.put { tv with resourceVersion := w.clock }, w.clock + 1⟩)
    else (.error (.conflict ⟨"", tv.name⟩), w)

/-- A version is updated. -/
def update (env : Env) (tv : TemplateVersion) : Handler Unit :=
  request env.update env.failure (store tv)

/-- The template owns the version. -/
def isVersionOwnedByTemplate (version : TemplateVersion) (template : VMTemplate) : Bool :=
  version.ownerReferences.any fun o => o.uid = template.uid

/-- The label, the owner and the condition `ready`. -/
def TemplateVersion.labelled (template : VMTemplate) (isReady : Bool) : TemplateVersion :=
  let ownerRef : OwnerReference := ⟨template.kind, template.name, template.uid, true, true⟩
  { tv with
    templateLabel := some (tv.templateLabel.getD tv.templateID.name)
    ownerReferences :=
      if tv.ownerReferences.isEmpty then [ownerRef]
      else if isVersionOwnedByTemplate tv template then tv.ownerReferences
      else tv.ownerReferences ++ [ownerRef]
    ready := some isReady }

/-- The number, if there is none yet. -/
def assignVersion : Handler TemplateVersion :=
  if tv.versionAssigned then pure tv
  else do
    let existLatestVersion ← getTemplateLatestVersion env tv.templateID
    pure { tv with version := existLatestVersion + 1, versionAssigned := true }

/-- Update the version if something has changed. -/
def updateIfChanged (tv copyObj : TemplateVersion) : Handler Unit :=
  if copyObj ≠ tv then update env copyObj else pure ()

/-- The handler holds a mutex from the list to the update. -/
def onChanged : Handler Unit :=
  if tv.deleting then pure ()
  else do
    let template ← Action.ofExcept env.template
    let isReady ← Action.ofExcept env.imagesReady
    let copyObj ← assignVersion env (tv.labelled template isReady)
    updateIfChanged env tv copyObj

/-! ### Steps -/

/-- What happens to versions. -/
inductive Event where
  /-- A version is created, without a number. -/
  | create (tv : TemplateVersion)
  /-- A version is marked for deletion. -/
  | markDeleted (name : String)
  | delete (name : String)
  /-- A reconcile of a version as it is or was. -/
  | onChanged (tv : TemplateVersion) (env : Env)

/-- A copy of a version is the version itself, or an old one. -/
def World.Copy : Prop :=
  ∀ v, w.versions.get tv.name = some v → v.resourceVersion = tv.resourceVersion → v = tv

instance (w : World) (tv : TemplateVersion) : Decidable (w.Copy tv) :=
  match h : w.versions.get tv.name with
  | none => isTrue fun v hv => by simp [h] at hv
  | some v =>
    decidable_of_iff (v.resourceVersion = tv.resourceVersion → v = tv)
      ⟨fun hv u hu => Option.some.inj (h.symm.trans hu) ▸ hv, fun hv => hv v h⟩

/-- A step; versions that are created with a number set by hand are left out. -/
def World.next : Event → Option World
  | .create tv => do
    guard (w.versions.get tv.name = none ∧ tv.versionAssigned = false)
    pure ⟨w.versions.put { tv with resourceVersion := w.clock }, w.clock + 1⟩
  | .markDeleted name => do
    let v ← w.versions.get name
    pure ⟨w.versions.put { v with deleting := true, resourceVersion := w.clock }, w.clock + 1⟩
  | .delete name => some { w with versions := w.versions.delete name }
  | .onChanged tv env => do
    guard (w.Copy tv)
    pure ((onChanged env tv).run w).2

/-- The system. -/
def machine : Machine World Event := ⟨World.next⟩

/-- No version has a number. -/
def World.Fresh : Prop := ∀ v ∈ w.versions.objs, v.versionAssigned = false
  deriving Decidable

/-- A version is numbered while it comes before all those of its template that have a number. -/
def World.InOrder : Event → Prop
  | .onChanged tv _ => tv.versionAssigned = false → ∀ u ∈ w.versions.objs,
      u.templateID = tv.templateID → u.versionAssigned = true → less tv u = true
  | _ => True

end

instance (w : World) (e : Event) : Decidable (w.InOrder e) := by
  unfold World.InOrder
  split <;> infer_instance

variable {w w' : World} {tv u v : TemplateVersion} {e : Event}

/-! ### The order -/

/-- The time and the name, in the order in which the versions are sorted. -/
def TemplateVersion.rank (v : TemplateVersion) : ℕᵒᵈ ×ₗ String :=
  toLex (OrderDual.toDual v.creationTimestamp, v.name)

theorem less_iff : less u v = true ↔ u.rank < v.rank := by
  unfold less TemplateVersion.rank
  rw [Prod.Lex.toLex_lt_toLex]
  split
  · next h => simp [h]
  · next h => simp [h]

theorem notAfter_iff : NotAfter u v ↔ u.rank ≤ v.rank := by
  rw [NotAfter, ← Bool.not_eq_true, less_iff, not_lt]

theorem less_asymm (h : less u v = true) : less v u = false :=
  notAfter_iff.2 (less_iff.1 h).le

theorem less_irrefl (u : TemplateVersion) : less u u = false :=
  notAfter_iff.2 le_rfl

theorem less_or_less (h : u.name ≠ v.name) : less u v = true ∨ less v u = true := by
  have hne : u.rank ≠ v.rank := fun heq => h (congrArg (fun r => (ofLex r).2) heq)
  rw [less_iff, less_iff]
  exact lt_or_gt_of_ne hne

instance : Std.Total NotAfter where
  total a b := by
    rw [notAfter_iff, notAfter_iff]
    exact le_total a.rank b.rank

instance : IsTrans TemplateVersion NotAfter where
  trans a b c hab hbc := by
    rw [notAfter_iff] at hab hbc ⊢
    exact hab.trans hbc

/-- **The latest version** comes before all the others that have a number. -/
theorem latestVersion_cases (tvs : List TemplateVersion) (templateID : Key) :
    (∀ u ∈ tvs, u.templateID = templateID → u.versionAssigned = false) ∨
      ∃ v ∈ tvs, v.templateID = templateID ∧ v.versionAssigned = true ∧
        latestVersion tvs templateID = v.version ∧
        ∀ u ∈ tvs, u.templateID = templateID → u.versionAssigned = true → less u v = false := by
  have hsorted : (sortByCreationTimestamp
      (tvs.filter fun v => v.templateID = templateID)).Pairwise NotAfter :=
    List.pairwise_insertionSort _ _
  have hmem (u : TemplateVersion) :
      u ∈ sortByCreationTimestamp (tvs.filter fun v => v.templateID = templateID) ↔
        u ∈ tvs ∧ u.templateID = templateID := by
    rw [sortByCreationTimestamp, List.mem_insertionSort, List.mem_filter, decide_eq_true_iff]
  unfold latestVersion
  cases hfind : (sortByCreationTimestamp (tvs.filter fun v => v.templateID = templateID)).find?
      TemplateVersion.versionAssigned with
  | none =>
    refine .inl fun u hu hid => ?_
    simpa using List.find?_eq_none.1 hfind u ((hmem u).2 ⟨hu, hid⟩)
  | some v =>
    obtain ⟨hassigned, before, after, hsplit, hbefore⟩ := List.find?_eq_some_iff_append.1 hfind
    obtain ⟨hv, hid⟩ := (hmem v).1 (by simp [hsplit])
    refine .inr ⟨v, hv, hid, hassigned, rfl, fun u hu hu' hassigned' => ?_⟩
    have hu := (hmem u).2 ⟨hu, hu'⟩
    rw [hsplit] at hu hsorted
    rcases List.mem_append.1 hu with hu | hu
    · exact absurd hassigned' (by simpa using hbefore u hu)
    rcases List.mem_cons.1 hu with rfl | hu
    · exact less_irrefl u
    · have hpair := (List.pairwise_append.1 hsorted).2.1
      exact (List.pairwise_cons.1 hpair).1 u hu

/-! ### What a reconcile does -/

/-- A version after it has been handled. -/
structure Handled (w : World) (tv new : TemplateVersion) : Prop where
  name : new.name = tv.name
  templateID : new.templateID = tv.templateID
  creationTimestamp : new.creationTimestamp = tv.creationTimestamp
  assigned : new.versionAssigned = true
  kept : tv.versionAssigned = true → new.version = tv.version
  number : tv.versionAssigned = false →
    new.version = latestVersion w.versions.objs tv.templateID + 1

theorem run_assignVersion (env : Env) (tv : TemplateVersion) (w : World) :
    (∃ err, (assignVersion env tv).run w = (.error err, w)) ∨
      ∃ new, (assignVersion env tv).run w = (.ok new, w) ∧ Handled w tv new ∧
        new.resourceVersion = tv.resourceVersion := by
  unfold assignVersion
  split
  · next h =>
    exact .inr ⟨tv, rfl, ⟨rfl, rfl, rfl, h, fun _ => rfl, fun hno => by simp [hno] at h⟩, rfl⟩
  next h =>
  cases hlist : env.list with
  | error err =>
    refine .inl ⟨err, run_bind_of_run_error ?_⟩
    simp only [run, getTemplateLatestVersion, hlist]
    rfl
  | ok u =>
    have hlatest : (getTemplateLatestVersion env tv.templateID).run w =
        (.ok (latestVersion w.versions.objs tv.templateID), w) := by
      simp only [run, getTemplateLatestVersion, hlist]
      rfl
    refine .inr ⟨_, run_bind_of_run_ok hlatest, ⟨rfl, rfl, rfl, rfl, ?_, fun _ => rfl⟩, rfl⟩
    exact fun hyes => absurd hyes h

theorem run_update (env : Env) (tv : TemplateVersion) (w : World) :
    ((update env tv).run w).2 = w ∨
      ∃ old, w.versions.get tv.name = some old ∧ old.resourceVersion = tv.resourceVersion ∧
        ((update env tv).run w).2 =
          ⟨w.versions.put { tv with resourceVersion := w.clock }, w.clock + 1⟩ := by
  have hstore : ((store tv).run w).2 = w ∨
      ∃ old, w.versions.get tv.name = some old ∧ old.resourceVersion = tv.resourceVersion ∧
        ((store tv).run w).2 =
          ⟨w.versions.put { tv with resourceVersion := w.clock }, w.clock + 1⟩ := by
    unfold run store
    cases hget : w.versions.get tv.name with
    | none => exact .inl rfl
    | some old =>
      dsimp only
      split
      · next hversion => exact .inr ⟨old, rfl, hversion, rfl⟩
      · exact .inl rfl
  unfold update
  cases env.update with
  | none => exact hstore
  | refused => exact .inl rfl
  | lost => exact hstore

/-- **A reconcile** leaves everything as it is, or replaces the version that it has read. -/
theorem run_onChanged (env : Env) (hcopy : w.Copy tv) :
    ((onChanged env tv).run w).2 = w ∨
      w.versions.get tv.name = some tv ∧ ∃ new, Handled w tv new ∧
        ((onChanged env tv).run w).2 = ⟨w.versions.put new, w.clock + 1⟩ := by
  unfold onChanged
  split
  · exact .inl rfl
  cases env.template with
  | error err => exact .inl rfl
  | ok template =>
    cases env.imagesReady with
    | error err => exact .inl rfl
    | ok isReady =>
      rw [ofExcept_ok_bind, ofExcept_ok_bind]
      obtain ⟨err, hrun⟩ | ⟨new, hrun, hhandled, hversion⟩ :=
        run_assignVersion env (tv.labelled template isReady) w
      · rw [run_bind_of_run_error hrun]
        exact .inl rfl
      rw [run_bind_of_run_ok hrun]
      unfold updateIfChanged
      split
      · obtain hsame | ⟨old, hget, hold, hput⟩ := run_update env new w
        · exact .inl hsame
        have hname : new.name = tv.name := hhandled.name
        rw [hname] at hget
        obtain rfl : old = tv := hcopy old hget (hold.trans hversion)
        refine .inr ⟨hget, { new with resourceVersion := w.clock }, ?_, hput⟩
        exact ⟨hhandled.name, hhandled.templateID, hhandled.creationTimestamp, hhandled.assigned,
          hhandled.kept, hhandled.number⟩
      · exact .inl rfl

/-! ### Runs -/

/-- The numbers of a template increase with the order. -/
def Ordered (w : World) : Prop :=
  ∀ u ∈ w.versions.objs, ∀ v ∈ w.versions.objs, u.templateID = v.templateID →
    u.versionAssigned = true → v.versionAssigned = true → less u v = true → v.version < u.version

theorem less_congr {u' : TemplateVersion} (htime : u.creationTimestamp = u'.creationTimestamp)
    (hname : u.name = u'.name) (v : TemplateVersion) :
    less u v = less u' v ∧ less v u = less v u' := by
  simp [less, htime, hname]

/-- No number of the template is greater than the one of the latest version. -/
theorem Ordered.le_latestVersion (h : Ordered w) (hu : u ∈ w.versions.objs)
    (hassigned : u.versionAssigned = true) :
    u.version ≤ latestVersion w.versions.objs u.templateID := by
  obtain hnone | ⟨v, hv, hid, hv', heq, hfirst⟩ := latestVersion_cases w.versions.objs u.templateID
  · exact absurd (hnone u hu rfl) (by simp [hassigned])
  rw [heq]
  by_cases hname : u.name = v.name
  · exact Nat.le_of_eq (congrArg TemplateVersion.version (Store.eq_of_key hu hv hname))
  · rcases less_or_less hname with hless | hless
    · simp [hfirst u hu rfl hassigned] at hless
    · exact Nat.le_of_lt (h v hv u hu hid hv' hassigned hless)

theorem Ordered.put (h : Ordered w) {new : TemplateVersion} (clock : Nat)
    (hnew : new.versionAssigned = true → ∀ v ∈ w.versions.objs, v.templateID = new.templateID →
      v.versionAssigned = true → (less new v = true → v.version < new.version) ∧
        (less v new = true → new.version < v.version)) :
    Ordered ⟨w.versions.put new, clock⟩ := by
  intro u hu v hv hid hu' hv' huv
  rcases Store.mem_put.1 hu with rfl | ⟨hold, -⟩ <;>
    rcases Store.mem_put.1 hv with rfl | ⟨hold', -⟩
  · simp [less_irrefl] at huv
  · exact (hnew hu' v hold' hid.symm hv').1 huv
  · exact (hnew hv' u hold hid hu').2 huv
  · exact h u hold v hold' hid hu' hv' huv

theorem Ordered.handled (h : Ordered w) (hget : w.versions.get tv.name = some tv)
    {new : TemplateVersion} (hnew : Handled w tv new)
    (horder : tv.versionAssigned = false → ∀ u ∈ w.versions.objs, u.templateID = tv.templateID →
      u.versionAssigned = true → less tv u = true) :
    Ordered ⟨w.versions.put new, w.clock + 1⟩ := by
  have htv := Store.mem_of_get hget
  refine h.put _ fun _ u hu hid hu' => ?_
  obtain ⟨hless, hless'⟩ := less_congr hnew.creationTimestamp hnew.name u
  rw [hnew.templateID] at hid
  rw [hless, hless']
  cases hassigned : tv.versionAssigned with
  | true =>
    rw [hnew.kept hassigned]
    exact ⟨h tv htv u hu hid.symm hassigned hu', h u hu tv htv hid hu' hassigned⟩
  | false =>
    rw [hnew.number hassigned, ← hid]
    refine ⟨fun _ => Nat.lt_succ_of_le (h.le_latestVersion hu hu'), fun huv => ?_⟩
    -- The version comes before all the others.
    exact absurd huv (by simp [less_asymm (horder hassigned u hu hid hu')])

theorem Ordered.next (h : Ordered w) (horder : w.InOrder e) (hnext : machine.next w e = some w') :
    Ordered w' := by
  cases e with
  | create tv =>
    simp only [machine, World.next, Option.bind_eq_bind, Option.bind_eq_some_iff] at hnext
    obtain ⟨_, hguard, hnext⟩ := hnext
    cases hnext
    obtain ⟨-, hassigned⟩ := (Option.guard_eq_some' _).1 hguard
    exact h.put _ fun hyes => absurd hyes (by simp [hassigned])
  | markDeleted name =>
    simp only [machine, World.next, Option.bind_eq_bind, Option.bind_eq_some_iff] at hnext
    obtain ⟨v, hget, hnext⟩ := hnext
    cases hnext
    have hmem := Store.mem_of_get hget
    exact h.put _ fun hv u hu hid hu' => ⟨h v hmem u hu hid.symm hv hu', h u hu v hmem hid hu' hv⟩
  | delete name =>
    cases hnext
    intro u hu v hv
    exact h u (Store.mem_delete.1 hu).1 v (Store.mem_delete.1 hv).1
  | onChanged tv env =>
    simp only [machine, World.next, Option.bind_eq_bind, Option.bind_eq_some_iff] at hnext
    obtain ⟨_, hguard, hnext⟩ := hnext
    cases hnext
    obtain hsame | ⟨hget, new, hnew, hput⟩ :=
      run_onChanged env ((Option.guard_eq_some' _).1 hguard)
    · rwa [hsame]
    · rw [hput]
      exact h.handled hget hnew horder

/-- **Template version numbers are unique**, in every run in which every version is numbered while
it comes before all those of its template that have a number. -/
theorem version_unique {w₀ : World} {events : List Event} (hfresh : w₀.Fresh)
    (horder : machine.Along World.InOrder w₀ events) (hrun : machine.run w₀ events = some w) :
    ∀ u ∈ w.versions.objs, ∀ v ∈ w.versions.objs, u.templateID = v.templateID →
      u.versionAssigned = true → v.versionAssigned = true → u.version = v.version → u = v := by
  have hinit : Ordered w₀ := fun u hu v hv _ hu' => absurd hu' (by simp [hfresh u hu])
  have hordered := Machine.run_invariant (fun _ _ _ h ho hnext => Ordered.next h ho hnext) hinit
    horder hrun
  intro u hu v hv hid hu' hv' heq
  by_cases hname : u.name = v.name
  · exact Store.eq_of_key hu hv hname
  rcases less_or_less hname with hless | hless
  · exact absurd (hordered u hu v hv hid hu' hv' hless) (by omega)
  · exact absurd (hordered v hv u hu hid.symm hv' hu' hless) (by omega)

namespace Sample

/-- A version as it is created. -/
def created (name : String) (creationTimestamp : Nat) : TemplateVersion :=
  ⟨name, ⟨"default", "linux"⟩, creationTimestamp, 0, false, none, [], none, false, 0⟩

/-- A version as it is handled, with the resource version that it got when it was created. -/
def unhandled (name : String) (creationTimestamp resourceVersion : Nat) : TemplateVersion :=
  { created name creationTimestamp with resourceVersion }

def env : Env :=
  ⟨.ok ⟨"linux", "VirtualMachineTemplate", "uid"⟩, .ok true, .ok (), .none, .other "unavailable"⟩

def empty : World := ⟨.empty, 0⟩

/-- Two versions, each handled when it has been created. -/
def inOrder : List Event :=
  [.create (created "a" 1), .onChanged (unhandled "a" 1 0) env,
    .create (created "b" 2), .onChanged (unhandled "b" 2 2) env]

/-- Three versions of one second, each handled when it has been created. -/
def oneSecond : List Event :=
  [.create (created "a" 1), .onChanged (unhandled "a" 1 0) env,
    .create (created "b" 1), .onChanged (unhandled "b" 1 2) env,
    .create (created "c" 1), .onChanged (unhandled "c" 1 4) env]

/-- Three versions, the first two of which are handled the other way round. -/
def outOfOrder : List Event :=
  [.create (created "a" 1), .create (created "b" 2),
    .onChanged (unhandled "b" 2 1) env, .onChanged (unhandled "a" 1 0) env,
    .create (created "c" 3), .onChanged (unhandled "c" 3 4) env]

/-- Two versions of the world have the same number. -/
def Twice (w : World) : Prop :=
  ∃ u ∈ w.versions.objs, ∃ v ∈ w.versions.objs, u ≠ v ∧ u.templateID = v.templateID ∧
    u.versionAssigned = true ∧ v.versionAssigned = true ∧ u.version = v.version
  deriving Decidable

end Sample

open Sample in
/-- Two versions that are handled in order have the numbers `1` and `2`. -/
theorem version_unique_inOrder : ∃ w, machine.run empty inOrder = some w ∧
    w.versions.objs.map TemplateVersion.version = [2, 1] ∧
    ∀ u ∈ w.versions.objs, ∀ v ∈ w.versions.objs, u.templateID = v.templateID →
      u.versionAssigned = true → v.versionAssigned = true → u.version = v.version → u = v := by
  have horder : machine.Along World.InOrder empty inOrder := by decide
  exact ⟨_, Machine.run_get (by decide), by decide,
    version_unique (by decide) horder (Machine.run_get _)⟩

open Sample in
/-- **The same number twice**: versions of one second, and versions that are handled out of order.
-/
theorem same_number :
    (∃ w, machine.run empty oneSecond = some w ∧ Twice w) ∧
      ∃ w, machine.run empty outOfOrder = some w ∧ Twice w := by
  decide

end Template

end Harvester
