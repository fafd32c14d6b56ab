import Harvester.Control.Machine
import Mathlib.Logic.Function.Basic

/-!
# Pod security labels

The setting `cluster-pod-security-standard` gives every namespace a pod security level, except for
those on its whitelist (`pkg/controller/master/setting/cluster_pod_security_standard.go`).  Only the
labels of a namespace with a marker are removed later.

The marker of a namespace that gets onto the whitelist is not removed with its labels, so that the
controller later takes the labels of a user for its own (`user_label_removed`).
`user_labels_kept_iff` says that nothing else goes wrong.
-/

namespace Harvester

namespace PodSecurity

open Control

/-- The labels of a namespace. -/
abbrev Labels := String → Option String

/-- The label with the level. -/
def enforceLevelLabel : String := "pod-security.kubernetes.io/enforce"

/-- The label with the version. -/
def enforceVersionLabel : String := "pod-security.kubernetes.io/enforce-version"

/-- The marker. -/
def harvesterManagedPSSKey : String := "pss.harvesterhci.io/managed"

/-- The value of the marker. -/
def harvesterManagedPSSValue : String := "true"

/-- The setting; the namespaces of Harvester are always on the whitelist. -/
structure PodSecuritySetting where
  enabled : Bool
  whitelist : List String
  restrictedNamespaces : List String
  privilegedNamespaces : List String

/-- A namespace. -/
structure Namespace where
  name : String
  deleting : Bool
  labels : Labels

section

variable (pss : PodSecuritySetting) (ns : Namespace)

/-- Set or remove a label. -/
def Namespace.set (key : String) (value : Option String) : Namespace :=
  { ns with labels := Function.update ns.labels key value }

/-- The namespace gets its level. -/
def applyPSSLabel (value : String) : Namespace :=
  ((ns.set enforceLevelLabel (some value)).set harvesterManagedPSSKey
    (some harvesterManagedPSSValue)).set enforceVersionLabel (some "latest")

/-- Remove the level and its version. -/
def dropEnforce : Namespace := (ns.set enforceLevelLabel none).set enforceVersionLabel none

/-- The pass for a namespace. -/
def reconcileNamespace : Namespace :=
  if ns.deleting then ns
  else if ns.name ∈ pss.whitelist then
    if (ns.labels harvesterManagedPSSKey).isSome then dropEnforce ns else ns
  else if ns.name ∈ pss.restrictedNamespaces then applyPSSLabel ns "restricted"
  else if ns.name ∈ pss.privilegedNamespaces then applyPSSLabel ns "privileged"
  else applyPSSLabel ns "baseline"

/-- The labels are removed. -/
def cleanupManagedPSSLabels : Namespace :=
  if ns.labels harvesterManagedPSSKey = some harvesterManagedPSSValue then
    (dropEnforce ns).set harvesterManagedPSSKey none
  else ns

/-- What `syncPodSecuritySetting` does to a namespace. -/
def syncPodSecuritySetting : Namespace :=
  if pss.enabled then reconcileNamespace pss ns else cleanupManagedPSSLabels ns

end

/-- The account of Harvester. -/
def harvesterSAName : String := "system:serviceaccount:harvester-system:harvester"

/-- The labels that the webhook guards. -/
def pssLabels : List String :=
  [enforceLevelLabel, enforceVersionLabel, "pod-security.kubernetes.io/audit",
    "pod-security.kubernetes.io/audit-version", "pod-security.kubernetes.io/warn",
    "pod-security.kubernetes.io/warn-version", harvesterManagedPSSKey]

/-- The webhook of namespaces. -/
def validatePSSOnNamespaceUpdate (user : String) (pss : PodSecuritySetting) (ns : Namespace)
    (newLabels : Labels) : Except String Unit :=
  if user = harvesterSAName ∨ pss.enabled = false ∨ ns.name ∈ pss.whitelist then .ok ()
  else if ∃ key ∈ pssLabels, (newLabels key).getD "" ≠ (ns.labels key).getD "" then
    .error ("cluster-pod-security-standard is enabled, PSS level can only be changed by cluster " ++
      "admin via the setting")
  else .ok ()

/-- The setting and a namespace. -/
structure State where
  pss : PodSecuritySetting
  ns : Namespace

/-- What happens to them. -/
inductive Event where
  | setting (pss : PodSecuritySetting)
  | pass
  | edit (user : String) (labels : Labels)

/-- The system. -/
def machine : Machine State Event where
  next s
    | .setting pss => some { s with pss }
    | .pass => some { s with ns := syncPodSecuritySetting s.pss s.ns }
    | .edit user labels =>
      match validatePSSOnNamespaceUpdate user s.pss s.ns labels with
      | .ok () => some { s with ns := { s.ns with labels } }
      | .error _ => none

/-- The setting does not ask for a level. -/
def Exempt (pss : PodSecuritySetting) (ns : Namespace) : Prop :=
  pss.enabled = true → ns.name ∈ pss.whitelist
  deriving Decidable

/-- The namespace stays exempt, and nobody sets the marker by hand. -/
def Later (s : State) : Event → Prop
  | .setting pss => Exempt pss s.ns
  | .pass => True
  | .edit _ labels => labels harvesterManagedPSSKey = s.ns.labels harvesterManagedPSSKey

/-- A pass removes the labels. -/
def Marked (ns : Namespace) : Prop :=
  if ns.deleting then ns.labels harvesterManagedPSSKey = some harvesterManagedPSSValue
  else ns.labels harvesterManagedPSSKey ≠ none
  deriving Decidable

/-- The next pass leaves the enforce labels as they are. -/
def Kept (s : State) : Prop :=
  ∀ key ∈ [enforceLevelLabel, enforceVersionLabel],
    (syncPodSecuritySetting s.pss s.ns).labels key = s.ns.labels key

theorem sync_of_not_marked {pss : PodSecuritySetting} {ns : Namespace} (hexempt : Exempt pss ns)
    (hmarked : ¬ Marked ns) : syncPodSecuritySetting pss ns = ns := by
  cases henabled : pss.enabled with
  | true =>
    cases hdeleting : ns.deleting with
    | true => simp [syncPodSecuritySetting, reconcileNamespace, henabled, hdeleting]
    | false =>
      have hnone : ns.labels harvesterManagedPSSKey = none := by
        simpa [Marked, hdeleting] using hmarked
      simp [syncPodSecuritySetting, reconcileNamespace, henabled, hexempt henabled, hnone]
  | false =>
    have hne : ns.labels harvesterManagedPSSKey ≠ some harvesterManagedPSSValue := by
      intro heq
      refine hmarked ?_
      cases hdeleting : ns.deleting <;> simp [Marked, heq]
    simp [syncPodSecuritySetting, cleanupManagedPSSLabels, henabled, hne]

theorem inv_step {s s' : State} {l : Event} (h : Exempt s.pss s.ns ∧ ¬ Marked s.ns)
    (hlater : Later s l) (hnext : machine.next s l = some s') :
    Exempt s'.pss s'.ns ∧ ¬ Marked s'.ns := by
  cases l with
  | setting pss =>
    cases hnext
    exact ⟨hlater, h.2⟩
  | pass =>
    cases hnext
    simpa only [sync_of_not_marked h.1 h.2] using h
  | edit user labels =>
    simp only [machine] at hnext
    split at hnext
    · cases hnext
      refine ⟨h.1, fun hmarked => h.2 ?_⟩
      simpa only [Marked, show labels harvesterManagedPSSKey = _ from hlater] using hmarked
    · cases hnext

theorem sync_of_marked {pss : PodSecuritySetting} {ns : Namespace} (hmarked : Marked ns)
    (henabled : pss.enabled = !ns.deleting) (hlisted : ns.name ∈ pss.whitelist) :
    (syncPodSecuritySetting pss ns).labels enforceLevelLabel = none := by
  have hversion : enforceLevelLabel ≠ enforceVersionLabel := by decide
  have hkey : enforceLevelLabel ≠ harvesterManagedPSSKey := by decide
  cases hdeleting : ns.deleting with
  | true =>
    have hkeyed : ns.labels harvesterManagedPSSKey = some harvesterManagedPSSValue := by
      simpa [Marked, hdeleting] using hmarked
    simp [syncPodSecuritySetting, henabled, hdeleting, cleanupManagedPSSLabels, hkeyed, dropEnforce,
      Namespace.set, hversion, hkey]
  | false =>
    have hsome : (ns.labels harvesterManagedPSSKey).isSome := by
      simpa [Marked, hdeleting, Option.isSome_iff_ne_none] using hmarked
    simp [syncPodSecuritySetting, henabled, hdeleting, reconcileNamespace, hlisted, hsome,
      dropEnforce, Namespace.set, hversion]

/-- **The labels of a user are kept by all later passes**, for as long as the namespace is on the
whitelist or the setting is disabled, if and only if the namespace is not marked. -/
theorem user_labels_kept_iff {s : State} (hexempt : Exempt s.pss s.ns) :
    (∀ ls s', machine.Along Later s ls → machine.run s ls = some s' → Kept s') ↔ ¬ Marked s.ns := by
  constructor
  · intro hkept hmarked
    -- The controller looks at the namespace, and a user gives it a level.
    let pss : PodSecuritySetting := ⟨!s.ns.deleting, [s.ns.name], [], []⟩
    let ns := s.ns.set enforceLevelLabel (some "restricted")
    have hsame : ns.labels harvesterManagedPSSKey = s.ns.labels harvesterManagedPSSKey := by
      simp [ns, Namespace.set, show harvesterManagedPSSKey ≠ enforceLevelLabel by decide]
    have hlisted : s.ns.name ∈ pss.whitelist := List.mem_singleton_self _
    have hadmitted : validatePSSOnNamespaceUpdate "user" pss s.ns ns.labels = .ok () :=
      if_pos (.inr (.inr hlisted))
    have hmarked' : Marked ns := by
      unfold Marked
      rwa [hsame]
    have hlevel := hkept [.setting pss, .edit "user" ns.labels] ⟨pss, ns⟩
      ⟨fun _ => hlisted, fun t ht => by cases ht; exact ⟨hsame, fun _ _ => True.intro⟩⟩
      (by simp [Machine.run, machine, hadmitted]; rfl) enforceLevelLabel (by simp)
    rw [sync_of_marked hmarked' rfl hlisted] at hlevel
    simp [ns, Namespace.set] at hlevel
  · intro hmarked ls s' hlater hrun
    have hinv := Machine.run_invariant (I := fun s => Exempt s.pss s.ns ∧ ¬ Marked s.ns)
      (fun s l s' => inv_step) ⟨hexempt, hmarked⟩ hlater hrun
    intro key _
    rw [sync_of_not_marked hinv.1 hinv.2]

namespace Sample

def baseline : PodSecuritySetting := ⟨true, [], [], []⟩

/-- `apps` is exempt. -/
def whitelisting : PodSecuritySetting := ⟨true, ["apps"], [], []⟩

def ns : Namespace := ⟨"apps", false, fun _ => none⟩

/-- The marker, and the level that a user asks for. -/
def labels : Labels :=
  ((ns.set harvesterManagedPSSKey "true").set enforceLevelLabel "restricted").labels

end Sample

open Sample in
/-- A namespace that was never managed. -/
theorem user_labels_kept_sample : ∃ s, machine.run ⟨whitelisting, ns⟩
    [.edit "user" (ns.set enforceLevelLabel "restricted").labels] = some s ∧ Kept s := by
  have hlater : machine.Along Later ⟨whitelisting, ns⟩
      [.edit "user" (ns.set enforceLevelLabel "restricted").labels] :=
    ⟨rfl, fun _ _ => True.intro⟩
  exact ⟨_, Machine.run_get (by decide),
    (user_labels_kept_iff (by decide)).2 (by decide) _ _ hlater (Machine.run_get _)⟩

open Sample in
/-- **A label of a user is removed**: the namespace was managed, then whitelisted and reconciled. -/
theorem user_label_removed : ∃ s,
    machine.run ⟨baseline, ns⟩ [.pass, .setting whitelisting, .pass, .edit "user" labels] = some s ∧
    s.ns.labels enforceLevelLabel = some "restricted" ∧
    (syncPodSecuritySetting s.pss s.ns).labels enforceLevelLabel = none := by
  decide

end PodSecurity

end Harvester
