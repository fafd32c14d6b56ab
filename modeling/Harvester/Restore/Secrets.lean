import Harvester.Restore.OldVolumes

/-!
# Which secrets a restore writes

`RestoreSecrets` for a new VM joins the names of its secrets from the name of the VM and the name of
the secret in the backup.  A secret that exists under such a name gets the data of the backup,
whoever owns it.  `secrets_kept_iff` says when the secrets of others are left alone.
-/

namespace Harvester

namespace Restore

open Control Action

/-- The secret belongs to the VM. -/
def Secret.OwnedBy (secret : Secret) (vm : VM) : Prop :=
  ∃ r ∈ secret.ownerReferences, r.uid = vm.uid
  deriving Decidable

/-- The key of the secret that is restored for a new VM. -/
def secretKey (vmr : VMRestore) (sb : SecretBackup) : Key :=
  ⟨vmr.ns, buildSecretRefName vmr.spec.targetName sb.name⟩

/-- The cache shows these secrets. -/
def Env.seeing (env : Env) (secrets : Store Secret.key) (fault : Call → Fault) : Env :=
  { env with secret := lookup secrets, fault }

/-- The restore leaves the secrets alone that do not belong to the VM, whatever fails.  (A request
that is sent after a look at an old cache is refused.) -/
def KeepsSecrets (env : Env) (vmr : VMRestore) (vmb : VMBackup) (vm : VM) (s : Server) : Prop :=
  ∀ fault k secret, s.secrets.get k = some secret → ¬ secret.OwnedBy vm →
    ((restoreSecrets (env.seeing s.secrets fault) vmr vmb vm).run s).2.secrets.get k = some secret

variable {env : Env} {vmr : VMRestore} {vmb : VMBackup} {vm : VM} {s : Server}
  {secrets : Store Secret.key} {fault : Call → Fault}

/-- The round of `RestoreSecrets` for one secret of a new VM. -/
def restoreSecret (env : Env) (vmr : VMRestore) (vm : VM) (sb : SecretBackup × Nat) : Act Unit :=
  buildAndApplySecret env vmr.ns (buildVMOwnerReferences vm) (secretKey vmr sb.1).name sb.1.data
    sb.2

theorem restoreSecrets_newVM (hnew : vmr.spec.newVM = true) :
    restoreSecrets env vmr vmb vm =
      forEach (restoreSecret env vmr vm) vmb.secretBackups.zipIdx := by
  simp only [restoreSecrets, hnew]
  rfl

/-- What a round does: it creates a secret, or it gives an existing one other data. -/
theorem restoreSecret_eq (sb : SecretBackup × Nat) :
    restoreSecret (env.seeing secrets fault) vmr vm sb = match secrets.get (secretKey vmr sb.1) with
      | none => request (fault (.writeSecret sb.2)) requestFailed (createSecret
          ⟨vmr.ns, (secretKey vmr sb.1).name, buildVMOwnerReferences vm, sb.1.data⟩)
      | some secret => if secret.data = sb.1.data then pure ()
          else request (fault (.writeSecret sb.2)) requestFailed
            (putSecret { secret with data := sb.1.data }) := by
  unfold restoreSecret buildAndApplySecret
  simp only [Env.seeing, lookup, secretKey]
  rcases secrets.get ⟨vmr.ns, _⟩ with _ | secret <;> rfl

/-- A round keeps the secrets of others, if it need not change their data. -/
theorem restoreSecret_preserves {sb : SecretBackup × Nat}
    (h : ∀ secret, secrets.get (secretKey vmr sb.1) = some secret →
      secret.OwnedBy vm ∨ secret.data = sb.1.data) :
    Preserves (fun s => ∀ k secret, secrets.get k = some secret → ¬ secret.OwnedBy vm →
      s.secrets.get k = some secret) (restoreSecret (env.seeing secrets fault) vmr vm sb) := by
  rw [restoreSecret_eq]
  split
  · next hnone =>
    refine .request fun s hs => ?_
    simp only [run, createSecret]
    split
    · exact hs
    · intro k secret hk howned
      refine (Store.get_put_of_ne _ ?_).trans (hs k secret hk howned)
      rintro rfl
      exact absurd (hnone.symm.trans hk) (by simp)
  · next found hfound =>
    split
    · exact .pure _
    · next hdata =>
      have hfoundOwned := (h found hfound).resolve_right hdata
      refine .request fun s hs => ?_
      simp only [run, putSecret]
      split
      · exact hs
      · intro k secret hk howned
        refine (Store.get_put_of_ne _ ?_).trans (hs k secret hk howned)
        rintro rfl
        have hkey : found.key = secretKey vmr sb.1 := Store.key_of_get hfound
        have hsame := hfound.symm.trans (hkey ▸ hk)
        exact howned (Option.some.inj hsame ▸ hfoundOwned)

theorem run_restoreSecret (env : Env) (vm : VM) {sb : SecretBackup × Nat}
    (hs : s.secrets.get (secretKey vmr sb.1) = secrets.get (secretKey vmr sb.1)) :
    ∃ s' secret,
      (restoreSecret (env.seeing secrets fun _ => .none) vmr vm sb).run s = (.ok (), s') ∧
      s'.secrets.get (secretKey vmr sb.1) = some secret ∧ secret.data = sb.1.data ∧
      ∀ k ≠ secretKey vmr sb.1, s'.secrets.get k = s.secrets.get k := by
  rw [restoreSecret_eq]
  rcases hfound : secrets.get (secretKey vmr sb.1) with _ | found
  · rw [hfound] at hs
    let secret : Secret := ⟨vmr.ns, (secretKey vmr sb.1).name, buildVMOwnerReferences vm, sb.1.data⟩
    refine ⟨{ s with secrets := s.secrets.put secret }, secret, ?_,
      Store.get_put_self _ secret, rfl,
      fun k hk => Store.get_put_of_ne _ hk⟩
    have hnone : s.secrets.get secret.key = none := hs
    simp only [request_none, run, createSecret] at hnone ⊢
    rw [hnone]
  · rw [hfound] at hs
    let secret := { found with data := sb.1.data }
    have hkey : secret.key = secretKey vmr sb.1 := Store.key_of_get (v := found) hfound
    dsimp only
    split
    · next hdata => exact ⟨s, found, rfl, hs, hdata, fun _ _ => rfl⟩
    · refine ⟨{ s with secrets := s.secrets.put secret }, secret, ?_,
        hkey ▸ Store.get_put_self _ secret, rfl, fun k hk => Store.get_put_of_ne _ (hkey ▸ hk)⟩
      simp only [request_none, run, putSecret] at hkey ⊢
      rw [hkey, hs]

/-- Without failures every secret gets the data of the backup, if the names are distinct. -/
theorem run_restoreSecrets (env : Env) (vmr : VMRestore) (vm : VM) (sbs : List (SecretBackup × Nat))
    (hnames : ((sbs.map Prod.fst).map SecretBackup.name).Nodup)
    (hs : ∀ sb ∈ sbs, s.secrets.get (secretKey vmr sb.1) = secrets.get (secretKey vmr sb.1)) :
    let s' := ((forEach (restoreSecret (env.seeing secrets fun _ => .none) vmr vm) sbs).run s).2
    (∀ sb ∈ sbs, ∃ secret, s'.secrets.get (secretKey vmr sb.1) = some secret ∧
      secret.data = sb.1.data) ∧
    ∀ k, (∀ sb ∈ sbs, k ≠ secretKey vmr sb.1) → s'.secrets.get k = s.secrets.get k := by
  induction sbs generalizing s with
  | nil => exact ⟨by simp, fun _ _ => rfl⟩
  | cons sb sbs ih =>
    rw [List.map_cons, List.map_cons, List.nodup_cons] at hnames
    have hne : ∀ other ∈ sbs, secretKey vmr other.1 ≠ secretKey vmr sb.1 := by
      intro other hother heq
      have hname := congrArg Key.name heq
      simp only [secretKey, buildSecretRefName, String.append_right_inj] at hname
      exact hnames.1 (List.mem_map.2 ⟨other.1, List.mem_map_of_mem hother, hname⟩)
    rw [List.forall_mem_cons] at hs
    obtain ⟨v, secret, hrun, hget, hdata, hframe⟩ := run_restoreSecret env vm hs.1
    have hrest := ih hnames.2 fun other hother =>
      (hframe _ (hne other hother)).trans (hs.2 other hother)
    simp only [forEach, run_bind_of_run_ok hrun, List.forall_mem_cons]
    refine ⟨⟨⟨secret, ?_, hdata⟩, hrest.1⟩, fun k hk => ?_⟩
    · rw [hrest.2 _ fun other hother => (hne other hother).symm, hget]
    · rw [hrest.2 k hk.2, hframe k hk.1]

/-- **The secrets of others** are left alone by a restore to a new VM, whatever fails, if and only
if each of them that has the name of a restored secret has the data of the backup already. -/
theorem secrets_kept_iff (hnew : vmr.spec.newVM = true)
    (hnames : (vmb.secretBackups.map SecretBackup.name).Nodup) :
    KeepsSecrets env vmr vmb vm s ↔
    ∀ sb ∈ vmb.secretBackups, ∀ secret, s.secrets.get (secretKey vmr sb) = some secret →
      secret.OwnedBy vm ∨ secret.data = sb.data := by
  simp only [KeepsSecrets, restoreSecrets_newVM hnew]
  constructor
  · intro hkept sb hsb secret hsecret
    obtain ⟨i, hi⟩ := List.mem_iff_getElem?.1 hsb
    have hrun := run_restoreSecrets (s := s) env vmr vm vmb.secretBackups.zipIdx
      (by rwa [List.zipIdx_map_fst]) fun _ _ => rfl
    obtain ⟨secret', hget, hdata⟩ := hrun.1 (sb, i) (List.mk_mem_zipIdx_iff_getElem?.2 hi)
    by_cases howned : secret.OwnedBy vm
    · exact .inl howned
    · have hsame := (hkept _ _ secret hsecret howned).symm.trans hget
      exact .inr (Option.some.inj hsame ▸ hdata)
  · intro h fault k secret hsecret howned
    refine Preserves.forEach (fun sb hsb => restoreSecret_preserves (h sb.1 ?_)) s
      (fun _ _ hk _ => hk) k secret hsecret howned
    exact List.fst_mem_of_mem_zipIdx hsb

namespace Sample

/-- A backup with one secret. -/
def secretBackup : VMBackup := { backup with secretBackups := [⟨"creds", [("user", "b")]⟩] }

/-- A restore of it to the new VM `web`. -/
def newVMRestore : VMRestore :=
  { restore with spec := { restore.spec with targetName := "web", newVM := true } }

/-- The secret `web-creds` of another VM. -/
def foreign (user : String) : Secret :=
  ⟨"default", "web-creds", [⟨"VirtualMachine", "web-app", "uid-app", true, true⟩], [("user", user)]⟩

/-- A server with this secret. -/
def foreignServer (user : String) : Server :=
  { twoVMs.server with secrets := Store.empty.put (foreign user) }

end Sample

open Sample in
/-- A secret of another VM that has the data of the backup. -/
theorem secrets_kept_iff_same_data : KeepsSecrets twoVMs.env newVMRestore
    secretBackup (Sample.vm "web" "new") (foreignServer "b") := by
  refine (secrets_kept_iff rfl (by decide)).2 fun sb hsb secret hsecret => .inr ?_
  obtain rfl := List.mem_singleton.1 hsb
  have hforeign : some (foreign "b") = some secret := hsecret
  exact Option.some.inj hforeign ▸ rfl

open Sample in
/-- **A secret is overwritten**: `web-creds` of another VM gets the data of `creds` of the VM `web`.
-/
theorem foreign_secret_overwritten : ¬ KeepsSecrets twoVMs.env newVMRestore
    secretBackup (Sample.vm "web" "new") (foreignServer "a") := by
  intro hkept
  have hsame := hkept (fun _ => .none) ⟨"default", "web-creds"⟩ (foreign "a") rfl (by decide)
  exact absurd hsame (by decide)

end Restore

end Harvester
