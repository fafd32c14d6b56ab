import Harvester.Control.Machine
import Harvester.Control.Table

/-!
# Credentials of container registries

A pass of the controller writes the registry of the setting `containerd-registry` to a secret,
copies it to Rancher, and removes the credentials from the setting.  Since the setting has lost its
credentials at the next pass, the secret is written again only if the mirrors have changed.

`credentials_kept`: the secret holds, for every host, the credentials that the user has written
last, as long as a write with new mirrors has all the credentials, and one with the old mirrors no
new ones.  `credentials_lost` is a run in which the user changes a password.
-/

namespace Harvester

open Control

namespace ContainerdRegistry

/-- Lists and maps can be nil, which is not the same as empty. -/
structure Mirror where
  endpoints : Option (List String)
  rewrites : Option (Table String String)
  deriving DecidableEq

/-- Credentials. -/
structure AuthConfig where
  username : String
  password : String
  auth : String
  identityToken : String
  deriving DecidableEq, Repr

/-- The files for TLS. -/
structure TLSConfig where
  caFile : String
  certFile : String
  keyFile : String
  insecureSkipVerify : Bool
  deriving DecidableEq, Repr

/-- The configuration of a host. -/
structure RegistryConfig where
  auth : Option AuthConfig
  tls : Option TLSConfig
  deriving DecidableEq, Repr

/-- The value of the setting. -/
structure Registry where
  mirrors : Table String Mirror
  configs : Table String RegistryConfig
  deriving DecidableEq

section

variable (w : World) (r : Registry)

/-- The credentials for a host. -/
def Registry.authOf (host : String) : Option AuthConfig :=
  (r.configs.get host).bind RegistryConfig.auth

/-- A mirror that has been written and read again: YAML has no nil. -/
def Mirror.reread (m : Mirror) : Mirror :=
  ⟨some (m.endpoints.getD []), some (m.rewrites.getD .empty)⟩

/-- The registry that is read from the YAML of a registry. -/
def Registry.reread (r : Registry) : Registry := { r with mirrors := r.mirrors.map Mirror.reread }

/-- An empty map of rewrites becomes nil. -/
def Mirror.normal (m : Mirror) : Mirror :=
  { m with rewrites := if m.rewrites = some .empty then none else m.rewrites }

/-- The setting, where `none` is the empty value, the secret, the copy in Rancher, and the values
that the user has written, the last one first. -/
structure World where
  setting : Option Registry
  secret : Option (Option Registry)
  rancher : Option Registry
  written : List (Option Registry)
  deriving DecidableEq

/-- Whether the mirrors are the same; the comparison makes rewrites nil in place. -/
def isSameMirrors (fromSetting fromSecret : Table String Mirror) : Bool × Table String Mirror :=
  if fromSetting.entries.isEmpty && fromSecret.entries.isEmpty then (true, fromSetting)
  else if fromSetting.entries.isEmpty || fromSecret.entries.isEmpty then (false, fromSetting)
  else (fromSetting.map Mirror.normal = fromSecret.map Mirror.normal, fromSetting.map Mirror.normal)

/-- Whether the secret has to be written, and the registry of the setting then. -/
def isStaleSecret (secret : Option Registry) (registryFromSetting : Registry) : Bool × Registry :=
  match secret with
  | none => (true, registryFromSetting)
  | some data =>
    let (same, mirrors) := isSameMirrors registryFromSetting.mirrors data.reread.mirrors
    (!same, { registryFromSetting with mirrors })

/-- The setting without credentials. -/
def Registry.removeCredential : Registry :=
  { r with configs := r.configs.map fun config => { config with auth := none } }

/-- The copy is written. -/
def copyContainerdRegistryToRancher (newRegistries : Option Registry) (w : World) : World :=
  { w with rancher := newRegistries }

/-- The setting loses its credentials. -/
def removeCredentialInSetting (registry : Registry) (w : World) : World :=
  { w with setting := some registry.removeCredential }

/-- The secret is emptied. -/
def clearContainerdRegistrySecret : World :=
  match w.secret with
  | none => w
  | some _ => { w with secret := some none }

/-- A pass in which no request fails. -/
def syncContainerdRegistry : World :=
  match w.setting with
  | none => copyContainerdRegistryToRancher none (clearContainerdRegistrySecret w)
  | some registryFromSetting =>
    match w.secret with
    | none =>
      removeCredentialInSetting registryFromSetting
        (copyContainerdRegistryToRancher (some registryFromSetting)
          { w with secret := some (some registryFromSetting) })
    | some secret =>
      let (isStale, registry) := isStaleSecret secret registryFromSetting
      let data := if isStale then some registryFromSetting else secret
      removeCredentialInSetting registry
        (copyContainerdRegistryToRancher (data.map Registry.reread) { w with secret := some data })

/-- A write of the user, or a pass. -/
inductive Event where
  /-- The user writes the setting. -/
  | write (value : Option Registry)
  | pass

/-- The user writes the setting. -/
def World.write (value : Option Registry) : World :=
  { w with setting := value, written := value :: w.written }

/-- One step. -/
def World.next : Event → Option World
  | .write value => some (w.write value)
  | .pass => some (syncContainerdRegistry w)

/-- The system. -/
def machine : Machine World Event := ⟨World.next⟩

/-- Nothing has been written yet. -/
def fresh : World := ⟨none, none, none, []⟩

/-- The passes after a write have come to an end. -/
def World.Settled : Prop := syncContainerdRegistry w = w
  deriving Decidable

/-- The credentials of a host in the last write that had some, as far back as the host was there. -/
def expected : List (Option Registry) → String → Option AuthConfig
  | [], _ => none
  | none :: _, _ => none
  | some r :: rest, host =>
    match r.configs.get host with
    | none => none
    | some config =>
      match config.auth with
      | some a => some a
      | none => expected rest host

/-- The credentials of a host in the secret. -/
def World.secretAuth (host : String) : Option AuthConfig :=
  w.secret.join.bind fun data => data.authOf host

/-- The secret will be written when the setting is this registry. -/
def World.stale : Bool :=
  match w.secret with
  | none => true
  | some data => (isStaleSecret data r).1

/-- A host of the setting has credentials in the secret. -/
def World.HasAuth (host : String) : Prop :=
  (∃ r, w.setting = some r ∧ (r.configs.get host).isSome) ∧ (w.secretAuth host).isSome

/-- A write after the passes have come to an end, with mirrors that have endpoints, and with all the
credentials if the secret will be written, no new ones if it will not. -/
structure World.Fits : Prop where
  endpoints : ∀ e ∈ r.mirrors.entries, e.2.endpoints.isSome
  complete : w.stale r = true → ∀ host config, r.configs.get host = some config →
    config.auth = none → ¬ w.HasAuth host
  same : w.stale r = false → ∀ host a, r.authOf host = some a → w.secretAuth host = some a

/-- The condition on a step. -/
def World.Careful : Event → Prop
  | .write none => w.Settled
  | .write (some r) => w.Settled ∧ w.Fits r
  | .pass => True

end

variable {w w' : World} {r data : Registry} {e : Event}

theorem Mirror.normal_normal (m : Mirror) : m.normal.normal = m.normal := by
  unfold Mirror.normal
  by_cases h : m.rewrites = some .empty
  · simp
  · simp

theorem Mirror.normal_reread {m : Mirror} (h : m.endpoints.isSome) :
    m.reread.normal = m.normal := by
  obtain ⟨endpoints, hendpoints⟩ := Option.isSome_iff_exists.1 h
  unfold Mirror.normal Mirror.reread
  cases hrewrites : m.rewrites with
  | none => simp [hendpoints]
  | some t => simp [hendpoints]

theorem isSameMirrors_iff {ms ms' : Table String Mirror} :
    (isSameMirrors ms ms').1 = true ↔ ms.map Mirror.normal = ms'.map Mirror.normal := by
  have hempty (h : ms.map Mirror.normal = ms'.map Mirror.normal) :
      ms.entries.isEmpty = ms'.entries.isEmpty := by
    rw [← Table.isEmpty_map Mirror.normal ms, h, Table.isEmpty_map]
  unfold isSameMirrors
  split
  · next hboth =>
    simp only [Bool.and_eq_true, List.isEmpty_iff] at hboth
    simp [Table.map, hboth.1, hboth.2]
  split
  · next hboth hone =>
    refine iff_of_false (by simp) fun h => ?_
    rw [hempty h] at hboth hone
    cases hcase : ms'.entries.isEmpty <;> simp [hcase] at hboth hone
  · exact decide_eq_true_iff

theorem isSameMirrors_snd (ms ms' : Table String Mirror) :
    (isSameMirrors ms ms').2.map Mirror.normal = ms.map Mirror.normal := by
  unfold isSameMirrors
  split
  · rfl
  split
  · rfl
  · rw [Table.map_map]
    exact Table.map_congr fun e _ => e.2.normal_normal

theorem map_normal_reread {ms : Table String Mirror}
    (h : ∀ e ∈ ms.entries, e.2.endpoints.isSome) :
    (ms.map Mirror.reread).map Mirror.normal = ms.map Mirror.normal := by
  rw [Table.map_map]
  exact Table.map_congr fun e he => Mirror.normal_reread (h e he)

/-- The secret has the mirrors of a registry. -/
def World.SameMirrors (w : World) (r : Registry) : Prop :=
  ∃ data, w.secret = some (some data) ∧
    r.mirrors.map Mirror.normal = data.reread.mirrors.map Mirror.normal

theorem stale_eq_false : w.stale r = false ↔ w.SameMirrors r := by
  unfold World.stale World.SameMirrors isStaleSecret
  rcases w.secret with - | - | data
  · simp
  · simp
  · simp [isSameMirrors_iff]

/-- The setting has no credentials, and the next pass will not write the secret. -/
structure World.Synced (w : World) : Prop where
  stripped : ∀ r, w.setting = some r → ∀ host, r.authOf host = none
  mirrors : ∀ r, w.setting = some r → w.SameMirrors r
  kept : ∀ host a, expected w.written host = some a →
    (∃ r, w.setting = some r ∧ (r.configs.get host).isSome) ∧ w.secretAuth host = some a

/-- The registry that a pass leaves in the setting. -/
def World.compared (w : World) (r : Registry) : Registry :=
  match w.secret with
  | none => r
  | some data => (isStaleSecret data r).2

/-- **What a pass does with a registry**: the secret is the registry if it was stale. -/
theorem sync_of_registry (h : w.setting = some r) :
    (syncContainerdRegistry w).setting = some (w.compared r).removeCredential ∧
      (syncContainerdRegistry w).secret =
        (if w.stale r then some (some r) else w.secret) ∧
      (syncContainerdRegistry w).written = w.written := by
  unfold syncContainerdRegistry World.compared World.stale
  rw [h]
  rcases w.secret with - | data
  · exact ⟨rfl, rfl, rfl⟩
  · refine ⟨rfl, ?_, rfl⟩
    dsimp only
    split <;> rfl

theorem written_sync (w : World) : (syncContainerdRegistry w).written = w.written := by
  cases h : w.setting with
  | some r => exact (sync_of_registry h).2.2
  | none =>
    unfold syncContainerdRegistry clearContainerdRegistrySecret
    rw [h]
    dsimp only
    split <;> rfl

theorem configs_compared (w : World) (r : Registry) : (w.compared r).configs = r.configs := by
  unfold World.compared isStaleSecret
  rcases w.secret with - | - | data <;> rfl

theorem mirrors_compared (w : World) (r : Registry) :
    (w.compared r).mirrors.map Mirror.normal = r.mirrors.map Mirror.normal := by
  unfold World.compared isStaleSecret
  rcases w.secret with - | - | data
  · rfl
  · rfl
  · exact isSameMirrors_snd _ _

@[simp] theorem authOf_removeCredential (r : Registry) (host : String) :
    r.removeCredential.authOf host = none := by
  unfold Registry.authOf Registry.removeCredential
  cases h : r.configs.get host with
  | none => simp
  | some config => simp

theorem isSome_get_removeCredential (w : World) (r : Registry) (host : String) :
    ((w.compared r).removeCredential.configs.get host).isSome = (r.configs.get host).isSome := by
  simp [Registry.removeCredential, configs_compared]

/-- A pass on a registry whose mirrors are those of the secret afterwards. -/
theorem synced_sync (h : w.setting = some r)
    (hmirrors : (syncContainerdRegistry w).SameMirrors r)
    (hkept : ∀ host a, expected w.written host = some a → (r.configs.get host).isSome ∧
      (syncContainerdRegistry w).secretAuth host = some a) : (syncContainerdRegistry w).Synced := by
  obtain ⟨hsetting, -, hwritten⟩ := sync_of_registry h
  constructor
  · intro r' hr' host
    obtain rfl := Option.some.inj (hsetting.symm.trans hr')
    exact authOf_removeCredential _ host
  · intro r' hr'
    obtain rfl := Option.some.inj (hsetting.symm.trans hr')
    obtain ⟨data, hdata, hsame⟩ := hmirrors
    exact ⟨data, hdata, (mirrors_compared w r).trans hsame⟩
  · intro host a hexpected
    rw [hwritten] at hexpected
    obtain ⟨hhost, hauth⟩ := hkept host a hexpected
    exact ⟨⟨_, hsetting, (isSome_get_removeCredential w r host).trans hhost⟩, hauth⟩

theorem synced_of_none (hsetting : w.setting = none)
    (hexpected : ∀ host, expected w.written host = none) : w.Synced :=
  ⟨by simp [hsetting], by simp [hsetting], by simp [hexpected]⟩

theorem World.Synced.sync (h : w.Synced) : (syncContainerdRegistry w).Synced := by
  cases hsetting : w.setting with
  | none =>
    have hnone (host : String) : expected w.written host = none := by
      refine Option.eq_none_iff_forall_ne_some.2 fun a hexpected => ?_
      obtain ⟨⟨r, hr, -⟩, -⟩ := h.kept host a hexpected
      exact absurd (hsetting.symm.trans hr) (by simp)
    refine synced_of_none ?_ fun host => (written_sync w).symm ▸ hnone host
    unfold syncContainerdRegistry clearContainerdRegistrySecret
    rw [hsetting]
    dsimp only
    split
    · exact hsetting
    · rfl
  | some r =>
    have hstale := stale_eq_false.2 (h.mirrors r hsetting)
    have hsecret : (syncContainerdRegistry w).secret = w.secret := by
      rw [(sync_of_registry hsetting).2.1, hstale]
      rfl
    refine synced_sync hsetting ?_ fun host a hexpected => ?_
    · obtain ⟨data, hdata, hsame⟩ := h.mirrors r hsetting
      exact ⟨data, hsecret.trans hdata, hsame⟩
    obtain ⟨⟨r', hr', hhost⟩, hauth⟩ := h.kept host a hexpected
    obtain rfl := Option.some.inj (hsetting.symm.trans hr')
    refine ⟨hhost, ?_⟩
    rwa [World.secretAuth, hsecret]

theorem expected_eq_some {rest : List (Option Registry)} {host : String} {a : AuthConfig}
    (h : expected (some r :: rest) host = some a) : ∃ config, r.configs.get host = some config ∧
      (config.auth = some a ∨ config.auth = none ∧ expected rest host = some a) := by
  unfold expected at h
  split at h
  · simp at h
  next config hconfig =>
  refine ⟨config, hconfig, ?_⟩
  split at h
  · next hauth => exact .inl (hauth.trans h)
  · next hauth => exact .inr ⟨hauth, h⟩

/-- **A pass after a write that fits.** -/
theorem World.Synced.write (h : w.Synced) (hfits : w.Fits r) :
    (syncContainerdRegistry (w.write (some r))).Synced := by
  have hsetting : (w.write (some r)).setting = some r := rfl
  have hstale : (w.write (some r)).stale r = w.stale r := rfl
  have hsecret := (sync_of_registry hsetting).2.1
  rw [hstale] at hsecret
  cases hcase : w.stale r with
  | true =>
    -- The secret is the registry that has been written.
    rw [hcase] at hsecret
    refine synced_sync hsetting ⟨r, hsecret, (map_normal_reread hfits.endpoints).symm⟩
      fun host a hexpected => ?_
    obtain ⟨config, hconfig, hauth | ⟨hauth, hexpected⟩⟩ := expected_eq_some hexpected
    · simp [World.secretAuth, hsecret, Registry.authOf, hconfig, hauth]
    · obtain ⟨hhost, hold⟩ := h.kept host a hexpected
      exact absurd ⟨hhost, by simp [hold]⟩ (hfits.complete hcase host config hconfig hauth)
  | false =>
    -- The secret stays.
    rw [hcase] at hsecret
    have hsecret' : (syncContainerdRegistry (w.write (some r))).secret = w.secret := hsecret
    obtain ⟨data, hdata, hsame⟩ := stale_eq_false.1 hcase
    refine synced_sync hsetting ⟨data, hsecret'.trans hdata, hsame⟩ fun host a hexpected => ?_
    obtain ⟨config, hconfig, hauth⟩ := expected_eq_some hexpected
    refine ⟨by simp [hconfig], ?_⟩
    rw [World.secretAuth, hsecret']
    rcases hauth with hauth | ⟨-, hexpected⟩
    · exact hfits.same hcase host a (by simp [Registry.authOf, hconfig, hauth])
    · exact (h.kept host a hexpected).2

/-- A state after a pass, or one whose next pass leads to such a state. -/
def World.Inv (w : World) : Prop := w.Synced ∨ (syncContainerdRegistry w).Synced

theorem World.Inv.synced (h : w.Inv) (hsettled : w.Settled) : w.Synced := by
  rcases h with h | h
  · exact h
  · rwa [hsettled] at h

theorem World.Inv.next (h : w.Inv) (hcareful : w.Careful e) (hnext : machine.next w e = some w') :
    w'.Inv := by
  cases e with
  | pass =>
    cases hnext
    exact .inl (h.elim World.Synced.sync id)
  | write value =>
    cases hnext
    cases value with
    | none => exact .inl (synced_of_none rfl fun _ => rfl)
    | some r => exact .inr ((h.synced hcareful.1).write hcareful.2)

/-- **Credentials are kept.**  In every run whose writes fit, whenever the passes have come to an
end, the setting has no credentials, and for every host the secret holds those that the user has
written last. -/
theorem credentials_kept {events : List Event}
    (hcareful : machine.Along World.Careful fresh events)
    (hrun : machine.run fresh events = some w) (hsettled : w.Settled) :
    ∀ r, w.setting = some r → ∀ host config, r.configs.get host = some config →
      config.auth = none ∧
        ∀ a, expected w.written host = some a → w.secretAuth host = some a := by
  have hinit : fresh.Inv := .inl (synced_of_none rfl fun _ => rfl)
  have hinv := Machine.run_invariant (fun _ _ _ h hc hnext => World.Inv.next h hc hnext) hinit
    hcareful hrun
  have hsynced := hinv.synced hsettled
  intro r hr host config hconfig
  refine ⟨?_, fun a hexpected => (hsynced.kept host a hexpected).2⟩
  have hnone := hsynced.stripped r hr host
  simpa [Registry.authOf, hconfig] using hnone

namespace Sample

/-- A registry with one mirror and one host with a password. -/
def registry (endpoint password : String) : Registry where
  mirrors := ⟨[("docker.io", ⟨some [endpoint], none⟩)], by simp⟩
  configs := ⟨[("docker.io", ⟨some ⟨"user", password, "", ""⟩, none⟩)], by simp⟩

theorem fits_registry {endpoint password : String}
    (h : w.stale (registry endpoint password) = true) :
    w.Fits (registry endpoint password) where
  endpoints := by simp [registry]
  complete _ host config hconfig hauth := by
    simp only [registry, Table.get, Option.map_eq_some_iff] at hconfig
    obtain ⟨entry, hentry, rfl⟩ := hconfig
    have hmem := List.mem_of_find?_eq_some hentry
    simp only [List.mem_singleton] at hmem
    simp [hmem] at hauth
  same hsame := by simp [h] at hsame

/-- The user writes a registry, and the passes come to an end. -/
def change (r : Registry) : List Event := [.write (some r), .pass, .pass]

end Sample

open Sample in
/-- A password is written, and later another one with another mirror. -/
theorem credentials_kept_mirrors : ∃ w,
    machine.run fresh (change (registry "a" "1") ++ change (registry "b" "2")) = some w ∧
      w.secretAuth "docker.io" = some ⟨"user", "2", "", ""⟩ := by
  have hcareful : machine.Along World.Careful fresh
      (change (registry "a" "1") ++ change (registry "b" "2")) := by
    refine ⟨⟨by decide, fits_registry (by decide)⟩, fun w₁ hw₁ => ?_⟩
    cases hw₁
    refine ⟨trivial, fun w₂ hw₂ => ⟨trivial, fun w₃ hw₃ => ?_⟩⟩
    cases hw₂
    cases hw₃
    refine ⟨⟨by decide, fits_registry (by decide)⟩, fun _ _ => ?_⟩
    exact ⟨trivial, fun _ _ => ⟨trivial, fun _ _ => trivial⟩⟩
  have hkept := credentials_kept hcareful (Machine.run_get (by decide))
    (by decide) (registry "b" "2").removeCredential (by decide) "docker.io"
    ⟨none, none⟩ (by decide)
  exact ⟨_, Machine.run_get _, hkept.2 _ (by decide)⟩

open Sample in
/-- **Credentials that are lost**: the user changes the password and keeps the mirrors. -/
theorem credentials_lost : ∃ w,
    machine.run fresh (change (registry "a" "1") ++ change (registry "a" "2")) = some w ∧
      w.Settled ∧ w.setting = some (registry "a" "2").removeCredential ∧
      expected w.written "docker.io" = some ⟨"user", "2", "", ""⟩ ∧
      w.secretAuth "docker.io" = some ⟨"user", "1", "", ""⟩ := by
  decide

end ContainerdRegistry

end Harvester
