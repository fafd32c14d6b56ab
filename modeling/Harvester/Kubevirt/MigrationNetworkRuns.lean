import Harvester.Control.Machine
import Harvester.Kubevirt.MigrationNetwork

/-!
# Runs of the migration network controller

The user writes values of the setting, and reconciles read some version of it, with every request
refused or its answer lost.  When the saved hash is the hash of the value, the controller does not
act again.

`network_of_hash` says when the network of KubeVirt is then the NAD made for the value, and no other
NAD is left.  The hash is saved on failures as well, and `failure_saved` shows what is left then.
-/

namespace Harvester

open Control Action

namespace MigrationNetwork

/-! ### Steps -/

/-- A reconcile, or a write of the user. -/
inductive Event where
  /-- A reconcile that reads a version of the setting. -/
  | reconcile (number : Nat) (env : Env)
  | write (value : String)

section

variable (L : Lib)

/-- One step. -/
def World.next (w : World) : Event → Option World
  | .reconcile number env => do
    guard (number ≤ w.settings.now)
    pure ((onVMMigrationNetworkChange L env ⟨number, w.settings.get number⟩).run w).2
  | .write value => some { w with settings := w.settings.push { w.settings.live with value } }

/-- The system. -/
def machine : Machine World Event := ⟨World.next L⟩

end

/-- A cluster in which the setting has not been used. -/
structure World.Fresh (w : World) : Prop where
  value : w.settings.Since 0 fun s => s.value = ""
  hash : w.settings.live.hash = none
  nad : w.settings.live.nad = none
  network : w.kubevirts.live.network = none
  nads : w.nads.objs = []

/-- The NAD is the one that is made for a value. -/
structure Nad.MadeFor (L : Lib) (nad : Nad) (value : String) : Prop where
  hash : nad.hash = L.sha1 value
  config : ∃ config, L.parseConfig value = .ok config ∧ nad.config = createBridgeConfig L config

/-- The network is the one of a value. -/
def World.NetworkOf (L : Lib) (w : World) (value : String) : Prop :=
  (value = "" → w.kubevirts.live.network = none) ∧
    (value ≠ "" → ∃ nad ∈ w.nads.objs, nad.MadeFor L value ∧
      w.kubevirts.live.network = some nad.name)

variable {L : Lib} {w w' : World} {s : Setting} {settings : History Setting}
  {nads : Store Nad.name} {env : Env} {e : Event} {value : String}

/-! ### The values -/

/-- A value that the setting has had. -/
def Had (settings : History Setting) (value : String) : Prop :=
  ∃ k ≤ settings.now, (settings.get k).value = value

theorem had_live (settings : History Setting) : Had settings settings.live.value :=
  ⟨settings.now, Nat.le_refl _, rfl⟩

theorem Had.push (h : Had settings value) (s : Setting) : Had (settings.push s) value := by
  obtain ⟨k, hk, hvalue⟩ := h
  refine ⟨k, Nat.le_succ_of_le hk, ?_⟩
  rwa [History.get_push_of_le hk]

theorem had_push : Had (settings.push s) value ↔ Had settings value ∨ s.value = value := by
  refine ⟨?_, fun h => h.elim (fun h => h.push s) ?_⟩
  · rintro ⟨k, hk, hvalue⟩
    rcases Nat.le_or_eq_of_le_succ hk with hold | rfl
    · rw [History.get_push_of_le hold] at hvalue
      exact .inl ⟨k, hold, hvalue⟩
    · exact .inr ((congrArg Setting.value (History.live_push settings s)).symm.trans hvalue)
  · rintro rfl
    exact ⟨_, Nat.le_refl _, congrArg Setting.value (History.live_push settings s)⟩

/-- No two of the values have the same hash. -/
def Apart (L : Lib) (settings : History Setting) : Prop :=
  ∀ a b, Had settings a → Had settings b → L.sha1 a = L.sha1 b → a = b

theorem Apart.push (h : Apart L settings)
    (hs : ∀ old, Had settings old → L.sha1 old = L.sha1 s.value → old = s.value) :
    Apart L (settings.push s) := by
  intro a b ha hb hsha1
  rcases had_push.1 ha with ha | rfl <;> rcases had_push.1 hb with hb | rfl
  · exact h a b ha hb hsha1
  · exact hs a ha hsha1
  · exact (hs b hb hsha1.symm).symm
  · rfl

/-! ### The NADs -/

/-- The annotation belongs to a value. -/
def Assigned (L : Lib) (s : Setting) (nads : Store Nad.name) (value : String) : Prop :=
  value = "" ∧ s.nad = none ∨
    value ≠ "" ∧ ∃ name, s.nad = some name ∧
      ∀ nad ∈ nads.objs, nad.name = name → nad.hash = L.sha1 value

/-- What holds of the NADs at any time: they are made for values that the setting has had, one for
each; besides the annotated one there is that of the value at most; and the annotation belongs to
the value whose hash is saved. -/
structure Known (L : Lib) (settings : History Setting) (nads : Store Nad.name) : Prop where
  made : ∀ nad ∈ nads.objs, ∃ value, Had settings value ∧ nad.MadeFor L value
  unique : ∀ a ∈ nads.objs, ∀ b ∈ nads.objs, a.hash = b.hash → a = b
  near : ∀ nad ∈ nads.objs, settings.live.nad = some nad.name ∨
    settings.live.value ≠ "" ∧ nad.hash = L.sha1 settings.live.value
  saved : settings.live.hash = none ∧ settings.live.nad = none ∨
    ∃ value, Had settings value ∧ settings.live.hash = some (L.sha1 value) ∧
      Assigned L settings.live nads value

theorem Assigned.mono {nads' : Store Nad.name} (h : Assigned L s nads value)
    (hnew : ∀ nad ∈ nads'.objs, nad ∈ nads.objs ∨ s.nad ≠ some nad.name) :
    Assigned L s nads' value := by
  refine h.imp_right fun ⟨hvalue, name, hname, hhash⟩ =>
    ⟨hvalue, name, hname, fun nad hnad heq => ?_⟩
  rcases hnew nad hnad with hold | hne
  · exact hhash nad hold heq
  · exact absurd (hname.trans (congrArg some heq.symm)) hne

theorem Known.delete (h : Known L settings nads) (name : String) :
    Known L settings (nads.delete name) where
  made nad hnad := h.made nad (Store.mem_delete.1 hnad).1
  unique a ha b hb := h.unique a (Store.mem_delete.1 ha).1 b (Store.mem_delete.1 hb).1
  near nad hnad := h.near nad (Store.mem_delete.1 hnad).1
  saved := h.saved.imp_right fun ⟨value, hhad, hhash, hassigned⟩ =>
    ⟨value, hhad, hhash, hassigned.mono fun _ hnad => .inl (Store.mem_delete.1 hnad).1⟩

theorem Known.put (h : Known L settings nads) {nad : Nad} (hvalue : settings.live.value ≠ "")
    (hmade : nad.MadeFor L settings.live.value) (hname : settings.live.nad ≠ some nad.name)
    (hnone : ∀ nad' ∈ nads.objs, nad'.hash ≠ L.sha1 settings.live.value) :
    Known L settings (nads.put nad) where
  made := Store.forall_mem_put ⟨_, had_live settings, hmade⟩ fun nad' hnad' _ => h.made nad' hnad'
  unique a ha b hb heq := by
    rcases Store.mem_put.1 ha with rfl | ⟨ha', -⟩ <;> rcases Store.mem_put.1 hb with rfl | ⟨hb', -⟩
    · rfl
    · exact absurd (heq.symm.trans hmade.hash) (hnone b hb')
    · exact absurd (heq.trans hmade.hash) (hnone a ha')
    · exact h.unique a ha' b hb' heq
  near := Store.forall_mem_put (.inr ⟨hvalue, hmade.hash⟩) fun nad' hnad' _ => h.near nad' hnad'
  saved := h.saved.imp_right fun ⟨value, hhad, hhash, hassigned⟩ => ⟨value, hhad, hhash,
    hassigned.mono (Store.forall_mem_put (.inr hname) fun _ hnad' _ => .inl hnad')⟩

/-! ### A change, step by step -/

/-- The value is empty or describes a network. -/
def Lib.Valid (L : Lib) (value : String) : Prop :=
  value = "" ∨ ∃ config, L.parseConfig value = .ok config

/-- The requests for the NAD of the value go through. -/
structure Env.Makes (env : Env) (w : World) : Prop where
  list : env.list = .ok ()
  create : env.create = .none
  name : w.nads.get env.name = none

/-- The requests go through, and the caches are current. -/
structure Env.Healthy (env : Env) (w : World) : Prop extends env.Makes w where
  kubevirt : env.kubevirt = .ok w.kubevirts.now
  updateKubevirt : env.updateKubevirt = .none
  cached : ∀ name, w.settings.live.nad = some name → (w.nads.get name).isSome →
    env.nadCached = .ok ()
  notCached : ∀ name, w.settings.live.nad = some name → w.nads.get name = none →
    ∃ key, env.nadCached = .error (.notFound key)
  delete : env.delete = .none

/-- How a step of a change of `w` ends, if everything goes well with a value in `V`. -/
structure Outcome (L : Lib) (env : Env) (w : World) {ε α : Type} (V : α → World → Prop)
    (r : Except ε α) (v : World) : Prop where
  settings : v.settings = w.settings
  known : Known L w.settings v.nads
  value : env.Healthy w → ∃ a, r = .ok a ∧ V a v

section

variable {ε α β : Type} {V : α → World → Prop} {r : Except ε α} {v : World}

theorem Outcome.mapError {ε' : Type} {g : ε → ε'} (h : Outcome L env w V r v) :
    Outcome L env w V (r.mapError g) v :=
  ⟨h.settings, h.known, fun hhealthy => by
    obtain ⟨a, rfl, ha⟩ := h.value hhealthy
    exact ⟨a, rfl, ha⟩⟩

theorem Outcome.bind {P : World → Prop} {V' : β → World → Prop} {m : Handler ε α}
    {f : α → Handler ε β} (hm : Triple P m (Outcome L env w V))
    (hf : ∀ a v, v.settings = w.settings → Known L w.settings v.nads →
      (env.Healthy w → V a v) → Outcome L env w V' ((f a).run v).1 ((f a).run v).2) :
    Triple P (m >>= f) (Outcome L env w V') := by
  refine .bind hm (fun a v hv => hf a v hv.settings hv.known fun hhealthy => ?_)
    fun e v hv => ⟨hv.settings, hv.known, fun hhealthy => ?_⟩
  · obtain ⟨_, ha, hV⟩ := hv.value hhealthy
    cases ha
    exact hV
  · obtain ⟨_, ha, -⟩ := hv.value hhealthy
    cases ha

theorem Outcome.request {m : Handler ε α} {fault : Fault} {e : ε}
    (hfault : env.Healthy w → fault = .none) (hsettings : v.settings = w.settings)
    (hknown : Known L w.settings v.nads) (h : Outcome L env w V (m.run v).1 (m.run v).2) :
    Outcome L env w V ((request fault e m).run v).1 ((request fault e m).run v).2 := by
  cases fault with
  | none => exact h
  | refused => exact ⟨hsettings, hknown, fun hhealthy => by cases hfault hhealthy⟩
  | lost => exact ⟨h.settings, h.known, fun hhealthy => by cases hfault hhealthy⟩

end

section

variable (hknown : Known L w.settings w.nads) (hvalid : L.Valid w.settings.live.value)
  (hname : w.settings.live.nad ≠ some env.name)

/-- A NAD of the value has been found, and the annotated one is as in `w`. -/
structure Found (L : Lib) (w : World) (nad : Nad) (v : World) : Prop where
  kubevirts : v.kubevirts = w.kubevirts
  get : ∀ name, w.settings.live.nad = some name → v.nads.get name = w.nads.get name
  mem : nad ∈ v.nads.objs
  hash : nad.hash = L.sha1 w.settings.live.value

include hknown hvalid hname

theorem createNad_outcome (hvalue : w.settings.live.value ≠ "")
    (hnone : ∀ nad ∈ w.nads.objs, nad.hash ≠ L.sha1 w.settings.live.value) :
    Triple (· = w) (createNad L env w.settings.live) (Outcome L env w (Found L w)) := by
  obtain ⟨config, hconfig⟩ := hvalid.resolve_left hvalue
  unfold createNad
  rw [hconfig]
  refine .mapError (Q := Outcome L env w (Found L w)) ?_ fun r v hv => hv.mapError
  rintro _ rfl
  refine Outcome.request (fun h => h.create) rfl hknown ?_
  unfold run putNad
  split
  · next hsome => exact ⟨rfl, hknown, fun h => by simp [h.name] at hsome⟩
  · refine ⟨rfl, hknown.put hvalue ⟨rfl, config, hconfig, rfl⟩ hname hnone, fun _ =>
      ⟨_, rfl, rfl, fun name h => ?_, Store.mem_put_self, rfl⟩⟩
    exact Store.get_put_of_ne _ fun heq => hname (h.trans (congrArg some heq))

theorem findOrCreateNad_outcome (hvalue : w.settings.live.value ≠ "") :
    Triple (· = w) (findOrCreateNad L env w.settings.live) (Outcome L env w (Found L w)) := by
  have hlist : Triple (· = w) (listNads env (L.sha1 w.settings.live.value)) fun r v => v = w ∧
      r = env.list.map fun _ =>
        w.nads.objs.filter fun nad => nad.hash = L.sha1 w.settings.live.value := by
    rintro _ rfl
    exact ⟨rfl, rfl⟩
  refine .bind hlist ?_ ?_
  · rintro items v ⟨rfl, hitems⟩
    obtain ⟨-, -, rfl⟩ := except_map_eq_ok.1 hitems.symm
    cases hfilter : v.nads.objs.filter fun nad => nad.hash = L.sha1 v.settings.live.value with
    | cons nad rest =>
      have hmem := hfilter ▸ List.mem_cons_self
      obtain ⟨hmem, hhash⟩ := List.mem_filter.1 hmem
      exact ⟨rfl, hknown, fun _ => ⟨nad, rfl, rfl, fun _ _ => rfl, hmem, of_decide_eq_true hhash⟩⟩
    | nil =>
      have hnone : ∀ nad ∈ v.nads.objs, nad.hash ≠ L.sha1 v.settings.live.value := by
        simpa using List.filter_eq_nil_iff.1 hfilter
      exact createNad_outcome hknown hvalid hname hvalue hnone v rfl
  · rintro e v ⟨rfl, he⟩
    exact ⟨rfl, hknown, fun h => by simp [h.list, Except.map] at he⟩

theorem nadFor_outcome : Triple (· = w) (nadFor L env w.settings.live) (Outcome L env w fun nad v =>
    v.kubevirts = w.kubevirts ∧
      (∀ name, w.settings.live.nad = some name → v.nads.get name = w.nads.get name) ∧
      (nad = none ↔ w.settings.live.value = "") ∧
      ∀ u, nad = some u → u ∈ v.nads.objs ∧ u.hash = L.sha1 w.settings.live.value) := by
  unfold nadFor
  split
  · next hvalue =>
    refine Outcome.bind (findOrCreateNad_outcome hknown hvalid hname hvalue) fun nad v hs hk hv =>
      ⟨hs, hk, fun hhealthy => ?_⟩
    have hv := hv hhealthy
    refine ⟨_, rfl, hv.kubevirts, hv.get, by simpa using hvalue, ?_⟩
    rintro u ⟨⟩
    exact ⟨hv.mem, hv.hash⟩
  · next hvalue =>
    rintro _ rfl
    exact ⟨rfl, hknown, fun _ => ⟨_, rfl, rfl, fun _ _ => rfl, by simpa using hvalue, by simp⟩⟩

end

section

variable {v : World} (hsettings : v.settings = w.settings) (hknown : Known L w.settings v.nads)

include hsettings hknown

theorem setNetwork_outcome {kubevirt : Version KubeVirt} (network : Option String)
    (hkubevirt : env.Healthy w → kubevirt = ⟨v.kubevirts.now, v.kubevirts.live⟩) :
    Outcome L env w (fun _ v' => v'.nads = v.nads ∧ v'.kubevirts.live.network = network)
      ((setNetwork env kubevirt network).run v).1 ((setNetwork env kubevirt network).run v).2 := by
  unfold setNetwork
  dsimp only
  split
  · refine Outcome.request (fun h => h.updateKubevirt) hsettings hknown ?_
    unfold run storeKubevirt
    split
    · next kubevirts hreplace =>
      refine ⟨hsettings, hknown, fun h => ⟨_, rfl, rfl, ?_⟩⟩
      rw [hkubevirt h, History.replace_now] at hreplace
      cases hreplace
      rw [History.live_push]
      rfl
    · next hreplace =>
      exact ⟨hsettings, hknown, fun h => by simp [hkubevirt h, History.replace_now] at hreplace⟩
  · next heq =>
    refine ⟨hsettings, hknown, fun h => ⟨_, rfl, rfl, ?_⟩⟩
    rw [hkubevirt h, not_not] at heq
    exact congrArg KubeVirt.network heq

/-- The NAD before is gone, unless it is the NAD of the value. -/
structure Replaced (w v : World) (nad : Option String) (v' : World) : Prop where
  kubevirts : v'.kubevirts = v.kubevirts
  mem_iff : ∀ u, u ∈ v'.nads.objs ↔
    u ∈ v.nads.objs ∧ (w.settings.live.nad = some u.name → nad = some u.name)

theorem replaceNad_outcome (nad : Option String) (hget : env.Healthy w →
      ∀ name, w.settings.live.nad = some name → v.nads.get name = w.nads.get name) :
    Outcome L env w (fun _ => Replaced w v nad)
      ((replaceNad env w.settings.live.nad nad).run v).1
      ((replaceNad env w.settings.live.nad nad).run v).2 := by
  have hsame (h : env.Healthy w → ∀ u ∈ v.nads.objs, w.settings.live.nad = some u.name →
      nad = some u.name) :
      Outcome L env w (fun _ => Replaced w v nad) (.ok () : Except Err Unit) v :=
    ⟨hsettings, hknown, fun hhealthy => ⟨_, rfl, rfl, fun u =>
      ⟨fun hu => ⟨hu, h hhealthy u hu⟩, And.left⟩⟩⟩
  cases hold : w.settings.live.nad with
  | none =>
    rw [hold] at hsame
    exact hsame (by simp)
  | some name =>
    rw [hold] at hsame
    unfold replaceNad
    dsimp only
    split
    · next hnad => exact hsame fun _ u _ h => hnad.trans h
    next hnad =>
    have hcache (h : env.Healthy w) : v.nads.get name = none ∧
        (∃ key, env.nadCached = .error (.notFound key)) ∨
        (v.nads.get name).isSome ∧ env.nadCached = .ok () := by
      rw [hget h name hold]
      cases hw : w.nads.get name with
      | none => exact .inl ⟨rfl, h.notCached name hold hw⟩
      | some old => exact .inr ⟨rfl, h.cached name hold (by simp [hw])⟩
    unfold removeOldNad
    split
    · next e he =>
      split
      · refine hsame fun h u hu hname => ?_
        rcases hcache h with ⟨hnone, -⟩ | ⟨-, hok⟩
        · exact absurd (Option.some.inj hname).symm (Store.not_mem_of_get_eq_none hnone hu)
        · cases he.symm.trans hok
      · next hfound =>
        refine ⟨hsettings, hknown, fun h => ?_⟩
        rcases hcache h with ⟨-, key, hkey⟩ | ⟨-, hok⟩
        · cases he.symm.trans hkey
          exact absurd rfl hfound
        · cases he.symm.trans hok
    · next hok =>
      refine Outcome.request (fun h => h.delete) hsettings hknown ?_
      unfold run dropNad
      split
      · next hnone =>
        refine ⟨hsettings, hknown, fun h => ?_⟩
        rcases hcache h with ⟨-, key, hkey⟩ | ⟨hsome, -⟩
        · cases hok.symm.trans hkey
        · simp [hnone] at hsome
      · refine ⟨hsettings, hknown.delete name, fun _ => ⟨_, rfl, rfl, fun u => ?_⟩⟩
        rw [Store.mem_delete, hold]
        refine and_congr_right fun _ => ⟨fun hne h => ?_, fun h heq => ?_⟩
        · exact absurd (Option.some.inj h).symm hne
        · exact hnad ((h (congrArg some heq.symm)).trans (congrArg some heq))

end

/-- What is left after a change: the NAD of the value. -/
structure Left (L : Lib) (s : Setting) (nads : Store Nad.name) (nad : Option Nad) : Prop where
  mem_iff : ∀ u, u ∈ nads.objs ↔ nad = some u
  hash : ∀ u, nad = some u → u.hash = L.sha1 s.value
  none_iff : nad = none ↔ s.value = ""

/-- **A change.**  If it does not fail, it leaves the NAD of the value, which is the network. -/
theorem applyNetwork_outcome (hknown : Known L w.settings w.nads)
    (hvalid : L.Valid w.settings.live.value) (hname : w.settings.live.nad ≠ some env.name)
    {kubevirt : Version KubeVirt}
    (hkubevirt : env.Healthy w → kubevirt = ⟨w.kubevirts.now, w.kubevirts.live⟩) :
    Triple (· = w) (applyNetwork L env w.settings.live kubevirt) (Outcome L env w fun name v =>
      ∃ nad, Left L w.settings.live v.nads nad ∧ v.kubevirts.live.network = nad.map Nad.name ∧
        name = nad.map Nad.name) := by
  refine Outcome.bind ((nadFor_outcome hknown hvalid hname).mapError fun _ _ h => h.mapError)
    fun nad v hs hk hv => ?_
  refine Outcome.bind (V := fun _ v' => v'.nads = v.nads ∧
    v'.kubevirts.live.network = nad.map Nad.name) ?_ (fun _ v' hs hk' hv' => ?_) v rfl
  · rintro _ rfl
    exact (setNetwork_outcome hs hk _ fun h => (hv h).1 ▸ hkubevirt h).mapError
  refine Outcome.bind (V := fun _ => Replaced w v' (nad.map Nad.name)) ?_
    (fun _ v₂ hs hk hv₂ => ?_) v' rfl
  · rintro _ rfl
    exact (replaceNad_outcome hs hk' _ fun h => (hv' h).1 ▸ (hv h).2.1).mapError
  refine ⟨hs, hk, fun h => ⟨_, rfl, ?_⟩⟩
  obtain ⟨-, -, hnone, hnad⟩ := hv h
  obtain ⟨hnads, hnetwork⟩ := hv' h
  obtain ⟨hkubevirts, hmem⟩ := hv₂ h
  rw [hnads] at hmem hk'
  refine ⟨nad, ⟨fun u => ⟨fun hu => ?_, ?_⟩, fun u hu => (hnad u hu).2, hnone⟩,
    hkubevirts ▸ hnetwork, rfl⟩
  · obtain ⟨hold, hkept⟩ := (hmem u).1 hu
    rcases hk'.near u hold with h | ⟨hvalue, hhash⟩
    · obtain ⟨nad', rfl, hname⟩ := Option.map_eq_some_iff.1 (hkept h)
      exact congrArg some (Store.eq_of_key (hnad nad' rfl).1 hold hname)
    · obtain ⟨nad', rfl⟩ := Option.ne_none_iff_exists'.1 (mt hnone.1 hvalue)
      obtain ⟨hmem', hhash'⟩ := hnad nad' rfl
      exact congrArg some (hk'.unique nad' hmem' u hold (hhash'.trans hhash.symm))
  · rintro rfl
    exact (hmem u).2 ⟨(hnad u rfl).1, fun _ => rfl⟩

/-! ### Runs -/

/-- The annotated NAD is the network and the only NAD. -/
structure World.Clean (w : World) : Prop where
  network : w.kubevirts.live.network = w.settings.live.nad
  nads : ∀ nad ∈ w.nads.objs, w.settings.live.nad = some nad.name
  exists_nad : ∀ name, w.settings.live.nad = some name → ∃ nad ∈ w.nads.objs, nad.name = name

/-- The user writes a valid value that has not the hash of another value before, and not while a
change that has failed is to be repeated; a reconcile reads the current setting and gets a name for
a new NAD that is not the annotated one; if one of its requests fails or a cache of it is old, the
update of the setting is refused. -/
def World.Safe (L : Lib) (w : World) : Event → Prop
  | .write value => L.Valid value ∧ w.Clean ∧
      ∀ old, Had w.settings old → L.sha1 old = L.sha1 value → old = value
  | .reconcile number env => number = w.settings.now ∧ w.settings.live.nad ≠ some env.name ∧
      (env.updateSetting = .refused ∨ env.Healthy w)

/-- The value has been dealt with. -/
def World.Done (L : Lib) (w : World) : Prop := checkIsSameHashValue L w.settings.live = true

/-- The invariant of safe runs. -/
structure Inv (L : Lib) (w : World) : Prop where
  known : Known L w.settings w.nads
  valid : L.Valid w.settings.live.value
  apart : Apart L w.settings
  clean : w.Done L → w.Clean

theorem Inv.write (h : Inv L w) (hvalid : L.Valid value) (hclean : w.Clean)
    (hsha1 : ∀ old, Had w.settings old → L.sha1 old = L.sha1 value → old = value) :
    Inv L { w with settings := w.settings.push { w.settings.live with value } } := by
  refine ⟨⟨fun nad hnad => ?_, h.known.unique, fun nad hnad => ?_, ?_⟩, ?_, h.apart.push hsha1,
    fun _ => ⟨?_, ?_, ?_⟩⟩ <;> try rw [History.live_push]
  · obtain ⟨value', hhad, hmade⟩ := h.known.made nad hnad
    exact ⟨value', hhad.push _, hmade⟩
  · exact .inl (hclean.nads nad hnad)
  · exact h.known.saved.imp_right fun ⟨value', hhad, hsaved⟩ => ⟨value', hhad.push _, hsaved⟩
  · exact hvalid
  · exact hclean.network
  · exact hclean.nads
  · exact hclean.exists_nad

/-- The setting after a change that did not fail. -/
def Setting.configuredWith (L : Lib) (s : Setting) (name : Option String) : Setting :=
  { s with annotations := some ⟨some (L.sha1 s.value), name⟩, configured := some ⟨true, "", ""⟩ }

theorem setConfiguredCondition_of_refused (h : env.updateSetting = .refused)
    {v : Version Setting} {finish : Bool} {reason msg : String} {nad : Option String} :
    Preserves (Inv L) (setConfiguredCondition L env v finish reason msg nad) := by
  unfold setConfiguredCondition
  dsimp only
  split
  · unfold updateSetting
    rw [h]
    exact .fail _
  · exact .pure ()

theorem run_setConfiguredCondition_of_saved (hsaved : env.updateSetting ≠ .refused)
    (hdone : ¬ w.Done L) (name : Option String) :
    ((setConfiguredCondition L env ⟨w.settings.now, w.settings.live⟩ true "" "" name).run w).2 =
      { w with settings := w.settings.push (w.settings.live.configuredWith L name) } := by
  have hne : w.settings.live.configuredWith L name ≠ w.settings.live := by
    intro heq
    refine hdone (decide_eq_true ?_)
    exact congrArg Setting.hash heq
  have hserver : (storeSetting ⟨w.settings.now, w.settings.live.configuredWith L name⟩).run w =
      (.ok (), { w with settings := w.settings.push (w.settings.live.configuredWith L name) }) := by
    simp only [run, storeSetting, History.replace_now]
  have hupdate : setConfiguredCondition L env ⟨w.settings.now, w.settings.live⟩ true "" "" name =
      updateSetting env ⟨w.settings.now, w.settings.live.configuredWith L name⟩ := if_pos hne
  rw [hupdate]
  obtain ⟨h, -⟩ | ⟨-, hrun⟩ | ⟨-, hrun⟩ :=
    run_request_cases hserver env.updateSetting env.failure
  · exact absurd h hsaved
  · exact congrArg Prod.snd hrun
  · exact congrArg Prod.snd hrun

theorem Left.inv {kubevirts : History KubeVirt} {nad : Option Nad}
    (h : Left L settings.live nads nad) (hknown : Known L settings nads)
    (hvalid : L.Valid settings.live.value) (hapart : Apart L settings)
    (hnetwork : kubevirts.live.network = nad.map Nad.name) :
    Inv L ⟨settings.push (settings.live.configuredWith L (nad.map Nad.name)), kubevirts, nads⟩ := by
  have hnads : ∀ u ∈ nads.objs, nad.map Nad.name = some u.name :=
    fun u hu => congrArg (Option.map Nad.name) ((h.mem_iff u).1 hu)
  refine ⟨⟨fun u hu => ?_, hknown.unique, fun u hu => ?_, ?_⟩, ?_, ?_, fun _ => ⟨?_, ?_, ?_⟩⟩ <;>
    try rw [History.live_push]
  · obtain ⟨value, hhad, hmade⟩ := hknown.made u hu
    exact ⟨value, hhad.push _, hmade⟩
  · exact .inl (hnads u hu)
  · refine .inr ⟨settings.live.value, (had_live settings).push _, rfl, ?_⟩
    cases nad with
    | none => exact .inl ⟨h.none_iff.1 rfl, rfl⟩
    | some nad =>
      refine .inr ⟨by simpa using h.none_iff.not, nad.name, rfl, fun u hu _ => ?_⟩
      exact h.hash u ((h.mem_iff u).1 hu)
  · exact hvalid
  · exact hapart.push fun old hold => hapart old _ hold (had_live settings)
  · exact hnetwork
  · exact hnads
  · intro name hname
    obtain ⟨u, hu, hname⟩ := Option.map_eq_some_iff.1 hname
    exact ⟨u, (h.mem_iff u).2 hu, hname⟩

/-- A reconcile keeps the invariant if it does not fail or saves nothing. -/
theorem Inv.configure (h : Inv L w) (hdone : ¬ w.Done L)
    (hname : w.settings.live.nad ≠ some env.name)
    (hcase : env.updateSetting = .refused ∨ env.Healthy w) :
    Triple (· = w) (configure L env ⟨w.settings.now, w.settings.live⟩) fun _ => Inv L := by
  have hkubevirt : Triple (· = w) (getKubevirt env) fun r v => v = w ∧
      r = env.kubevirt.map fun number => ⟨number, w.kubevirts.get number⟩ := by
    rintro _ rfl
    exact ⟨rfl, rfl⟩
  refine .attemptBind hkubevirt fun r => ?_
  rcases r with e | kubevirt
  · rintro v ⟨rfl, he⟩
    refine setConfiguredCondition_of_refused (hcase.resolve_right fun hhealthy => ?_) v h
    simp [hhealthy.kubevirt, Except.map] at he
  rintro v ⟨rfl, hv⟩
  have hcurrent (hhealthy : env.Healthy v) : kubevirt = ⟨v.kubevirts.now, v.kubevirts.live⟩ := by
    rw [hhealthy.kubevirt] at hv
    exact Except.ok.inj hv
  refine Triple.attemptBind (R := fun _ => Inv L)
    (applyNetwork_outcome h.known h.valid hname hcurrent) (fun r u hu => ?_) v rfl
  have hinv : Inv L u := by
    refine ⟨hu.settings ▸ hu.known, hu.settings ▸ h.valid, hu.settings ▸ h.apart,
      fun hdone' => ?_⟩
    rw [World.Done, hu.settings] at hdone'
    exact absurd hdone' hdone
  rcases r with e | name
  · refine setConfiguredCondition_of_refused (hcase.resolve_right fun hhealthy => ?_) u hinv
    obtain ⟨_, he, -⟩ := hu.value hhealthy
    cases he
  by_cases hrefused : env.updateSetting = .refused
  · exact setConfiguredCondition_of_refused hrefused u hinv
  obtain ⟨_, hok, nad, hleft, hnetwork, rfl⟩ := hu.value (hcase.resolve_left hrefused)
  cases hok
  rw [World.Done, ← hu.settings] at hdone
  rw [← hu.settings] at hleft
  rw [← hu.settings, run_setConfiguredCondition_of_saved hrefused hdone]
  exact hleft.inv hinv.known hinv.valid hinv.apart hnetwork

theorem Inv.next (h : Inv L w) (hsafe : w.Safe L e) (hnext : (machine L).next w e = some w') :
    Inv L w' := by
  cases e with
  | write value =>
    cases hnext
    exact h.write hsafe.1 hsafe.2.1 hsafe.2.2
  | reconcile number env =>
    obtain ⟨rfl, hname, hcase⟩ := hsafe
    simp only [machine, World.next, Option.bind_eq_bind, Option.bind_eq_some_iff] at hnext
    obtain ⟨_, -, hnext⟩ := hnext
    cases hnext
    unfold onVMMigrationNetworkChange
    split
    · exact h
    split
    · exact h
    split
    · exact h
    next hdone =>
    exact h.configure hdone hname hcase w rfl

theorem Inv.init {w₀ : World} (hfresh : w₀.Fresh) : Inv L w₀ := by
  constructor
  · constructor
    · simp [hfresh.nads]
    · simp [hfresh.nads]
    · simp [hfresh.nads]
    · exact .inl ⟨hfresh.hash, hfresh.nad⟩
  · exact .inl hfresh.value.live
  · rintro _ _ ⟨i, hi, rfl⟩ ⟨j, hj, rfl⟩ -
    exact (hfresh.value i (Nat.zero_le _) hi).trans (hfresh.value j (Nat.zero_le _) hj).symm
  · intro hdone
    simp [World.Done, checkIsSameHashValue, hfresh.hash] at hdone

/-- **The migration network.**  In every safe run of a fresh cluster, when the saved hash is that of
the value, the network of KubeVirt is the NAD made for it, and no other NAD is left. -/
theorem network_of_hash {w₀ : World} {events : List Event} (hfresh : w₀.Fresh)
    (hsafe : (machine L).Along (World.Safe L) w₀ events)
    (hrun : (machine L).run w₀ events = some w)
    (hdone : checkIsSameHashValue L w.settings.live = true) :
    w.NetworkOf L w.settings.live.value ∧
      ∀ nad ∈ w.nads.objs, w.settings.live.nad = some nad.name := by
  have hinv := Machine.run_invariant (fun _ _ _ h hs hnext => Inv.next h hs hnext)
    (Inv.init hfresh) hsafe hrun
  have hclean := hinv.clean hdone
  refine ⟨?_, hclean.nads⟩
  -- The hash is saved with the annotation of the NAD that is made for the value.
  obtain ⟨hnone, -⟩ | ⟨value, hhad, hhash, hassigned⟩ := hinv.known.saved
  · simp [checkIsSameHashValue, hnone] at hdone
  have hvalue : w.settings.live.value = value := hinv.apart _ _ (had_live _) hhad
    (Option.some.inj ((of_decide_eq_true hdone).trans hhash))
  rw [hvalue]
  obtain ⟨hempty, hnad⟩ | ⟨hne, name, hname, hnad⟩ := hassigned
  · exact ⟨fun _ => hclean.network.trans hnad, fun h => absurd hempty h⟩
  refine ⟨fun h => absurd h hne, fun _ => ?_⟩
  obtain ⟨nad, hmem, rfl⟩ := hclean.exists_nad name hname
  obtain ⟨value', hhad', hmade⟩ := hinv.known.made nad hmem
  obtain rfl : value' = value :=
    hinv.apart _ _ hhad' hhad (hmade.hash.symm.trans (hnad nad hmem rfl))
  exact ⟨nad, hmem, hmade, hclean.network.trans hname⟩

namespace Sample

/-- A network, as it is written in the setting. -/
def mgmt : String :=
  "\x7b\"clusterNetwork\":\"mgmt\",\"range\":\"172.16.0.0/24\"\x7d"

/-- The digests of this value and of the empty one, and what the value says. -/
def lib : Lib where
  sha1 value := if value = mgmt then "f94abc18858af888d9c45499aa10f1bf357da657"
    else "da39a3ee5e6b4b0d3255bfef95601890afd80709"
  parseConfig value := if value = mgmt then .ok ⟨"mgmt", 0, "172.16.0.0/24", [], "", "", ""⟩
    else .error (.other "unexpected end of JSON input")
  parseIP := some

def fresh : World :=
  ⟨History.init ⟨"", false, none, none⟩, History.init ⟨none⟩, .empty⟩

/-- A reconcile with a healthy API that gets a name for a new NAD. -/
def healthy (name : String) : Env :=
  ⟨.ok 0, .ok (), .none, name, .none, .ok (), .none, .none, .other "unavailable"⟩

/-- The update of the KubeVirt object is refused. -/
def noKubevirt (name : String) : Env := { healthy name with updateKubevirt := .refused }

theorem fresh_fresh : fresh.Fresh := ⟨fun _ _ _ => rfl, rfl, rfl, rfl, rfl⟩

/-- A value is written and dealt with. -/
def written : List Event := [.write mgmt, .reconcile 1 (healthy "nad-1")]

end Sample

open Sample in
/-- A value is dealt with: its NAD is the network. -/
theorem network_of_hash_written : ∃ w, (machine lib).run fresh written = some w ∧
    w.NetworkOf lib mgmt ∧ ∀ nad ∈ w.nads.objs, w.settings.live.nad = some nad.name := by
  obtain ⟨w, hw, hvalue, hdone⟩ : ∃ w, (machine lib).run fresh written = some w ∧
      w.settings.live.value = mgmt ∧ checkIsSameHashValue lib w.settings.live = true := by
    decide
  have hsafe : (machine lib).Along (World.Safe lib) fresh written := by
    have hclean : fresh.Clean := ⟨rfl, by simp [fresh, Store.empty], by simp [fresh, History.live,
      History.init, Setting.nad]⟩
    have hvalid : lib.Valid mgmt := .inr ⟨⟨"mgmt", 0, "172.16.0.0/24", [], "", "", ""⟩, rfl⟩
    refine ⟨⟨hvalid, hclean, ?_⟩, fun w₁ hw₁ => ?_⟩
    · rintro _ ⟨k, -, rfl⟩ hsha1
      exact absurd hsha1 (show lib.sha1 "" ≠ lib.sha1 mgmt by decide)
    cases hw₁
    refine ⟨⟨rfl, by decide, .inr ⟨⟨rfl, rfl, rfl⟩, rfl, rfl, ?_, ?_, rfl⟩⟩, fun _ _ => trivial⟩
    · exact fun _ _ _ => rfl
    · exact fun name h => by
        simp [fresh, History.live, History.push, History.init, Setting.nad] at h
  have h := network_of_hash fresh_fresh hsafe hw hdone
  rw [hvalue] at h
  exact ⟨w, hw, h⟩

open Sample in
/-- **A failure that is saved**: the hash of the value is saved, KubeVirt has no network for it, and
the NAD that was created is neither annotated nor deleted. -/
theorem failure_saved : ∃ w,
    (machine lib).run fresh [.write mgmt, .reconcile 1 (noKubevirt "nad-1")] = some w ∧
      checkIsSameHashValue lib w.settings.live = true ∧ ¬ w.NetworkOf lib mgmt ∧
      w.settings.live.value = mgmt ∧ w.settings.live.nad = none ∧
      ∃ nad ∈ w.nads.objs, nad.name = "nad-1" := by
  refine ⟨_, Machine.run_get (by decide), by decide, fun h => ?_, by decide⟩
  obtain ⟨nad, -, -, hsome⟩ := h.2 (by decide)
  exact Option.some_ne_none nad.name (hsome.symm.trans (by decide))

end MigrationNetwork

end Harvester
