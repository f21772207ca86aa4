import PluginHost.Proofs.Namespace
import PluginHost.Proofs.Platform.Loading

namespace PluginHost

variable {M : Type} {k next : Catalogue M} {crew : List Member} {blocked : Std.ExtTreeSet String compare}

/-- A plugin is registered for each member of the crew and for nobody else. The plugins from libraries
are numbered apart. -/
structure Paired (blocked : Std.ExtTreeSet String compare) (crew : List Member) (k : Catalogue M) : Prop where
  blacklist : k.blacklist = blocked
  numbered : 0 < k.nextId.toNat
  filed : ∀ {name info}, k.info? name = some info → info.name = name
  manned : ∀ {name info}, k.info? name = some info → ∃ x ∈ crew, x.key = info.manager ∧ x.ns = info.ns
  listed : ∀ x ∈ crew, ∃ name info, k.info? name = some info ∧ info.manager = x.key ∧ info.ns = x.ns
  single : ∀ {name name' info info'}, k.info? name = some info → k.info? name' = some info' →
    info.manager = info'.manager → name = name'
  compiled : ∀ {name info}, k.info? name = some info → info.origin = .static → info.ns = .core
  loaded : ∀ {name info}, k.info? name = some info → info.origin ≠ .static → name ∉ blocked ∧
    ∃ id : PluginId, info.ns = .plugin id ∧ id ≠ 0 ∧ id.toNat < k.nextId.toNat
  apart : ∀ {name name' info info'}, k.info? name = some info → k.info? name' = some info' →
    info.origin ≠ .static → info'.origin ≠ .static → info.ns = info'.ns → name = name'

namespace Catalogue

theorem info?_congr (plugins : next.plugins = k.plugins) (name : String) : next.info? name = k.info? name := by
  rw [info?, info?, plugins]

theorem info?_of_insert {record : PluginRecord M} {name : String}
    (plugins : next.plugins = k.plugins.insert name record) (n : String) :
    next.info? n = if name = n then some record.info else k.info? n := by
  unfold Catalogue.info?
  rw [plugins, Std.ExtTreeMap.getElem?_insert]
  by_cases here : name = n <;> simp [here]

/-- What is found after an insertion is the record that was entered, or was found before. -/
theorem new_or_old_of_insert {record : PluginRecord M} {name n : String} {info : PluginInfo}
    (plugins : next.plugins = k.plugins.insert name record) (found : next.info? n = some info) :
    name = n ∧ info = record.info ∨ k.info? n = some info := by
  rw [info?_of_insert plugins] at found
  by_cases here : name = n
  · rw [if_pos here] at found
    exact .inl ⟨here, (Option.some.inj found).symm⟩
  · rw [if_neg here] at found
    exact .inr found

theorem info?_remove (k : Catalogue M) (name n : String) :
    (k.remove name).info? n = if name = n then none else k.info? n := by
  unfold Catalogue.info? Catalogue.remove
  rw [Std.ExtTreeMap.getElem?_erase]
  by_cases here : name = n <;> simp [here]

theorem old_of_remove {name n : String} {info : PluginInfo} (left : (k.remove name).info? n = some info) :
    n ≠ name ∧ k.info? n = some info := by
  rw [info?_remove] at left
  by_cases here : name = n
  · simp [here] at left
  · rw [if_neg here] at left
    exact ⟨Ne.symm here, left⟩

theorem mem_pluginNames (k : Catalogue M) (name : String) :
    name ∈ k.pluginNames ↔ ∃ info, k.info? name = some info := by
  rw [pluginNames, Std.ExtTreeMap.mem_keys, Std.ExtTreeMap.mem_iff_isSome_getElem?, ← Option.isSome_iff_exists,
    info?, Option.isSome_map]

theorem isLoaded_of_info? {name : String} {info : PluginInfo} (found : k.info? name = some info) :
    k.isLoaded name := by
  obtain ⟨record, there, -⟩ := Option.map_eq_some_iff.mp found
  rw [Catalogue.isLoaded, ← Std.ExtTreeMap.mem_iff_contains, Std.ExtTreeMap.mem_iff_isSome_getElem?, there]
  rfl

end Catalogue

theorem paired_of_empty (k : Catalogue M) (empty : k.plugins = ∅) (blacklist : k.blacklist = blocked)
    (numbered : 0 < k.nextId.toNat) : Paired blocked [] k := by
  have none : ∀ {name info}, k.info? name ≠ some info := by simp [Catalogue.info?, empty]
  exact
    { blacklist := blacklist
      numbered := numbered
      filed := fun found => absurd found none
      manned := fun found => absurd found none
      listed := nofun
      single := fun found => absurd found none
      compiled := fun found => absurd found none
      loaded := fun found => absurd found none
      apart := fun found => absurd found none }

theorem paired_fresh (config : PluginConfig) (pluginDir : Path) :
    Paired config.blacklist [] (Catalogue.ofConfig config pluginDir : Catalogue M) :=
  paired_of_empty _ rfl rfl Nat.one_pos

theorem Paired.forget (paired : Paired blocked crew k) :
    Paired blocked [] ({ k with plugins := ∅ } : Catalogue M) :=
  paired_of_empty _ rfl paired.blacklist paired.numbered

/-- Whether plugins and managers are in pairs, the records, the blacklist and the next number tell. -/
theorem Paired.congr (paired : Paired blocked crew k) (plugins : next.plugins = k.plugins)
    (same : next.blacklist = k.blacklist) (nextId : next.nextId = k.nextId) : Paired blocked crew next where
  blacklist := same.trans paired.blacklist
  numbered := nextId ▸ paired.numbered
  filed found := paired.filed (Catalogue.info?_congr plugins _ ▸ found)
  manned found := paired.manned (Catalogue.info?_congr plugins _ ▸ found)
  listed x member := by
    obtain ⟨name, info, found, own⟩ := paired.listed x member
    exact ⟨name, info, (Catalogue.info?_congr plugins name).trans found, own⟩
  single found found' :=
    paired.single (Catalogue.info?_congr plugins _ ▸ found) (Catalogue.info?_congr plugins _ ▸ found')
  compiled found := paired.compiled (Catalogue.info?_congr plugins _ ▸ found)
  loaded found := by
    rw [nextId]
    exact paired.loaded (Catalogue.info?_congr plugins _ ▸ found)
  apart found found' :=
    paired.apart (Catalogue.info?_congr plugins _ ▸ found) (Catalogue.info?_congr plugins _ ▸ found')

theorem Paired.manager_ne (paired : Paired blocked crew k) {key : TypeKey} (vacant : key ∉ crew.map (·.key))
    {name : String} {info : PluginInfo} (found : k.info? name = some info) : info.manager ≠ key := by
  obtain ⟨x, member, own, -⟩ := paired.manned found
  rintro rfl
  exact vacant (List.mem_map.mpr ⟨x, member, own⟩)

/-- The next number is nobody's. -/
theorem Paired.ns_ne_next (paired : Paired blocked crew k) {name : String} {info : PluginInfo}
    (found : k.info? name = some info) (dynamic : info.origin ≠ .static) : info.ns ≠ .plugin k.nextId := by
  obtain ⟨-, id, own, -, old⟩ := paired.loaded found dynamic
  intro clash
  have numbers := congrArg Namespace.pluginId (own.symm.trans clash)
  simp only [Namespace.pluginId_plugin] at numbers
  exact absurd old (numbers ▸ Nat.lt_irrefl _)

/-- A plugin and its manager come together: the name and the type are both new. -/
theorem Paired.enter (paired : Paired blocked crew k) {record : PluginRecord M} {x : Member}
    (plugins : next.plugins = k.plugins.insert record.info.name record) (same : next.blacklist = k.blacklist)
    (later : k.nextId.toNat ≤ next.nextId.toNat) (free : ¬ k.isLoaded record.info.name)
    (vacant : x.key ∉ crew.map (·.key)) (key : record.info.manager = x.key) (ns : record.info.ns = x.ns)
    (compiled : record.info.origin = .static → x.ns = .core)
    (loaded : record.info.origin ≠ .static → record.info.name ∉ blocked ∧ x.ns = .plugin k.nextId ∧
      k.nextId.toNat < next.nextId.toNat) :
    Paired blocked (crew ++ [x]) next := by
  have cases_of {n : String} {info : PluginInfo} (found : next.info? n = some info) :
      record.info.name = n ∧ info = record.info ∨ k.info? n = some info :=
    Catalogue.new_or_old_of_insert plugins found
  have unmanned {n : String} {info : PluginInfo} (found : k.info? n = some info) : info.manager ≠ x.key :=
    paired.manager_ne vacant found
  have unowned {n : String} {info : PluginInfo} (found : k.info? n = some info) (dynamic : info.origin ≠ .static)
      (fresh : record.info.origin ≠ .static) : info.ns ≠ x.ns := by
    rw [(loaded fresh).2.1]
    exact paired.ns_ne_next found dynamic
  -- a pair of the longer crew is the new one or an old one, and of two pairs at most one is new
  exact
    { blacklist := same.trans paired.blacklist
      numbered := Nat.lt_of_lt_of_le paired.numbered later
      filed := by
        intro n info found
        obtain ⟨same, rfl⟩ | old := cases_of found
        · exact same
        · exact paired.filed old
      manned := by
        intro n info found
        obtain ⟨rfl, rfl⟩ | old := cases_of found
        · exact ⟨x, by simp, key.symm, ns.symm⟩
        · obtain ⟨y, member, own⟩ := paired.manned old
          exact ⟨y, List.mem_append_left _ member, own⟩
      listed := by
        intro y member
        obtain old | new := List.mem_append.mp member
        · obtain ⟨n, info, found, own⟩ := paired.listed y old
          have other : record.info.name ≠ n := fun new => free (new ▸ Catalogue.isLoaded_of_info? found)
          exact ⟨n, info, by rw [Catalogue.info?_of_insert plugins, if_neg other, found], own⟩
        · obtain rfl := List.mem_singleton.mp new
          exact ⟨_, _, by rw [Catalogue.info?_of_insert plugins, if_pos rfl], key, ns⟩
      single := by
        intro n n' info info' found found' alike
        obtain ⟨rfl, rfl⟩ | old := cases_of found <;> obtain ⟨rfl, rfl⟩ | old' := cases_of found'
        · rfl
        · exact absurd (alike.symm.trans key) (unmanned old')
        · exact absurd (alike.trans key) (unmanned old)
        · exact paired.single old old' alike
      compiled := by
        intro n info found static
        obtain ⟨rfl, rfl⟩ | old := cases_of found
        · exact ns.trans (compiled static)
        · exact paired.compiled old static
      loaded := by
        intro n info found dynamic
        obtain ⟨rfl, rfl⟩ | old := cases_of found
        · obtain ⟨allowed, own, lt⟩ := loaded dynamic
          refine ⟨allowed, k.nextId, ns.trans own, ?_, lt⟩
          rintro zero
          exact absurd paired.numbered (by simp [zero])
        · obtain ⟨allowed, id, own, nonzero, lt⟩ := paired.loaded old dynamic
          exact ⟨allowed, id, own, nonzero, Nat.lt_of_lt_of_le lt later⟩
      apart := by
        intro n n' info info' found found' dynamic dynamic' alike
        obtain ⟨rfl, rfl⟩ | old := cases_of found <;> obtain ⟨rfl, rfl⟩ | old' := cases_of found'
        · rfl
        · exact absurd (alike.symm.trans ns) (unowned old' dynamic' dynamic)
        · exact absurd (alike.trans ns) (unowned old dynamic dynamic')
        · exact paired.apart old old' dynamic dynamic' alike }

/-- A plugin from a library covers nothing but its own manager. -/
theorem Paired.covers_iff (paired : Paired blocked crew k) {name : String} {info : PluginInfo}
    (found : k.info? name = some info) (dynamic : info.origin ≠ .static) {n : String} {other : PluginInfo}
    (there : k.info? n = some other) : info.ns.covers other.ns ↔ n = name := by
  obtain ⟨-, id, own, nonzero, -⟩ := paired.loaded found dynamic
  constructor
  · intro covered
    rw [own, Namespace.covers_of_plugin (by simp), Namespace.pluginId_plugin] at covered
    by_cases static : other.origin = .static
    · rw [paired.compiled there static, Namespace.core, Namespace.pluginId_plugin] at covered
      exact absurd covered.symm nonzero
    · obtain ⟨-, id', own', -⟩ := paired.loaded there static
      rw [own', Namespace.pluginId_plugin] at covered
      exact paired.apart there found static dynamic (own'.trans (covered ▸ own.symm))
  · rintro rfl
    obtain rfl := Option.some.inj (found.symm.trans there)
    exact Namespace.covers_self _

/-- A plugin from a library goes together with its manager, and nobody else is in its namespace. -/
theorem Paired.leave (paired : Paired blocked crew k) {name : String} {info : PluginInfo}
    (found : k.info? name = some info) (dynamic : info.origin ≠ .static) :
    Paired blocked (crew.filter fun x => !info.ns.covers x.ns) (k.remove name) where
  blacklist := paired.blacklist
  numbered := paired.numbered
  filed left := paired.filed (Catalogue.old_of_remove left).2
  manned left := by
    obtain ⟨apart, old⟩ := Catalogue.old_of_remove left
    obtain ⟨x, member, key, ns⟩ := paired.manned old
    refine ⟨x, List.mem_filter.mpr ⟨member, ?_⟩, key, ns⟩
    rw [ns, Bool.not_eq_true', ← Bool.not_eq_true, paired.covers_iff found dynamic old]
    exact apart
  listed x member := by
    obtain ⟨member, spared⟩ := List.mem_filter.mp member
    obtain ⟨n, other, there, key, ns⟩ := paired.listed x member
    have apart : n ≠ name := fun same =>
      absurd ((paired.covers_iff found dynamic there).mpr same) (by simpa [ns] using spared)
    exact ⟨n, other, by rw [Catalogue.info?_remove, if_neg apart.symm, there], key, ns⟩
  single left left' := paired.single (Catalogue.old_of_remove left).2 (Catalogue.old_of_remove left').2
  compiled left := paired.compiled (Catalogue.old_of_remove left).2
  loaded left := paired.loaded (Catalogue.old_of_remove left).2
  apart left left' := paired.apart (Catalogue.old_of_remove left).2 (Catalogue.old_of_remove left').2

namespace Platform

open Controller

/-- The plugins and the managers are in pairs, and at most so many plugins came from libraries. -/
def Coupled (blocked : Std.ExtTreeSet String compare) (n : Nat) (p : Platform M) : Prop :=
  ∃ crew, p.controller.Holds crew ∧ Paired blocked crew p.catalogue ∧ p.catalogue.nextId.toNat ≤ n + 1

variable {p : Platform M} {n : Nat}

theorem Coupled.mono {m : Nat} (coupled : p.Coupled blocked n) (more : n ≤ m) : p.Coupled blocked m := by
  obtain ⟨crew, holds, paired, bound⟩ := coupled
  exact ⟨crew, holds, paired, by omega⟩

/-- The latest of a crew is the only one of its type. -/
theorem vacant_of_holds {c : Controller M} {x : Member} (holds : c.Holds (crew ++ [x])) :
    x.key ∉ crew.map (·.key) := by
  have keys := holds.keys
  rw [List.map_append, List.nodup_append] at keys
  exact fun taken => keys.2.2 _ taken _ (by simp) rfl

variable [Manager M]

/-- A plugin that is compiled in comes with its manager or not at all, panics or not. -/
theorem couples_addStatic (manager : M) : (addStatic manager).Keeps fun _ p => p.Coupled blocked n := by
  rw [Action.keeps_iff]
  rintro _ p ⟨crew, holds, paired, bound⟩
  cases adding_addStatic holds manager with
  | ignored state trace =>
    rw [state]
    exact ⟨crew, holds, paired, bound⟩
  | refused catalogue same => exact ⟨crew, same, catalogue ▸ paired, catalogue ▸ bound⟩
  | panicked panics catalogue same => exact ⟨crew, same, catalogue ▸ paired, catalogue ▸ bound⟩
  | accepted record compiled catalogue key more offered trace free entry =>
    refine ⟨_, more, ?_, catalogue ▸ bound⟩
    rw [catalogue]
    exact paired.enter rfl rfl le_rfl free (vacant_of_holds more) (by rw [entry]) rfl
      (fun _ => by rw [entry]) fun dynamic => absurd (by rw [entry]) dynamic

/-- The number of the next plugin does not come round to one that is in use. -/
theorem paired_load (holds : p.controller.Holds crew) (paired : Paired blocked crew p.catalogue) (site : Site M)
    (path : Path) (room : (load site path p).state.catalogue.nextId ≠ p.catalogue.nextId →
      p.catalogue.nextId.toNat + 1 < 2 ^ 32) :
    (load site path p).state.catalogue.nextId.toNat ≤ p.catalogue.nextId.toNat + 1 ∧
      ∃ crew', (load site path p).state.controller.Holds crew' ∧
        Paired blocked crew' (load site path p).state.catalogue := by
  cases taking_load holds site path with
  | idle plugins blacklist nextId same =>
    exact ⟨by rw [nextId]; exact Nat.le_succ _, crew, same, paired.congr plugins blacklist nextId⟩
  | taken record name key source entry allowed free plugins blacklist nextId aboard =>
    have apart : (load site path p).state.catalogue.nextId ≠ p.catalogue.nextId := by
      rw [nextId]
      simp
    have next : (load site path p).state.catalogue.nextId.toNat = p.catalogue.nextId.toNat + 1 := by
      rw [nextId, toNat_succ (room apart)]
    have unlisted : record.info.name ∉ blocked := by
      rw [entry, ← paired.blacklist]
      simpa [Catalogue.isBlacklisted] using allowed
    refine ⟨next.le, _, aboard, ?_⟩
    exact paired.enter plugins blacklist (by omega) (by rwa [entry]) (vacant_of_holds aboard) (by rw [entry]) rfl
      (fun static => absurd static (by simp [entry])) fun _ => ⟨unlisted, by rw [entry], by omega⟩

/-- A plugin from a library comes with its manager or not at all, under the next number. -/
theorem couples_load (site : Site M) (path : Path) (room : n + 2 < 2 ^ 32) :
    (load site path).Leads (fun _ p => p.Coupled blocked n) (fun _ p => p.Coupled blocked (n + 1))
      fun _ p => p.Coupled blocked (n + 1) := by
  apply Action.leads_always
  rintro _ p ⟨crew, holds, paired, bound⟩
  obtain ⟨more, crew', same, still⟩ := paired_load holds paired site path fun _ => by omega
  exact ⟨crew', same, still, by omega⟩

/-- Files one after the other take one number each at most. -/
theorem couples_loadEach (site : Site M) (paths : List Path) (room : n + paths.length + 1 < 2 ^ 32) :
    (loadEach site paths).Leads (fun _ p => p.Coupled blocked n)
      (fun _ p => p.Coupled blocked (n + paths.length)) fun _ p => p.Coupled blocked (n + paths.length) := by
  induction paths generalizing n with
  | nil => exact Action.leads_pure 0
  | cons path paths ih =>
    have count : n + (path :: paths).length = n + 1 + paths.length := by
      rw [List.length_cons]
      omega
    rw [count] at room ⊢
    have first : (load site path).Leads (fun _ p => p.Coupled blocked n)
        (fun _ p => p.Coupled blocked (n + 1)) fun _ p => p.Coupled blocked (n + 1 + paths.length) :=
      (couples_load site path (by omega)).imp (fun _ _ => id) (fun _ _ => id)
        fun _ p coupled => coupled.mono (by omega)
    refine first.bind fun loaded => ?_
    cases loaded with
    | ok name => exact (ih room).bind fun count => Action.leads_pure _
    | error error => exact Action.leads_log.bind fun _ => ih room

/-- The libraries that are found in a directory. -/
def libraries (site : Site M) (dir : Path) : List Path :=
  match (LibraryFolder.list site.files dir).1 with
  | .ok paths => paths
  | .error _ => []

/-- Discovery takes as many numbers as there are libraries at most. -/
theorem couples_discover (site : Site M) (dir : Path) {total : Nat}
    (count : total = n + (libraries site dir).length) (room : total + 1 < 2 ^ 32) :
    (discover site).Leads (fun _ p => p.Coupled blocked n ∧ p.catalogue.pluginDir = dir)
      (fun _ p => p.Coupled blocked total) fun _ p => p.Coupled blocked total := by
  refine Action.leads_get_bind fun _ p start => ?_
  have here : p.catalogue.pluginDir = dir := start.2
  have idle : ∀ {level : Log.Level} {target text : String},
      (Action.log level target text >>= fun _ => pure 0 : Action (Platform M) Nat).Leads
        (fun _ p => p.Coupled blocked n ∧ p.catalogue.pluginDir = dir) (fun _ p => p.Coupled blocked total)
        fun _ p => p.Coupled blocked total := fun {level target text} =>
    (Action.leads_log.bind fun _ => Action.leads_pure 0).imp
      (fun _ p coupled => coupled.1.mono (by omega)) (fun _ _ => id) fun _ _ => id
  dsimp only
  rw [here]
  split
  · exact idle
  · refine (Action.leads_emit (deeds_logged _)).bind fun _ => ?_
    split
    · exact idle
    · rename_i paths listed
      have found : libraries site dir = paths := by rw [libraries, listed]
      subst count
      rw [found] at room ⊢
      refine Action.Leads.bind ((couples_loadEach site paths room).imp (fun _ _ => And.left) (fun _ _ => id)
        fun _ _ => id) fun count => ?_
      exact Action.leads_log.bind fun _ => Action.leads_pure count

/-- A plugin goes with its manager, or it stays with it where a hook panics. -/
theorem couples_unload (name : String) :
    (unload name : Action (Platform M) _).Keeps fun _ p => p.Coupled blocked n := by
  rw [Action.keeps_iff]
  rintro _ p ⟨crew, holds, paired, bound⟩
  cases unloading_unload holds name with
  | ignored state trace =>
    rw [state]
    exact ⟨crew, holds, paired, bound⟩
  | broken catalogue broken => exact ⟨crew, broken.holds, catalogue ▸ paired, catalogue ▸ bound⟩
  | unloaded record found catalogue left offered gone perm trace dynamic =>
    have there : p.catalogue.info? name = some record.info := congrArg (Option.map _) found
    exact ⟨_, left, catalogue ▸ paired.leave there dynamic, catalogue ▸ bound⟩

omit [Manager M] in
/-- An operation on the managers that registers nobody and lets nobody go. -/
theorem couples_onController {α : Type} {x : Action (Controller M) α}
    (keeps : ∀ {c : Controller M} {crew}, c.Holds crew → (x c).state.Holds crew) :
    (onController x).Keeps fun _ p => p.Coupled blocked n := by
  rw [Action.keeps_iff]
  rintro _ p ⟨crew, holds, paired, bound⟩
  exact ⟨crew, keeps holds, paired, bound⟩

/-- Where the release of everyone breaks off, everyone is there still. -/
theorem couples_releaseAll :
    (onController releaseAll : Action (Platform M) Unit).Leads (fun _ p => p.Coupled blocked n)
      (fun _ _ => True) fun _ p => p.Coupled blocked n := by
  rintro _ p ⟨crew, holds, paired, bound⟩
  obtain broken | ⟨ok, -⟩ := releaseAll_spec holds
  · obtain ⟨panic, error⟩ := broken.panics
    rw [onController_run, error]
    exact ⟨crew, broken.holds, paired, bound⟩
  · rw [onController_run, ok]
    trivial

end Platform

end PluginHost
