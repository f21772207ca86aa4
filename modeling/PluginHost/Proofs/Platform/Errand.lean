import PluginHost.Proofs.Platform.Admission
import PluginHost.Proofs.Platform.Outliving
import PluginHost.Proofs.Runtime.Calm

namespace PluginHost.Platform

open Controller

variable {M : Type} [Manager M]

/-- What is done with plugins, and with their managers in between. -/
inductive Errand (M : Type) where
  | addStatic (manager : M)
  | load (site : Site M) (path : Path)
  | discover (site : Site M)
  | unload (name : String)
  | dispatch (phase : Phase)

def Errand.call : Errand M → Call M
  | addStatic manager => .addStatic manager
  | load site path => .load site path
  | discover site => .discover site
  | unload name => .unload name
  | dispatch phase => .dispatch phase

def Errand.act (errand : Errand M) : Action (Platform M) Unit := errand.call.act

/-- A library makes a manager whenever it is asked, always of the same type. -/
structure Lends (site : Site M) (path : Path) (name : String) (key : TypeKey) : Prop where
  named : LibraryName.pluginName? path = some name
  makes : ∃ image entry, site.image path = .ok image ∧ image.entryOf? name = some entry ∧
    ∀ holder, ∃ e, (entry holder).export? = some e ∧ e.typeKey = key

/-- Who is there, which plugins there are, and what the number of the next one is. -/
structure Settled (crew : List Member) (plugins : Std.ExtTreeMap String (PluginRecord M) compare)
    (blocked : Std.ExtTreeSet String compare) (next : PluginId) (p : Platform M) : Prop where
  holds : p.controller.Holds crew
  plugins : p.catalogue.plugins = plugins
  blacklist : p.catalogue.blacklist = blocked
  nextId : p.catalogue.nextId = next

variable {site : Site M} {path : Path} {p : Platform M} {crew : List Member} {name : String} {key : TypeKey}
variable {plugins : Std.ExtTreeMap String (PluginRecord M) compare} {blocked : Std.ExtTreeSet String compare}
variable {next : PluginId} {record : PluginRecord M}

omit [Manager M] in
theorem Lends.offers (lends : Lends site path name key) (allowed : ¬ p.catalogue.isBlacklisted name)
    (free : ¬ p.catalogue.isLoaded name) :
    ∃ image entry e, Offers site path p name image entry e ∧ e.typeKey = key := by
  obtain ⟨image, entry, opens, exports, gives⟩ := lends.makes
  obtain ⟨e, made, type⟩ := gives p.controller.holder
  exact ⟨image, entry, e, ⟨⟨lends.named, allowed, free⟩, opens, exports, made⟩, type⟩

omit [Manager M] in
theorem Offers.export_eq {image image' : Image M} {entry entry' : EntryPoint M} {e e' : Export M}
    (offers : Offers site path p name image entry e) (again : Offers site path p name image' entry' e') : e = e' := by
  obtain rfl : image = image' := Except.ok.inj (offers.opens.symm.trans again.opens)
  obtain rfl : entry = entry' := Option.some.inj (offers.exports.symm.trans again.exports)
  exact Option.some.inj (offers.gives.symm.trans again.gives)

/-- A plugin that is loaded in a settled state comes last, under the next number. -/
theorem Settled.load (gentle : Manager.Gentle M) (settled : Settled crew plugins blocked next p)
    (lends : Lends site path name key) (allowed : ¬ blocked.contains name) (free : ¬ plugins.contains name)
    (vacant : key ∉ crew.map (·.key)) :
    ∃ library id, Settled (crew ++ [⟨key, id, .plugin next⟩])
      (plugins.insert name ⟨⟨name, .plugin next, key, .dynamic path⟩, some library⟩) blocked (next + 1)
      (Platform.load site path p).state := by
  obtain ⟨image, entry, e, offers, rfl⟩ := lends.offers (p := p)
    (by rwa [Catalogue.isBlacklisted, settled.blacklist]) (by rwa [Catalogue.isLoaded, settled.plugins])
  have unknown : ¬ p.controller.contains e.typeKey := fun taken => vacant ((settled.holds.mem_keys _).mpr taken)
  obtain ⟨result, effect⟩ := (Admission.admitted offers unknown (gentle ..)).outcome
  simp only [Effect, result] at effect
  obtain ⟨image', entry', e', again, -, admits⟩ := effect
  obtain rfl := offers.export_eq again
  have nextId : (Platform.load site path p).state.catalogue.nextId = next + 1 := settled.nextId ▸ admits.nextId
  cases taking_load settled.holds site path with
  | idle _ _ idle =>
    rw [nextId, settled.nextId] at idle
    simp at idle
  | taken record name' key' source entry _ _ _ blacklist _ holds =>
    have order := holds.order.symm.trans admits.order
    rw [List.map_append, settled.holds.order] at order
    obtain rfl : key' = e.typeKey := by simpa using order
    refine ⟨⟨⟨p.catalogue.opened⟩, name, path, image'⟩, ⟨p.controller.offered⟩, ?_, ?_, ?_, nextId⟩
    · rwa [entry, settled.nextId] at holds
    · rw [admits.plugins, settled.plugins, settled.nextId]
      rfl
    · exact blacklist.trans settled.blacklist

/-- A plugin that is unloaded takes along whom its namespace covers and nothing else. -/
theorem Settled.unload (gentle : Manager.Gentle M) (settled : Settled crew plugins blocked next p)
    (found : plugins[name]? = some record) (dynamic : record.info.origin ≠ .static) :
    Settled (crew.filter fun x => !record.info.ns.covers x.ns) (plugins.erase name) blocked next
        (Platform.unload name p).state ∧
      ∀ x ∈ crew, record.info.ns.covers x.ns → .destroyed x.id ∈ (Platform.unload name p).trace := by
  rw [← settled.plugins] at found
  rw [unload_eq found dynamic]
  rcases releaseNamespace_spec settled.holds record.info.ns with broken | ⟨ok, left, offered, gone, perm, trace⟩
  · obtain ⟨panic, error⟩ := broken.panics
    obtain ⟨_, ok⟩ := Action.returns_iff.mp (returns_releaseNamespace gentle record.info.ns) p.controller
    cases error.symm.trans ok
  · simp only [ok]
    refine ⟨⟨left, congrArg (·.erase name) settled.plugins, settled.blacklist, settled.nextId⟩, ?_⟩
    intro x member covered
    have leaves : x.id ∈ gone := perm.mem_iff.mpr (List.mem_map_of_mem (List.mem_filter.mpr ⟨member, covered⟩))
    refine List.mem_append_left _ (mem_deeds.mp ?_).1
    rw [trace]
    exact List.mem_append_right _ (List.mem_map_of_mem leaves)

/-- A plugin is loaded and unloaded again, so many times. -/
def rounds (site : Site M) (path : Path) (name : String) (n : Nat) : List (Errand M) :=
  (List.replicate n [.load site path, .unload name]).flatten

/-- A plugin that is loaded and unloaded again leaves everything as it was but the number of the next one. -/
theorem Settled.round (gentle : Manager.Gentle M) (settled : Settled crew plugins blocked next p)
    (lends : Lends site path name key) (allowed : ¬ blocked.contains name) (free : ¬ plugins.contains name)
    (vacant : key ∉ crew.map (·.key)) (apart : ∀ x ∈ crew, x.ns.pluginId ≠ next) :
    Settled crew plugins blocked (next + 1) (Platform.unload name (Platform.load site path p).state).state := by
  obtain ⟨library, id, loaded⟩ := settled.load gentle lends allowed free vacant
  have left := (loaded.unload gentle (Std.ExtTreeMap.getElem?_insert_self ..) (by simp)).1
  have spared : (crew ++ [(⟨key, id, .plugin next⟩ : Member)]).filter
      (fun x => !(Namespace.plugin next).covers x.ns) = crew := by
    rw [List.filter_append, List.filter_eq_self.mpr]
    · simp
    · intro x member
      simpa [Namespace.covers] using apart x member
  have absent : plugins[name]? = none := by simpa using free
  rwa [spared, Registry.erase_insert, Registry.erase_of_none absent] at left

/-- Only the number goes on, round after round, and it does not stop at the last one. -/
theorem Settled.rounds (gentle : Manager.Gentle M) {k : Nat} (settled : Settled crew plugins blocked (.ofNat k) p)
    (lends : Lends site path name key) (allowed : ¬ blocked.contains name) (free : ¬ plugins.contains name)
    (vacant : key ∉ crew.map (·.key)) (n : Nat) (apart : ∀ i < n, ∀ x ∈ crew, x.ns.pluginId ≠ .ofNat (k + i)) :
    Settled crew plugins blocked (.ofNat (k + n)) (Action.reached Errand.act p (rounds site path name n)) := by
  induction n with
  | zero => exact settled
  | succ n ih =>
    have before := ih fun i less => apart i (less.trans n.lt_succ_self)
    have after := before.round gentle lends allowed free vacant (apart n n.lt_succ_self)
    rw [Platform.rounds, List.replicate_succ', List.flatten_append, Action.reached_append]
    rw [← Nat.add_assoc, UInt32.ofNat_add]
    exact after

/-- The plugin stays after the last of the rounds. -/
theorem Settled.after_rounds (gentle : Manager.Gentle M) {k : Nat}
    (settled : Settled crew plugins blocked (.ofNat k) p) (lends : Lends site path name key)
    (allowed : ¬ blocked.contains name) (free : ¬ plugins.contains name) (vacant : key ∉ crew.map (·.key)) (n : Nat)
    (apart : ∀ i < n, ∀ x ∈ crew, x.ns.pluginId ≠ .ofNat (k + i)) :
    ∃ library id, Settled (crew ++ [⟨key, id, .plugin (.ofNat (k + n))⟩])
      (plugins.insert name ⟨⟨name, .plugin (.ofNat (k + n)), key, .dynamic path⟩, some library⟩) blocked
      (.ofNat (k + n) + 1) (Action.reached Errand.act p (Platform.rounds site path name n ++ [.load site path])) := by
  have alone := settled.rounds gentle lends allowed free vacant n apart
  rw [Action.reached_append]
  exact alone.load gentle lends allowed free vacant

end PluginHost.Platform
