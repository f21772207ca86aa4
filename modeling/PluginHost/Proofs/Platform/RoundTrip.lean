import PluginHost.Manager.Scripted
import PluginHost.Proofs.Controller.Roster
import PluginHost.Proofs.Platform.Numbering
import PluginHost.Proofs.Platform.Rediscovery
import PluginHost.Proofs.Runtime.Story

namespace PluginHost

namespace Roll

/-- Its number makes no difference to what becomes of a plugin. -/
theorem verdict_renumber (c : Roll) (next : PluginId) (path : Path)
    (does : Except PluginError (TypeKey × Option Panic)) :
    ({ c with nextId := next } : Roll).verdict path does =
      (c.verdict path does).map (·.map fun info => { info with ns := .plugin next }) := by
  unfold verdict
  cases LibraryName.pluginName? path with
  | none => rfl
  | some name =>
    dsimp only
    split
    · rfl
    · split
      · rfl
      · unfold judge
        rcases does with error | ⟨key, panic?⟩
        · rfl
        · dsimp only
          split
          · rfl
          · cases panic? <;> rfl

end Roll

namespace Controller

variable {M : Type} [Manager M] {c : Controller M} {residents guests : List Member} {id : PluginId}

/-- A phase, or a registration in the namespaces of one plugin. -/
def Call.Within (id : PluginId) : Call M → Prop
  | add _ ns | addExt _ _ ns _ => ns.pluginId = id
  | dispatch _ => True
  | releaseNamespace _ | releaseAll => False

/-- Beside the residents there are guests, all of them of one plugin. -/
structure Hosts (c : Controller M) (residents guests : List Member) (id : PluginId) : Prop where
  holds : c.Holds (residents ++ guests)
  theirs : ∀ x ∈ guests, x.ns.pluginId = id

omit [Manager M] in
theorem Hosts.apart (hosts : c.Hosts residents guests id) {x : Member} (resident : x ∈ residents) :
    (⟨c.offered⟩ : ManagerId) ≠ x.id :=
  (hosts.holds.unused (List.mem_append_left _ resident)).symm

/-- An offer is nothing to a resident, whatever becomes of it. -/
theorem Hosts.addExt (hosts : c.Hosts residents guests id) (key : TypeKey) (manager : M) {ns : Namespace}
    (within : ns.pluginId = id) (library : Option LibraryId) :
    let run := Controller.addExt key manager ns library c
    (∃ guests', run.state.Hosts residents guests' id) ∧ ∀ x ∈ residents, story x.id run.trace = [] := by
  intro run
  have quiet : ∀ x ∈ residents, story x.id (deeds run.trace) = [] → story x.id run.trace = [] :=
    fun x _ nothing => (story_deeds x.id run.trace).symm.trans nothing
  cases (offered_addExt hosts.holds key manager ns library).1 with
  | refused taken result holds trace =>
    refine ⟨⟨guests, holds, hosts.theirs⟩, fun x resident => quiet x resident ?_⟩
    simp [run, trace, story, Event.befalls]
  | panicked panics holds trace =>
    refine ⟨⟨guests, holds, hosts.theirs⟩, fun x resident => quiet x resident ?_⟩
    simp [run, trace, story, Event.befalls, hosts.apart resident]
  | accepted result holds trace =>
    rw [List.append_assoc] at holds
    have mine : ∀ x ∈ [(⟨key, ⟨c.offered⟩, ns⟩ : Member)], x.ns.pluginId = id := List.forall_mem_singleton.mpr within
    refine ⟨⟨_, holds, List.forall_mem_append.mpr ⟨hosts.theirs, mine⟩⟩, fun x resident => quiet x resident ?_⟩
    simp [run, trace, story, Event.befalls, hosts.apart resident]

/-- The step lemma: a call within the namespaces of the plugin changes the guests alone, and residents hear nothing
but its phase. -/
theorem Hosts.call (hosts : c.Hosts residents guests id) {call : Call M} (within : call.Within id) :
    (∃ guests', (call.act c).state.Hosts residents guests' id) ∧
      ∀ x ∈ residents, ∀ e ∈ story x.id (call.act c).trace,
        ∃ phase, call = .dispatch phase ∧ e = .called x.id (.phase phase) := by
  cases call with
  | add manager ns =>
    obtain ⟨same, quiet⟩ := hosts.addExt (Manager.concrete manager) manager within none
    refine ⟨same, fun x resident e happened => ?_⟩
    have nothing : story x.id ((Call.add manager ns).act c).trace = [] := quiet x resident
    simp [nothing] at happened
  | addExt key manager ns library =>
    obtain ⟨same, quiet⟩ := hosts.addExt key manager within library
    refine ⟨same, fun x resident e happened => ?_⟩
    have nothing : story x.id ((Call.addExt key manager ns library).act c).trace = [] := quiet x resident
    simp [nothing] at happened
  | dispatch phase =>
    obtain ⟨same, -, done, part, trace, -⟩ := dispatch_spec hosts.holds phase
    refine ⟨⟨guests, same, hosts.theirs⟩, fun x resident e happened => ⟨phase, rfl, ?_⟩⟩
    have called : deeds ((Call.dispatch phase).act c).trace = summons done := trace
    rw [← story_deeds, called] at happened
    obtain ⟨deed, befalls⟩ := List.mem_filter.mp happened
    obtain ⟨⟨y, phase'⟩, planned, rfl⟩ := List.mem_map.mp deed
    have due := part.subset planned
    have here : y.id = x.id := by simpa [Event.befalls] using befalls
    have asked : phase' = phase := by grind
    simp only [here, asked]
  | releaseNamespace ns => cases within
  | releaseAll => cases within

/-- The residents stay, and nothing befalls them but the phases that are asked for. -/
theorem Hosts.run (hosts : c.Hosts residents guests id) {calls : List (Call M)}
    (within : ∀ call ∈ calls, call.Within id) :
    (∃ guests', (Action.reached Call.act c calls).Hosts residents guests' id) ∧
      ∀ x ∈ residents, ∀ e ∈ story x.id (Action.history Call.act c calls),
        ∃ phase, .dispatch phase ∈ calls ∧ e = .called x.id (.phase phase) := by
  induction calls generalizing c guests with
  | nil => exact ⟨⟨guests, hosts⟩, nofun⟩
  | cons call calls ih =>
    obtain ⟨⟨guests', next⟩, first⟩ := hosts.call (within call (.head _))
    obtain ⟨last, later⟩ := ih next fun other member => within other (.tail _ member)
    refine ⟨last, fun x resident e happened => ?_⟩
    rw [Action.history, story_append] at happened
    obtain here | there := List.mem_append.mp happened
    · obtain ⟨phase, rfl, called⟩ := first x resident e here
      exact ⟨phase, .head _, called⟩
    · obtain ⟨phase, member, called⟩ := later x resident e there
      exact ⟨phase, .tail _ member, called⟩

omit [Manager M] in
/-- The namespace of the plugin covers the guests and no resident. -/
theorem Hosts.leaving (hosts : c.Hosts residents guests id) (apart : ∀ x ∈ residents, x.ns.pluginId ≠ id) :
    (residents ++ guests).filter (fun x => (Namespace.plugin id).covers x.ns) = guests ∧
      (residents ++ guests).filter (fun x => !(Namespace.plugin id).covers x.ns) = residents := by
  have covered : ∀ ns, (Namespace.plugin id).covers ns ↔ ns.pluginId = id := by
    intro ns
    rw [Namespace.covers_of_plugin (by simp), Namespace.pluginId_plugin]
  have spared : ∀ x ∈ residents, ¬ (Namespace.plugin id).covers x.ns := fun x resident =>
    (covered x.ns).not.mpr (apart x resident)
  have taken : ∀ x ∈ guests, (Namespace.plugin id).covers x.ns := fun x guest =>
    (covered x.ns).mpr (hosts.theirs x guest)
  rw [List.filter_append, List.filter_append, List.filter_eq_nil_iff.mpr spared, List.filter_eq_self.mpr taken,
    List.filter_eq_self.mpr (by simpa using spared), List.filter_eq_nil_iff.mpr (by simpa using taken)]
  exact ⟨List.nil_append _, List.append_nil _⟩

/-- The guests leave when their plugin does, and the residents do not notice. -/
theorem Hosts.depart (hosts : c.Hosts residents guests id) (apart : ∀ x ∈ residents, x.ns.pluginId ≠ id)
    (smooth : c.Smooth (partings (c.crew.filter fun x => (Namespace.plugin id).covers x.ns))) :
    let run := releaseNamespace (.plugin id) c
    run.result = .ok () ∧ run.state.Holds residents ∧ ∀ x ∈ residents, story x.id run.trace = [] := by
  intro run
  obtain ⟨leaving, staying⟩ := hosts.leaving apart
  rw [hosts.holds.crew_eq] at smooth
  obtain ⟨ok, left, gone, perm, trace⟩ := releaseNamespace_of_smooth hosts.holds smooth
  rw [staying] at left
  rw [leaving] at perm trace
  refine ⟨ok, left, fun x resident => ?_⟩
  have ids := hosts.holds.ids
  rw [List.map_append, List.nodup_append] at ids
  have outside : x.id ∉ guests.map (·.id) := fun guest => ids.2.2 _ (List.mem_map_of_mem resident) _ guest rfl
  rw [← story_deeds, trace, story_append, story_partings ids.2.1, if_neg outside,
    story_destroyed (perm.nodup_iff.mpr ids.2.1), if_neg (perm.mem_iff.not.mpr outside)]
  rfl

omit [Manager M] in
/-- Two controllers with the same crew answer alike. -/
theorem Holds.same_answers {d : Controller M} {crew : List Member} (one : c.Holds crew) (other : d.Holds crew) :
    d.typeKeys = c.typeKeys ∧ d.namespaceOf? = c.namespaceOf? ∧ d.contains = c.contains := by
  refine ⟨other.order.trans one.order.symm, ?_, ?_⟩
  · funext key
    apply Option.ext
    intro ns
    exact (other.namespaceOf?_eq_some key ns).trans (one.namespaceOf?_eq_some key ns).symm
  · funext key
    rw [Bool.eq_iff_iff]
    exact (other.mem_keys key).symm.trans (one.mem_keys key)

end Controller

namespace Platform

open Controller

variable {M : Type} [Manager M] {site : Site M} {path : Path} {p q : Platform M} {crew : List Member} {name : String}

/-- The plugin that a library file brings along, and its manager. -/
theorem entered_load (holds : p.controller.Holds crew) (loaded : (load site path p).result = .ok (.ok name)) :
    let run := load site path p
    let id := p.catalogue.nextId
    ∃ (x : Member) (record : PluginRecord M), run.state.controller.Holds (crew ++ [x]) ∧ x.ns = .plugin id ∧
      record.info.ns = .plugin id ∧ record.info.origin ≠ .static ∧ p.catalogue.plugins[name]? = none ∧
      run.state.catalogue = { p.catalogue with
        plugins := p.catalogue.plugins.insert name record
        nextId := id + 1
        opened := p.catalogue.opened + 1 } ∧
      ∀ y ∈ crew, story y.id run.trace = [] := by
  intro run id
  obtain ⟨result, admission⟩ := exists_admission site path p
  have effect : Effect site path p run := admission.outcome.2
  simp only [Effect, run, loaded] at effect
  obtain ⟨image, entry, e, offers, vacant, admits⟩ := effect
  obtain ⟨dir, dynamic⟩ := settings_load site path p
  have absent : p.catalogue.plugins[name]? = none := by simpa [Catalogue.isLoaded] using offers.fresh
  -- the number is taken, so the library was not closed again
  have moved : run.state.catalogue.nextId ≠ p.catalogue.nextId := by simp [run, admits.nextId]
  cases loading_load holds site path with
  | ignored state trace => exact absurd (by rw [state]) moved
  | failed catalogue same offered trace => exact absurd (by rw [catalogue]) moved
  | entered q before same offered library opened e' state result trace allowed free =>
    cases (registering_register same library e').1 with
    | refused catalogue => exact absurd (by rw [state, catalogue, before]) moved
    | panicked panics catalogue => exact absurd (by rw [state, catalogue, before]) moved
    | accepted record owner key plugins number aboard trace' entry nextId blacklist =>
      rw [← state] at aboard blacklist number
      rw [before] at blacklist number
      have ns : record.info.ns = .plugin id := by rw [entry, before]
      refine ⟨_, ⟨⟨name, .plugin id, e.typeKey, .dynamic path⟩, some ⟨⟨p.catalogue.opened⟩, name, path, image⟩⟩, aboard,
        ns, rfl, by simp, absent, ?_, fun y aboard => ?_⟩
      · calc run.state.catalogue = ⟨run.state.catalogue.pluginDir, run.state.catalogue.loadDynamic,
              run.state.catalogue.blacklist, run.state.catalogue.plugins, run.state.catalogue.nextId,
              run.state.catalogue.opened⟩ := rfl
          _ = _ := by
            rw [dir, dynamic, blacklist, admits.plugins, admits.nextId, number]
            rfl
      · have apart : (⟨p.controller.offered⟩ : ManagerId) ≠ y.id := (holds.unused aboard).symm
        rw [← story_deeds, trace, trace', offered]
        simp [story, Event.befalls, apart]

/-- A file that was loaded once can be loaded wherever only the number is another. -/
theorem load_again (fixed : ∀ holder, site.conduct path holder = site.conduct path p.controller.holder)
    (loaded : (load site path p).result = .ok (.ok name)) {next : PluginId}
    (same : q.roll = { p.roll with nextId := next }) : (load site path q).result = .ok (.ok name) := by
  rw [(load_roll site path p).1] at loaded
  rw [(load_roll site path q).1, same, fixed, Roll.verdict_renumber]
  rcases verdict : p.roll.verdict path (site.conduct path p.controller.holder) with panic | error | info
  · rw [verdict] at loaded
    cases loaded
  · rw [verdict] at loaded
    cases loaded
  · rw [verdict] at loaded
    exact loaded

/-- A plugin whose managers are released without a panic is gone. -/
theorem unload_of_released {record : PluginRecord M} (found : p.catalogue.plugins[name]? = some record)
    (dynamic : record.info.origin ≠ .static)
    (released : (Controller.releaseNamespace record.info.ns p.controller).result = .ok ()) :
    let run := Controller.releaseNamespace record.info.ns p.controller
    (unload name p).result = .ok (.ok ()) ∧ (unload name p).state = ⟨run.state, p.catalogue.remove name⟩ ∧
      deeds (unload name p).trace = deeds run.trace ++ record.library?.toList.map (.closed ·.id) := by
  rw [unload_eq found dynamic, released]
  refine ⟨rfl, rfl, ?_⟩
  simp [deeds_flatMap deeds_closing]

variable {id : PluginId} {kept : Controller M} {guests : List Member} {record : PluginRecord M}

/-- The plugin goes with all of its guests. -/
theorem unload_guests (hosts : p.controller.Hosts crew guests id) (apart : ∀ x ∈ crew, x.ns.pluginId ≠ id)
    (smooth : p.controller.Smooth (partings (p.controller.crew.filter fun x => (Namespace.plugin id).covers x.ns)))
    (found : p.catalogue.plugins[name]? = some record) (dynamic : record.info.origin ≠ .static)
    (ns : record.info.ns = .plugin id) :
    let run := unload name p
    run.result = .ok (.ok ()) ∧ run.state.catalogue = p.catalogue.remove name ∧ run.state.controller.Holds crew ∧
      ∀ x ∈ crew, story x.id run.trace = [] := by
  intro run
  obtain ⟨released, left, quiet⟩ := hosts.depart apart smooth
  rw [← ns] at released left quiet
  obtain ⟨ok, state, trace⟩ := unload_of_released found dynamic released
  refine ⟨ok, by rw [state], by rwa [state], fun x resident => ?_⟩
  rw [← story_deeds, trace, story_append, story_deeds, quiet x resident]
  simp [story, Event.befalls]

/-- Who was there before a plugin was loaded is there after it was unloaded, and nobody else. -/
theorem residents_stay (holds : p.controller.Holds crew) (apart : ∀ x ∈ crew, x.ns.pluginId ≠ p.catalogue.nextId)
    (loaded : (load site path p).result = .ok (.ok name)) {between : List (Controller.Call M)}
    (within : ∀ call ∈ between, call.Within p.catalogue.nextId)
    (same : kept = Action.reached Controller.Call.act (load site path p).state.controller between)
    (smooth : kept.Smooth
      (partings (kept.crew.filter fun x => (Namespace.plugin p.catalogue.nextId).covers x.ns))) :
    let run := unload name { (load site path p).state with controller := kept }
    run.result = .ok (.ok ()) ∧
      run.state.catalogue = { p.catalogue with
        nextId := p.catalogue.nextId + 1
        opened := p.catalogue.opened + 1 } ∧
      run.state.controller.Holds crew ∧
      ∀ x ∈ crew, story x.id (load site path p).trace = [] ∧ story x.id run.trace = [] ∧
        ∀ e ∈ story x.id (Action.history Controller.Call.act (load site path p).state.controller between),
          ∃ phase, .dispatch phase ∈ between ∧ e = .called x.id (.phase phase) := by
  intro run
  obtain ⟨x, record, aboard, own, ns, dynamic, absent, entered, unheard⟩ := entered_load holds loaded
  have arrived : (load site path p).state.controller.Hosts crew [x] p.catalogue.nextId := by
    refine ⟨aboard, List.forall_mem_singleton.mpr ?_⟩
    rw [own, Namespace.pluginId_plugin]
  obtain ⟨⟨guests, hosts⟩, undisturbed⟩ := arrived.run within
  rw [← same] at hosts
  have found : (load site path p).state.catalogue.plugins[name]? = some record := by
    rw [entered]
    exact Std.ExtTreeMap.getElem?_insert_self
  obtain ⟨ok, catalogue, left, quiet⟩ := unload_guests (p := { (load site path p).state with controller := kept })
    hosts apart smooth found dynamic ns
  refine ⟨ok, ?_, left, fun y resident => ⟨unheard y resident, quiet y resident, undisturbed y resident⟩⟩
  rw [catalogue, entered, Catalogue.remove, Registry.erase_insert, Registry.erase_of_none absent]

omit [Manager M] in
/-- The same crew and the same plugins give the same roll. -/
theorem roll_of_holds {opened : Nat} {next : PluginId} (one : p.controller.Holds crew) (other : q.controller.Holds crew)
    (catalogue : q.catalogue = { p.catalogue with nextId := next, opened }) :
    q.roll = { p.roll with nextId := next } := by
  obtain ⟨keys, places, types⟩ := one.same_answers other
  refine Roll.ext ?record keys places types (congrArg Catalogue.nextId catalogue) ?blacklisted
  case record => simp only [roll, catalogue]
  case blacklisted =>
    change q.catalogue.isBlacklisted = p.catalogue.isBlacklisted
    rw [catalogue]
    rfl

/-- Unloading takes back what loading has done, with whatever was registered in the namespaces of the plugin in
between. The others stay as they are and hear no more than the phases that were asked for. -/
theorem unload_undoes_load (holder : Holder) (config : PluginConfig) (pluginDir : Path) (moves : List (Move M))
    (site : Site M) (path : Path) (name : String) (between : List (Controller.Call M)) :
    let p := Action.reached Move.act (fresh holder config pluginDir) moves
    let id := p.catalogue.nextId
    let loaded := load site path p
    let kept := Action.reached Controller.Call.act loaded.state.controller between
    let run := unload name { loaded.state with controller := kept }
    (∀ key ns, p.controller.namespaceOf? key = some ns → ns.pluginId ≠ id) →
    loaded.result = .ok (.ok name) → (∀ call ∈ between, call.Within id) →
    kept.Smooth (partings (kept.crew.filter fun x => (Namespace.plugin id).covers x.ns)) →
      run.result = .ok (.ok ()) ∧
      run.state.catalogue = { p.catalogue with nextId := id + 1, opened := p.catalogue.opened + 1 } ∧
      run.state.controller.typeKeys = p.controller.typeKeys ∧
      (∀ key, run.state.controller.namespaceOf? key = p.controller.namespaceOf? key) ∧
      run.state.controller.crew = p.controller.crew ∧
      (∀ x ∈ p.controller.crew, story x.id loaded.trace = [] ∧ story x.id run.trace = [] ∧
        ∀ e ∈ story x.id (Action.history Controller.Call.act loaded.state.controller between),
          ∃ phase, .dispatch phase ∈ between ∧ e = .called x.id (.phase phase)) ∧
      ((∀ holder, site.conduct path holder = site.conduct path p.controller.holder) → id.toNat + 1 < 2 ^ 32 →
        let again := load site path run.state
        again.result = .ok (.ok name) ∧ again.state.catalogue.namespaceOf? name = some (.plugin (id + 1)) ∧
          id.toNat < (id + 1).toNat) := by
  intro p id loaded kept run vacant ok within smooth
  obtain ⟨crew, holds⟩ : ∃ crew, p.controller.Holds crew := holds_of_moves holder config pluginDir moves
  have apart : ∀ x ∈ crew, x.ns.pluginId ≠ id := fun x resident =>
    vacant x.key x.ns ((holds.namespaceOf?_eq_some _ _).mpr ⟨x, resident, rfl, rfl⟩)
  obtain ⟨unloaded, catalogue, left, undisturbed⟩ := residents_stay holds apart ok within rfl smooth
  obtain ⟨keys, places, -⟩ := holds.same_answers left
  refine ⟨unloaded, catalogue, keys, congrFun places, left.crew_eq.trans holds.crew_eq.symm, ?_, ?_⟩
  · rw [holds.crew_eq]
    exact undisturbed
  · intro fixed room again
    have succeeds : again.result = .ok (.ok name) := load_again fixed ok (roll_of_holds holds left catalogue)
    have numbered := ((number_load site path run.state).1 name succeeds).1
    have next : run.state.catalogue.nextId = id + 1 := congrArg Catalogue.nextId catalogue
    refine ⟨succeeds, next ▸ numbered, ?_⟩
    rw [toNat_succ room]
    exact Nat.lt_succ_self _

/-- Between a plugin that is compiled in and another from a library, a plugin comes with an addin and goes, and comes
again. -/
theorem unload_undoes_load_guard :
    let clerk : Scripted := { key := ⟨"desk::Clerk"⟩, label := "clerk" }
    let guard : Scripted := { key := ⟨"gate::Guard"⟩, label := "guard" }
    let porter : Scripted := { key := ⟨"gate::Porter"⟩, label := "porter" }
    let dog : Scripted := { key := ⟨"gate::Dog"⟩, label := "dog" }
    let path : Path := .ofString "guard.so"
    let site : Site Scripted := .making ⟨fun _ => true, fun _ => .ok "", fun _ => none⟩ fun other =>
      .ok (if other = path then guard else porter)
    let holder : Holder := ⟨.empty, ⟨[]⟩, ⟨[]⟩, .off⟩
    let moves : List (Move Scripted) := [.call (.addStatic clerk), .call (.load site (.ofString "porter.so"))]
    let between : List (Controller.Call Scripted) :=
      [.add dog (.of 2 1), .dispatch .init, .addExt clerk.key clerk (.of 2 7) none]
    let p := Action.reached Move.act (fresh holder {} ⟨[]⟩) moves
    let loaded := load site path p
    let kept := Action.reached Controller.Call.act loaded.state.controller between
    let run := unload "guard" { loaded.state with controller := kept }
    kept.typeKeys = [clerk.key, porter.key, guard.key, dog.key] ∧ run.result = .ok (.ok ()) ∧
      run.state.controller.typeKeys = [clerk.key, porter.key] ∧ story ⟨0⟩ run.trace = [] ∧
      (load site path run.state).result = .ok (.ok "guard") ∧
      (load site path run.state).state.catalogue.namespaceOf? "guard" = some (.plugin 3) := by
  intro clerk guard porter dog path site holder moves between p loaded kept run
  have number : p.catalogue.nextId = 2 := by decide +kernel
  have there : p.controller.crew = [⟨clerk.key, ⟨0⟩, .core⟩, ⟨porter.key, ⟨1⟩, .plugin 1⟩] := by decide +kernel
  have vacant : ∀ key ns, p.controller.namespaceOf? key = some ns → ns.pluginId ≠ p.catalogue.nextId := by
    intro key ns registered
    obtain ⟨crew, holds⟩ : ∃ crew, p.controller.Holds crew := holds_of_moves holder {} ⟨[]⟩ moves
    have apart : ∀ x ∈ p.controller.crew, x.ns.pluginId ≠ p.catalogue.nextId := by
      rw [there, number]
      decide
    obtain ⟨x, member, -, rfl⟩ := (holds.namespaceOf?_eq_some key ns).mp registered
    exact apart x (holds.crew_eq ▸ member)
  have within : ∀ call ∈ between, call.Within p.catalogue.nextId := by
    rw [number]
    have addins : (Namespace.of 2 1).pluginId = 2 ∧ (Namespace.of 2 7).pluginId = 2 := by decide
    exact List.forall_mem_cons.mpr
      ⟨addins.1, List.forall_mem_cons.mpr ⟨trivial, List.forall_mem_singleton.mpr addins.2⟩⟩
  obtain ⟨ok, catalogue, keys, -, -, quiet, again⟩ :=
    unload_undoes_load holder {} ⟨[]⟩ moves site path "guard" between vacant (by decide +kernel) within
      (smooth_iff.mpr (by decide +kernel))
  obtain ⟨succeeds, numbered, -⟩ := again (fun _ => Site.steady_scripted _ _ _ _ _) (by rw [number]; decide)
  refine ⟨by decide +kernel, ok, keys.trans (by decide +kernel), ?_, succeeds, numbered.trans (by rw [number]; decide)⟩
  exact (quiet ⟨clerk.key, ⟨0⟩, .core⟩ (there ▸ List.mem_cons_self)).2.1

end Platform

end PluginHost
