import PluginHost.Platform
import PluginHost.Proofs.Controller.Release

namespace PluginHost.Platform

open Controller

variable {M : Type} {p : Platform M} {crew : List Member}

@[simp]
theorem onController_run {α : Type} (x : Action (Controller M) α) :
    onController x p =
      ⟨{ p with controller := (x p.controller).state }, (x p.controller).trace, (x p.controller).result⟩ :=
  rfl

@[simp]
theorem deeds_closing (library : Library M) : deeds library.closing = [.closed library.id] := by
  simp [Library.closing]

theorem closeLibraries_run (libraries : List (Library M)) :
    Action.forEach libraries closeLibrary p = ⟨p, libraries.flatMap (·.closing), .ok ()⟩ :=
  Action.forEach_emit libraries _

variable [Manager M]

@[simp]
theorem destroy_bind {α : Type} (m : Instance M) (f : Unit → Action (Platform M) α) :
    (onController (Controller.destroy m) >>= f) p =
      ⟨(f () p).state, m.destruction ++ (f () p).trace, (f () p).result⟩ :=
  rfl

/-- What becomes of a manager that is compiled into the host. -/
inductive Adding (p : Platform M) (crew : List Member)
    (run : Run (Platform M) (Except PluginError Unit)) : Prop where
  | ignored (state : run.state = p) (trace : deeds run.trace = [])
  | refused (catalogue : run.state.catalogue = p.catalogue) (holds : run.state.controller.Holds crew)
      (offered : run.state.controller.offered = p.controller.offered + 1)
      (trace : deeds run.trace = [.offered ⟨p.controller.offered⟩ none, .destroyed ⟨p.controller.offered⟩])
  | panicked (panics : ∃ panic, run.result = .error panic) (catalogue : run.state.catalogue = p.catalogue)
      (holds : run.state.controller.Holds crew)
      (offered : run.state.controller.offered = p.controller.offered + 1)
      (trace : deeds run.trace =
        [.offered ⟨p.controller.offered⟩ none, .called ⟨p.controller.offered⟩ .attach,
        .destroyed ⟨p.controller.offered⟩])
  | accepted (record : PluginRecord M) (compiled : record.library? = none)
      (catalogue : run.state.catalogue = p.catalogue.enter record) (key : TypeKey)
      (holds : run.state.controller.Holds (crew ++ [⟨key, ⟨p.controller.offered⟩, record.info.ns⟩]))
      (offered : run.state.controller.offered = p.controller.offered + 1)
      (trace : deeds run.trace =
        [.offered ⟨p.controller.offered⟩ none, .called ⟨p.controller.offered⟩ .attach])
      (free : ¬ p.catalogue.isLoaded record.info.name)
      (entry : record.info = ⟨key.shortName, .core, key, .static⟩)

/-- A plugin that is compiled in comes to one of four ends. -/
theorem adding_addStatic (holds : p.controller.Holds crew) (manager : M) :
    Adding p crew (addStatic manager p) := by
  unfold addStatic
  rw [Action.get_bind]
  split
  · exact .ignored rfl rfl
  · rename_i free
    obtain ⟨offer, offered⟩ := offered_addExt holds (Manager.concrete manager) manager .core none
    have added : onController (Controller.add manager .core) p =
      ⟨{ p with controller := (addExt (Manager.concrete manager) manager .core none p.controller).state },
        (addExt (Manager.concrete manager) manager .core none p.controller).trace,
        (addExt (Manager.concrete manager) manager .core none p.controller).result⟩ := rfl
    generalize addExt (Manager.concrete manager) manager .core none p.controller = run at offer offered added
    cases offer with
    | refused taken result holds trace =>
      rw [Action.bind_of_ok (by rw [added, result]), added]
      exact .refused rfl holds offered (by simp [trace])
    | panicked panics holds trace =>
      obtain ⟨panic, result⟩ := panics
      rw [Action.bind_of_error (by rw [added, result]), added]
      exact .panicked ⟨panic, rfl⟩ rfl holds offered trace
    | accepted result holds trace =>
      rw [Action.bind_of_ok (by rw [added, result]), added]
      refine .accepted _ rfl rfl _ holds offered ?_ free rfl
      simp [info, modifyCatalogue, trace]

/-- What becomes of a manager that an open library made. -/
inductive Registering (p : Platform M) (crew : List Member) (library : Library M)
    (run : Run (Platform M) (Except PluginError String)) : Prop where
  | refused (catalogue : run.state.catalogue = p.catalogue) (holds : run.state.controller.Holds crew)
      (trace : deeds run.trace =
        [.offered ⟨p.controller.offered⟩ (some library.id), .destroyed ⟨p.controller.offered⟩,
        .closed library.id])
  | panicked (panics : ∃ panic, run.result = .error panic) (catalogue : run.state.catalogue = p.catalogue)
      (holds : run.state.controller.Holds crew)
      (trace : deeds run.trace = [.offered ⟨p.controller.offered⟩ (some library.id),
        .called ⟨p.controller.offered⟩ .attach, .destroyed ⟨p.controller.offered⟩, .closed library.id])
  | accepted (record : PluginRecord M) (owner : record.library? = some library) (key : TypeKey)
      (plugins : run.state.catalogue.plugins = p.catalogue.plugins.insert record.info.name record)
      (opened : run.state.catalogue.opened = p.catalogue.opened)
      (holds : run.state.controller.Holds (crew ++ [⟨key, ⟨p.controller.offered⟩, record.info.ns⟩]))
      (trace : deeds run.trace = [.offered ⟨p.controller.offered⟩ (some library.id),
        .called ⟨p.controller.offered⟩ .attach])
      (entry : record.info = ⟨library.name, .plugin p.catalogue.nextId, key, .dynamic library.path⟩)
      (nextId : run.state.catalogue.nextId = p.catalogue.nextId + 1)
      (blacklist : run.state.catalogue.blacklist = p.catalogue.blacklist)

/-- The offer of the manager decides what becomes of the library. -/
theorem register_eq (p : Platform M) (library : Library M) (e : Export M) :
    let ns := Namespace.plugin p.catalogue.nextId
    let run := addExt e.typeKey e.manager ns (some library.id) p.controller
    let q : Platform M := { p with controller := run.state }
    let entering := enterPlugin library e.typeKey ns q
    register library e p = match run.result with
      | .error panic => ⟨q, run.trace ++ library.closing, .error panic⟩
      | .ok (some rejected) => ⟨q, run.trace ++ (rejected.destruction ++ library.closing),
          .ok (.error (.duplicateManager e.typeKey.name))⟩
      | .ok none => ⟨entering.state, run.trace ++ entering.trace, entering.result⟩ := by
  intro ns run q entering
  have offering := onController_run (p := p) (addExt e.typeKey e.manager ns (some library.id))
  unfold register
  rw [Action.get_bind]
  cases result : run.result with
  | error panic =>
    rw [Action.bind_of_error (by rw [Action.onPanic_of_error (by rw [offering, result])]),
      Action.onPanic_of_error (by rw [offering, result]), offering]
    rfl
  | ok rejected =>
    rw [Action.bind_of_ok (by rw [Action.onPanic_of_ok (by rw [offering, result]), offering, result]),
      Action.onPanic_of_ok (by rw [offering, result]), offering]
    cases rejected with
    | none => rfl
    | some rejected => simp [closeLibrary, run, q]

/-- The manager from a library is offered under the namespace of its plugin, and the record is entered with it or
not at all. -/
theorem registering_register (holds : p.controller.Holds crew) (library : Library M) (e : Export M) :
    Registering p crew library (register library e p) ∧
      (register library e p).state.controller.offered = p.controller.offered + 1 := by
  obtain ⟨offer, offered⟩ := offered_addExt holds e.typeKey e.manager (.plugin p.catalogue.nextId)
    (some library.id)
  rw [register_eq]
  generalize addExt e.typeKey e.manager (.plugin p.catalogue.nextId) (some library.id) p.controller =
    run at offer offered ⊢
  cases offer with
  | refused taken result holds trace =>
    simp only [result]
    exact ⟨.refused rfl holds (by simp [trace]), offered⟩
  | panicked panics holds trace =>
    obtain ⟨panic, result⟩ := panics
    simp only [result]
    exact ⟨.panicked ⟨panic, rfl⟩ rfl holds (by simp [trace]), offered⟩
  | accepted result holds trace =>
    simp only [result]
    exact ⟨.accepted _ rfl _ rfl rfl holds (by simp [enterPlugin, info, modifyCatalogue, trace])
      rfl rfl rfl, offered⟩

/-- What the loading of a library comes to. -/
inductive Loading (p : Platform M) (crew : List Member)
    (run : Run (Platform M) (Except PluginError String)) : Prop where
  | ignored (state : run.state = p) (trace : deeds run.trace = [])
  | failed (catalogue : run.state.catalogue = { p.catalogue with opened := p.catalogue.opened + 1 })
      (holds : run.state.controller.Holds crew)
      (offered : run.state.controller.offered = p.controller.offered)
      (trace : deeds run.trace = [.opened ⟨p.catalogue.opened⟩, .closed ⟨p.catalogue.opened⟩])
  | entered (q : Platform M) (catalogue : q.catalogue = { p.catalogue with opened := p.catalogue.opened + 1 })
      (holds : q.controller.Holds crew) (offered : q.controller.offered = p.controller.offered)
      (library : Library M) (opened : library.id = ⟨p.catalogue.opened⟩) (e : Export M)
      (state : run.state = (register library e q).state) (result : run.result = (register library e q).result)
      (trace : deeds run.trace = .opened library.id :: deeds (register library e q).trace)
      (allowed : ¬ p.catalogue.isBlacklisted library.name) (free : ¬ p.catalogue.isLoaded library.name)

/-- A file that does not open has changed nothing. -/
theorem loadNamed_of_error {site : Site M} {path : Path} {reason : String} (shut : site.image path = .error reason)
    (name : String) : loadNamed site path name p = ⟨p, [], .ok (.error (.load path reason))⟩ := by
  have opening : openLibrary site path name p = ⟨p, [], .ok (.error (.load path reason))⟩ := by
    simp [openLibrary, Library.openAt, shut]
  unfold loadNamed
  rw [Action.bind_of_ok (by rw [opening]), opening]
  rfl

/-- Of an open library either the entry point fails, and it is closed, or the manager is offered. -/
theorem loadNamed_of_image {site : Site M} {path : Path} {image : Image M} (opens : site.image path = .ok image)
    (name : String) :
    let library : Library M := ⟨⟨p.catalogue.opened⟩, name, path, image⟩
    let loaded := library.loadExport p.controller.holder
    let called : Platform M := ⟨{ p.controller with holder := loaded.holder },
      { p.catalogue with opened := p.catalogue.opened + 1 }⟩
    let heard : List Event := .opened library.id :: loaded.log.map .logged
    loadNamed site path name p = match loaded.result with
      | .error error => ⟨called, heard ++ library.closing, .ok (.error error)⟩
      | .ok e => ⟨(register library e called).state, heard ++ (register library e called).trace,
          (register library e called).result⟩ := by
  intro library loaded called heard
  have opening : openLibrary site path name p =
      ⟨{ p with catalogue := { p.catalogue with opened := p.catalogue.opened + 1 } }, [.opened library.id],
        .ok (.ok library)⟩ := by
    simp [openLibrary, Library.openAt, opens, modifyCatalogue, library]
  have calling : loadExport library { p with catalogue := { p.catalogue with opened := p.catalogue.opened + 1 } } =
      ⟨called, loaded.log.map .logged ++ [], .ok loaded.result⟩ := rfl
  unfold loadNamed
  rw [Action.bind_of_ok (by rw [opening]), opening]
  dsimp only
  rw [Action.bind_of_ok (by rw [calling]), calling]
  cases loaded.result <;> simp [heard, closeLibrary]

/-- A library that is opened is closed again, or its plugin is registered. -/
theorem loading_loadNamed (holds : p.controller.Holds crew) (site : Site M) (path : Path) {name : String}
    (allowed : ¬ p.catalogue.isBlacklisted name) (free : ¬ p.catalogue.isLoaded name) :
    Loading p crew (loadNamed site path name p) := by
  cases opens : site.image path with
  | error reason =>
    rw [loadNamed_of_error opens]
    exact .ignored rfl rfl
  | ok image =>
    let library : Library M := ⟨⟨p.catalogue.opened⟩, name, path, image⟩
    let loaded := library.loadExport p.controller.holder
    have same : ({ p.controller with holder := loaded.holder } : Controller M).Holds crew :=
      holds.of_registry holds.toHolds rfl le_rfl
    rw [loadNamed_of_image opens]
    cases loaded.result with
    | error error => exact .failed rfl same rfl (by simp)
    | ok e =>
      exact .entered ⟨{ p.controller with holder := loaded.holder }, _⟩ rfl same rfl library rfl e rfl rfl
        (by simp [library, loaded]) allowed free

/-- A file is refused before it is opened, or what becomes of its library decides. -/
theorem loading_load (holds : p.controller.Holds crew) (site : Site M) (path : Path) :
    Loading p crew (load site path p) := by
  unfold load
  rw [Action.get_bind]
  cases LibraryName.pluginName? path with
  | none => exact .ignored rfl rfl
  | some name =>
    dsimp only
    split
    · exact .ignored rfl rfl
    · rename_i allowed
      split
      · exact .ignored rfl rfl
      · rename_i free
        exact loading_loadNamed holds site path allowed free

/-- What loading leaves: everything as it was, or one plugin more under the next number. -/
inductive Taking (p : Platform M) (crew : List Member) (after : Platform M) : Prop where
  | idle (plugins : after.catalogue.plugins = p.catalogue.plugins)
      (blacklist : after.catalogue.blacklist = p.catalogue.blacklist)
      (nextId : after.catalogue.nextId = p.catalogue.nextId) (holds : after.controller.Holds crew)
  | taken (record : PluginRecord M) (name : String) (key : TypeKey) (source : Path)
      (entry : record.info = ⟨name, .plugin p.catalogue.nextId, key, .dynamic source⟩)
      (allowed : ¬ p.catalogue.isBlacklisted name) (free : ¬ p.catalogue.isLoaded name)
      (plugins : after.catalogue.plugins = p.catalogue.plugins.insert record.info.name record)
      (blacklist : after.catalogue.blacklist = p.catalogue.blacklist)
      (nextId : after.catalogue.nextId = p.catalogue.nextId + 1)
      (holds : after.controller.Holds (crew ++ [⟨key, ⟨p.controller.offered⟩, record.info.ns⟩]))

/-- What loading takes from the next numbers, and what it leaves. -/
theorem taking_load (holds : p.controller.Holds crew) (site : Site M) (path : Path) :
    Taking p crew (load site path p).state := by
  cases loading_load holds site path with
  | ignored state trace =>
    rw [state]
    exact .idle rfl rfl rfl holds
  | failed catalogue same => exact .idle (by rw [catalogue]) (by rw [catalogue]) (by rw [catalogue]) same
  | entered q catalogue same offered library opened e state result trace allowed free =>
    rw [state]
    cases (registering_register same library e).1 with
    | refused rest same => exact .idle (by rw [rest, catalogue]) (by rw [rest, catalogue]) (by rw [rest, catalogue]) same
    | panicked panics rest same =>
      exact .idle (by rw [rest, catalogue]) (by rw [rest, catalogue]) (by rw [rest, catalogue]) same
    | accepted record owner key plugins opened aboard trace entry nextId blacklist =>
      rw [catalogue] at entry plugins nextId blacklist
      rw [offered] at aboard
      exact .taken record library.name key library.path entry allowed free plugins blacklist nextId aboard

/-- A file that is refused by its name leads nowhere, so only opened libraries have to be looked at. -/
theorem leads_load_of_named {I fail : List Event → Platform M → Prop} {site : Site M} {path : Path}
    (leads : ∀ name, (loadNamed site path name).Leads I I fail) : (load site path).Leads I I fail := by
  refine Action.leads_get_bind fun _ p _ => ?_
  split
  · exact Action.leads_pure _
  · split
    · exact Action.leads_pure _
    · split
      · exact Action.leads_pure _
      · exact leads _

/-- Discovery does nothing but load plugins, one after the other. -/
theorem leads_discover {I fail : List Event → Platform M → Prop} {site : Site M}
    (leads : ∀ path, (load site path).Leads I I fail) : (discover site).Leads I I fail := by
  have each : ∀ paths, (loadEach site paths).Leads I I fail := by
    intro paths
    induction paths with
    | nil => exact Action.leads_pure 0
    | cons path paths ih =>
      refine (leads path).bind fun loaded => ?_
      cases loaded with
      | ok name => exact ih.bind fun count => Action.leads_pure _
      | error error => exact Action.leads_log.bind fun _ => ih
  refine Action.leads_get_bind fun _ p _ => ?_
  dsimp only
  split
  · exact Action.leads_log.bind fun _ => Action.leads_pure 0
  · refine (Action.leads_emit (deeds_logged _)).bind fun _ => ?_
    split
    · exact Action.leads_log.bind fun _ => Action.leads_pure 0
    · exact (each _).bind fun count => Action.leads_log.bind fun _ => Action.leads_pure count

/-- The release of its namespace decides over the unloading of a plugin. -/
theorem unload_eq {name : String} {record : PluginRecord M} (found : p.catalogue.plugins[name]? = some record)
    (dynamic : record.info.origin ≠ .static) :
    let run := Controller.releaseNamespace record.info.ns p.controller
    unload name p = match run.result with
      | .error panic => ⟨{ p with controller := run.state }, run.trace, .error panic⟩
      | .ok _ => ⟨⟨run.state, p.catalogue.remove name⟩, run.trace ++ (record.library?.toList.flatMap (·.closing) ++
          [.logged ⟨.info, Catalogue.target, "Unloaded plugin '" ++ name ++ "'"⟩]), .ok (.ok ())⟩ := by
  intro run
  have released := onController_run (p := p) (Controller.releaseNamespace record.info.ns)
  unfold unload
  rw [Action.get_bind]
  simp only [found, dynamic, if_false]
  cases result : run.result with
  | error panic =>
    rw [Action.bind_of_error (by rw [released, result]), released]
  | ok _ =>
    rw [Action.bind_of_ok (by rw [released, result]), released]
    simp only [modifyCatalogue, Action.modify_bind]
    rw [Action.bind_of_ok (by rw [closeLibraries_run]), closeLibraries_run]
    rfl

/-- What the unloading of a plugin comes to. -/
inductive Unloading (p : Platform M) (crew : List Member) (name : String)
    (run : Run (Platform M) (Except PluginError Unit)) : Prop where
  | ignored (state : run.state = p) (trace : deeds run.trace = [])
  | broken (catalogue : run.state.catalogue = p.catalogue)
      (broken : Broken p.controller crew ⟨run.state.controller, run.trace, run.result⟩)
  | unloaded (record : PluginRecord M) (found : p.catalogue.plugins[name]? = some record)
      (catalogue : run.state.catalogue = p.catalogue.remove name)
      (holds : run.state.controller.Holds (crew.filter fun x => !record.info.ns.covers x.ns))
      (offered : run.state.controller.offered = p.controller.offered) (gone : List ManagerId)
      (perm : gone.Perm ((crew.filter fun x => record.info.ns.covers x.ns).map (·.id)))
      (trace : deeds run.trace = summons (partings (crew.filter fun x => record.info.ns.covers x.ns)) ++
        gone.map .destroyed ++ (record.library?.toList.map (·.id)).map .closed)
      (dynamic : record.info.origin ≠ .static)

/-- Unloading is refused, broken off by a hook, or it takes the plugin, its managers and its library, in this order.
-/
theorem unloading_unload (holds : p.controller.Holds crew) (name : String) :
    Unloading p crew name (unload name p) := by
  cases found : p.catalogue.plugins[name]? with
  | none =>
    have idle : unload name p = ⟨p, [], .ok (.error (.notFound name))⟩ := by simp [unload, found]
    rw [idle]
    exact .ignored rfl rfl
  | some record =>
    by_cases dynamic : record.info.origin = .static
    · have idle : unload name p = ⟨p, [], .ok (.error (.staticPlugin name))⟩ := by simp [unload, found, dynamic]
      rw [idle]
      exact .ignored rfl rfl
    · rw [unload_eq found dynamic]
      rcases releaseNamespace_spec holds record.info.ns with broken | ⟨ok, left, offered, gone, perm, trace⟩
      · obtain ⟨panic, result⟩ := broken.panics
        simp only [result]
        exact .broken rfl ⟨⟨panic, rfl⟩, broken.holds, broken.offered, broken.called⟩
      · simp only [ok]
        exact .unloaded record found rfl left offered gone perm (by simp [trace, deeds_flatMap deeds_closing]) dynamic

end PluginHost.Platform
