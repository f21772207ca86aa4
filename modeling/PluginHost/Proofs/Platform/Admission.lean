import PluginHost.Manager.Scripted
import PluginHost.Proofs.Controller.Offer
import PluginHost.Proofs.Platform.Loading

namespace PluginHost

variable {M : Type}

/-- The entry point that a library exports for a plugin. -/
def Image.entryOf? (image : Image M) (name : String) : Option (EntryPoint M) :=
  (LibraryName.symbol? (LibraryName.entrySymbol name)).bind image.entry?

namespace Platform

/-- A file may be opened: it has a plugin name, which is neither blacklisted nor taken. -/
structure Openable (path : Path) (p : Platform M) (name : String) : Prop where
  named : LibraryName.pluginName? path = some name
  allowed : ¬ p.catalogue.isBlacklisted name
  fresh : ¬ p.catalogue.isLoaded name

/-- A library makes a manager: it opens and has the entry point, which returns one. -/
structure Offers (site : Site M) (path : Path) (p : Platform M) (name : String) (image : Image M)
    (entry : EntryPoint M) (e : Export M) : Prop extends Openable path p name where
  opens : site.image path = .ok image
  exports : image.entryOf? name = some entry
  gives : (entry p.controller.holder).export? = some e

variable [Manager M] {site : Site M} {path : Path} {p : Platform M}

/-- The outcome of loading a file. Each constructor past the first presumes what the one before it lacks. -/
inductive Admission (site : Site M) (path : Path) (p : Platform M) :
    Except Panic (Except PluginError String) → Prop where
  | nameless (named : LibraryName.pluginName? path = none) : Admission site path p (.ok (.error (.invalidName path)))
  | blacklisted {name : String} (named : LibraryName.pluginName? path = some name)
      (refused : p.catalogue.isBlacklisted name) : Admission site path p (.ok (.error (.blacklisted name)))
  | known {name : String} (named : LibraryName.pluginName? path = some name)
      (allowed : ¬ p.catalogue.isBlacklisted name) (taken : p.catalogue.isLoaded name) :
      Admission site path p (.ok (.error (.alreadyLoaded name)))
  | shut {name reason : String} (openable : Openable path p name) (shut : site.image path = .error reason) :
      Admission site path p (.ok (.error (.load path reason)))
  | unexported {name : String} {image : Image M} (openable : Openable path p name)
      (opens : site.image path = .ok image) (lacks : image.entryOf? name = none) :
      Admission site path p (.ok (.error (.symbolNotFound (LibraryName.entrySymbol name) path.display)))
  | failed {name : String} {image : Image M} {entry : EntryPoint M} (openable : Openable path p name)
      (opens : site.image path = .ok image) (exports : image.entryOf? name = some entry)
      (fails : (entry p.controller.holder).export? = none) :
      Admission site path p (.ok (.error (.entryFailed (LibraryName.entrySymbol name) path.display)))
  | duplicate {name : String} {image : Image M} {entry : EntryPoint M} {e : Export M}
      (offers : Offers site path p name image entry e) (taken : p.controller.contains e.typeKey) :
      Admission site path p (.ok (.error (.duplicateManager e.typeKey.name)))
  | panicked {name : String} {image : Image M} {entry : EntryPoint M} {e : Export M} {panic : Panic}
      (offers : Offers site path p name image entry e) (vacant : ¬ p.controller.contains e.typeKey)
      (panics : (Manager.hook .attach e.manager (entry p.controller.holder).holder).panic? = some panic) :
      Admission site path p (.error panic)
  | admitted {name : String} {image : Image M} {entry : EntryPoint M} {e : Export M}
      (offers : Offers site path p name image entry e) (vacant : ¬ p.controller.contains e.typeKey)
      (calm : (Manager.hook .attach e.manager (entry p.controller.holder).holder).panic? = none) :
      Admission site path p (.ok (.ok name))

/-- Some condition is the first to fail, or all of them hold. -/
theorem exists_admission (site : Site M) (path : Path) (p : Platform M) : ∃ result, Admission site path p result := by
  cases named : LibraryName.pluginName? path with
  | none => exact ⟨_, .nameless named⟩
  | some name =>
    by_cases refused : p.catalogue.isBlacklisted name
    · exact ⟨_, .blacklisted named refused⟩
    by_cases taken : p.catalogue.isLoaded name
    · exact ⟨_, .known named refused taken⟩
    have openable : Openable path p name := ⟨named, refused, taken⟩
    cases opens : site.image path with
    | error reason => exact ⟨_, .shut openable opens⟩
    | ok image =>
      cases exports : image.entryOf? name with
      | none => exact ⟨_, .unexported openable opens exports⟩
      | some entry =>
        cases gives : (entry p.controller.holder).export? with
        | none => exact ⟨_, .failed openable opens exports gives⟩
        | some e =>
          have offers : Offers site path p name image entry e := ⟨openable, opens, exports, gives⟩
          by_cases registered : p.controller.contains e.typeKey
          · exact ⟨_, .duplicate offers registered⟩
          · cases panics : (Manager.hook .attach e.manager (entry p.controller.holder).holder).panic? with
            | none => exact ⟨_, .admitted offers registered panics⟩
            | some panic => exact ⟨_, .panicked offers registered panics⟩

/-- The plugins, the number of the next one and the managers are as before. -/
structure Spares (p after : Platform M) : Prop where
  plugins : after.catalogue.plugins = p.catalogue.plugins
  nextId : after.catalogue.nextId = p.catalogue.nextId
  registry : after.controller.registry = p.controller.registry
  order : after.controller.order = p.controller.order

omit [Manager M] in
theorem spares_refl (p : Platform M) : Spares p p := ⟨rfl, rfl, rfl, rfl⟩

omit [Manager M] in
/-- The call of an entry point changes the holder and opens a library, and spares everything else. -/
theorem Spares.of_called {called after : Platform M} {holder : Holder} {opened : Nat} (spares : Spares called after)
    (controller : called.controller = { p.controller with holder })
    (catalogue : called.catalogue = { p.catalogue with opened }) : Spares p after where
  plugins := by rw [spares.plugins, catalogue]
  nextId := by rw [spares.nextId, catalogue]
  registry := by rw [spares.registry, controller]
  order := by rw [spares.order, controller]

/-- What happens around a file that is refused: nothing, or its library is closed in the end, after the manager
that it made is destroyed. -/
def retreats (library : LibraryId) (manager : ManagerId) : List (List Event) :=
  [[], [.opened library, .closed library],
    [.opened library, .offered manager (some library), .destroyed manager, .closed library],
    [.opened library, .offered manager (some library), .called manager .attach, .destroyed manager, .closed library]]

theorem load_of_nameless (site : Site M) (p : Platform M) (named : LibraryName.pluginName? path = none) :
    load site path p = ⟨p, [], .ok (.error (.invalidName path))⟩ := by
  unfold load
  rw [Action.get_bind, named]
  rfl

/-- A name on the blacklist is refused before the file is opened. -/
theorem load_of_blacklisted {name : String} (site : Site M) (named : LibraryName.pluginName? path = some name)
    (refused : p.catalogue.isBlacklisted name) :
    load site path p = ⟨p, [], .ok (.error (.blacklisted name))⟩ := by
  unfold load
  rw [Action.get_bind, named]
  dsimp only
  rw [if_pos refused]
  rfl

/-- A name that is taken is refused before the file is opened. -/
theorem load_of_isLoaded {name : String} (site : Site M) (named : LibraryName.pluginName? path = some name)
    (allowed : ¬ p.catalogue.isBlacklisted name) (taken : p.catalogue.isLoaded name) :
    load site path p = ⟨p, [], .ok (.error (.alreadyLoaded name))⟩ := by
  unfold load
  rw [Action.get_bind, named]
  dsimp only
  rw [if_neg allowed, if_pos taken]
  rfl

theorem load_of_openable {name : String} (site : Site M) (openable : Openable path p name) :
    load site path p = loadNamed site path name p := by
  unfold load
  rw [Action.get_bind, openable.named]
  dsimp only
  rw [if_neg openable.allowed, if_neg openable.fresh]

/-- A library that makes no manager is closed at once. -/
theorem load_of_fruitless {name : String} {image : Image M} {error : PluginError} (openable : Openable path p name)
    (opens : site.image path = .ok image)
    (fruitless : ((⟨⟨p.catalogue.opened⟩, name, path, image⟩ : Library M).loadExport p.controller.holder).result =
      .error error) :
    let run := load site path p
    run.result = .ok (.error error) ∧ Spares p run.state ∧
      deeds run.trace = [.opened ⟨p.catalogue.opened⟩, .closed ⟨p.catalogue.opened⟩] := by
  intro run
  have whole := loadNamed_of_image (p := p) opens name
  rw [← load_of_openable site openable] at whole
  simp only [fruitless] at whole
  simp only [run, whole]
  exact ⟨trivial, ⟨rfl, rfl, rfl, rfl⟩, by simp⟩

/-- A library that makes a manager offers it to the platform as it was but for the holder. -/
theorem load_of_offers {name : String} {image : Image M} {entry : EntryPoint M} {e : Export M}
    (offers : Offers site path p name image entry e) :
    let library : Library M := ⟨⟨p.catalogue.opened⟩, name, path, image⟩
    ∃ called : Platform M,
      called.controller = { p.controller with holder := (entry p.controller.holder).holder } ∧
      called.catalogue = { p.catalogue with opened := p.catalogue.opened + 1 } ∧
      (load site path p).result = (register library e called).result ∧
      (load site path p).state = (register library e called).state ∧
      deeds (load site path p).trace = .opened library.id :: deeds (register library e called).trace := by
  intro library
  have made : library.loadExport p.controller.holder =
      ⟨.ok e, (entry p.controller.holder).holder, (entry p.controller.holder).log⟩ := by
    have exported : library.lookup? library.entrySymbol = some entry := offers.exports
    simp only [Library.loadExport, exported, offers.gives]
  have whole := loadNamed_of_image (p := p) offers.opens name
  rw [← load_of_openable site offers.toOpenable] at whole
  simp only [library] at made
  simp only [made] at whole
  exact ⟨⟨{ p.controller with holder := (entry p.controller.holder).holder },
    { p.catalogue with opened := p.catalogue.opened + 1 }⟩, rfl, rfl, by rw [whole], by rw [whole],
    by rw [whole]; simp [library]⟩

/-- A type that is taken hands the manager back, and the library is closed after it. -/
theorem register_of_contains {library : Library M} {e : Export M} (taken : p.controller.contains e.typeKey) :
    let run := register library e p
    run.result = .ok (.error (.duplicateManager e.typeKey.name)) ∧ Spares p run.state ∧
      deeds run.trace =
        [.offered ⟨p.controller.offered⟩ (some library.id), .destroyed ⟨p.controller.offered⟩, .closed library.id] := by
  intro run
  simp only [run, register_eq, Controller.addExt_of_contains taken]
  exact ⟨trivial, ⟨rfl, rfl, rfl, rfl⟩, by simp [Instance.destruction]⟩

/-- A manager that panics over the holder is destroyed before its library is closed. -/
theorem register_of_panic {library : Library M} {e : Export M} {panic : Panic}
    (vacant : ¬ p.controller.contains e.typeKey)
    (panics : (Manager.hook .attach e.manager p.controller.holder).panic? = some panic) :
    let run := register library e p
    run.result = .error panic ∧ Spares p run.state ∧
      deeds run.trace = [.offered ⟨p.controller.offered⟩ (some library.id),
        .called ⟨p.controller.offered⟩ .attach, .destroyed ⟨p.controller.offered⟩, .closed library.id] := by
  intro run
  obtain ⟨error, left, trace⟩ :=
    Controller.addExt_of_panic vacant panics (.plugin p.catalogue.nextId) (some library.id)
  simp only [run, register_eq, error, left]
  exact ⟨trivial, ⟨rfl, rfl, rfl, rfl⟩, by simp [trace]⟩

/-- A plugin that is registered: its record, its manager at the end of the order, and the next number. -/
structure Admits (p after : Platform M) (library : Library M) (key : TypeKey) : Prop where
  plugins : after.catalogue.plugins = p.catalogue.plugins.insert library.name
    ⟨⟨library.name, .of p.catalogue.nextId 0, key, .dynamic library.path⟩, some library⟩
  nextId : after.catalogue.nextId = p.catalogue.nextId + 1
  registry : ∃ m, after.controller.registry = p.controller.registry.file m key (.of p.catalogue.nextId 0)
  order : after.controller.order = p.controller.order ++ [key]

omit [Manager M] in
/-- What is admitted after the call of the entry point is admitted on the whole. -/
theorem Admits.of_called {called after : Platform M} {holder : Holder} {opened : Nat} {library : Library M}
    {key : TypeKey} (admits : Admits called after library key)
    (controller : called.controller = { p.controller with holder })
    (catalogue : called.catalogue = { p.catalogue with opened }) : Admits p after library key where
  plugins := by rw [admits.plugins, catalogue]
  nextId := by rw [admits.nextId, catalogue]
  registry := by simpa [controller, catalogue] using admits.registry
  order := by rw [admits.order, controller]

/-- A manager that takes the holder is registered together with its plugin. -/
theorem register_of_calm {library : Library M} {e : Export M} (vacant : ¬ p.controller.contains e.typeKey)
    (calm : (Manager.hook .attach e.manager p.controller.holder).panic? = none) :
    let run := register library e p
    run.result = .ok (.ok library.name) ∧ Admits p run.state library e.typeKey := by
  intro run
  obtain ⟨ok, left⟩ := Controller.addExt_of_calm vacant calm (.plugin p.catalogue.nextId) (some library.id)
  simp only [run, register_eq, ok, left]
  exact ⟨rfl, rfl, rfl, ⟨_, rfl⟩, rfl⟩

/-- What loading leaves: a plugin with its manager and its number, or everything as before. -/
def Effect (site : Site M) (path : Path) (p : Platform M) (run : Run (Platform M) (Except PluginError String)) : Prop :=
  match run.result with
  | .ok (.ok name) => ∃ image entry e, Offers site path p name image entry e ∧ ¬ p.controller.contains e.typeKey ∧
      Admits p run.state ⟨⟨p.catalogue.opened⟩, name, path, image⟩ e.typeKey
  | _ => Spares p run.state ∧ deeds run.trace ∈ retreats ⟨p.catalogue.opened⟩ ⟨p.controller.offered⟩

/-- Each condition that fails has its error, and the effects of that error. -/
theorem Admission.outcome {result : Except Panic (Except PluginError String)}
    (admission : Admission site path p result) :
    (load site path p).result = result ∧ Effect site path p (load site path p) := by
  unfold Effect
  cases admission with
  | nameless named =>
    rw [load_of_nameless site p named]
    exact ⟨rfl, spares_refl p, by simp [retreats]⟩
  | blacklisted named refused =>
    rw [load_of_blacklisted site named refused]
    exact ⟨rfl, spares_refl p, by simp [retreats]⟩
  | known named allowed taken =>
    rw [load_of_isLoaded site named allowed taken]
    exact ⟨rfl, spares_refl p, by simp [retreats]⟩
  | shut openable shut =>
    rw [load_of_openable site openable, loadNamed_of_error shut]
    exact ⟨rfl, spares_refl p, by simp [retreats]⟩
  | @unexported name image openable opens lacks =>
    let library : Library M := ⟨⟨p.catalogue.opened⟩, name, path, image⟩
    have nothing : library.lookup? library.entrySymbol = none := lacks
    have fruitless : (library.loadExport p.controller.holder).result =
        .error (.symbolNotFound (LibraryName.entrySymbol name) path.display) := by
      simp only [Library.loadExport, nothing]
      rfl
    obtain ⟨result, spares, trace⟩ := load_of_fruitless openable opens fruitless
    rw [result, trace]
    exact ⟨rfl, spares, by simp [retreats]⟩
  | @failed name image entry openable opens exports fails =>
    let library : Library M := ⟨⟨p.catalogue.opened⟩, name, path, image⟩
    have exported : library.lookup? library.entrySymbol = some entry := exports
    have fruitless : (library.loadExport p.controller.holder).result =
        .error (.entryFailed (LibraryName.entrySymbol name) path.display) := by
      simp only [Library.loadExport, exported, fails]
      rfl
    obtain ⟨result, spares, trace⟩ := load_of_fruitless openable opens fruitless
    rw [result, trace]
    exact ⟨rfl, spares, by simp [retreats]⟩
  | @duplicate name image entry e offers taken =>
    obtain ⟨called, controller, catalogue, same, state, trace⟩ := load_of_offers offers
    have still : called.controller.contains e.typeKey := by rwa [controller]
    obtain ⟨result, spares, undone⟩ := register_of_contains still
    rw [same, state, trace, undone, result, controller]
    exact ⟨rfl, spares.of_called controller catalogue, by simp [retreats]⟩
  | @panicked name image entry e panic offers vacant panics =>
    obtain ⟨called, controller, catalogue, same, state, trace⟩ := load_of_offers offers
    have still : ¬ called.controller.contains e.typeKey := by rwa [controller]
    obtain ⟨result, spares, undone⟩ := register_of_panic still (by rwa [controller])
    rw [same, state, trace, undone, result, controller]
    exact ⟨rfl, spares.of_called controller catalogue, by simp [retreats]⟩
  | @admitted name image entry e offers vacant calm =>
    obtain ⟨called, controller, catalogue, same, state, -⟩ := load_of_offers offers
    have still : ¬ called.controller.contains e.typeKey := by rwa [controller]
    obtain ⟨result, admits⟩ := register_of_calm still (by rwa [controller])
    rw [same, state, result]
    exact ⟨rfl, image, entry, e, offers, vacant, admits.of_called controller catalogue⟩

/-- The outcome of loading is decided by the conditions in their order. A plugin is registered with its manager and
its number or not at all, and what is blacklisted or registered already is not even looked at. -/
theorem load_decided (site : Site M) (path : Path) (p : Platform M) (below : p.catalogue.nextId.toNat + 1 < 2 ^ 32) :
    let run := load site path p
    (∀ result, run.result = result ↔ Admission site path p result) ∧ Effect site path p run ∧
    (∀ name, run.result = .ok (.ok name) → run.state.catalogue.nextId.toNat = p.catalogue.nextId.toNat + 1) ∧
    ∀ name, LibraryName.pluginName? path = some name → p.catalogue.isBlacklisted name ∨ p.catalogue.isLoaded name →
      run.state = p ∧ run.trace = [] ∧ ∀ other : Site M, load other path p = run := by
  intro run
  obtain ⟨result, admission⟩ := exists_admission site path p
  obtain ⟨same, effect⟩ := admission.outcome
  refine ⟨fun _ => ⟨fun equal => equal ▸ same ▸ admission, fun a => a.outcome.1⟩, effect, ?_, ?_⟩
  · intro name ok
    have entered : Effect site path p run := effect
    simp only [Effect, ok] at entered
    obtain ⟨image, entry, e, offers, vacant, admits⟩ := entered
    rw [admits.nextId, toNat_succ below]
  · intro name named closed
    by_cases refused : p.catalogue.isBlacklisted name
    · simp only [run, load_of_blacklisted _ named refused]
      exact ⟨trivial, trivial, fun _ => trivial⟩
    · have taken := closed.resolve_left refused
      simp only [run, load_of_isLoaded _ named refused taken]
      exact ⟨trivial, trivial, fun _ => trivial⟩

/-- A plugin is loaded, loaded again, and a library without its entry point is opened. -/
theorem load_decided_clerk :
    let clerk : Scripted := { key := ⟨"desk::Clerk"⟩, label := "clerk" }
    let image : Image Scripted :=
      ⟨fun symbol => if symbol = "LoadclerkPluginX64" then some (enter fun holder => ⟨.ok clerk, holder, []⟩) else none⟩
    let site : Site Scripted := ⟨⟨fun _ => true, fun _ => .ok "", fun _ => none⟩, fun _ => .ok image⟩
    let p : Platform Scripted := ⟨{ holder := ⟨.empty, ⟨[]⟩, ⟨[]⟩, .off⟩ }, { pluginDir := .ofString "p" }⟩
    let path := Path.ofString "p/libclerk.so"
    let first := load site path p
    let second := load site path first.state
    let third := load site (.ofString "p/guard.so") first.state
    first.result = .ok (.ok "clerk") ∧ first.state.catalogue.nextId.toNat = 2 ∧
      second.result = .ok (.error (.alreadyLoaded "clerk")) ∧ second.trace = [] ∧
      Admission site (.ofString "p/guard.so") first.state third.result ∧
      third.result = .ok (.error (.symbolNotFound "LoadguardPluginX64" "p/guard.so")) ∧
      Spares first.state third.state := by
  intro clerk image site p path first second third
  obtain ⟨-, -, number, -⟩ := load_decided site path p (by decide)
  have loaded : first.result = .ok (.ok "clerk") := by decide +kernel
  have two : first.state.catalogue.nextId.toNat = 2 := number "clerk" loaded
  have below : first.state.catalogue.nextId.toNat + 1 < 2 ^ 32 := by rw [two]; decide
  obtain ⟨-, -, -, idle⟩ := load_decided site path first.state below
  obtain ⟨-, nothing, -⟩ := idle "clerk" (by decide +kernel) (.inr (by decide +kernel))
  obtain ⟨decided, effect, -⟩ := load_decided site (.ofString "p/guard.so") first.state below
  have lacks : third.result = .ok (.error (.symbolNotFound "LoadguardPluginX64" "p/guard.so")) := by decide +kernel
  have spared : Effect site (.ofString "p/guard.so") first.state third := effect
  simp only [Effect, lacks] at spared
  exact ⟨loaded, two, by decide +kernel, nothing, (decided _).mp rfl, lacks, spared.1⟩

end Platform

end PluginHost
