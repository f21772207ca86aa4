import PluginHost.Catalogue

namespace PluginHost

/-- The registered managers and the registered plugins. -/
structure Platform (M : Type) where
  controller : Controller M
  catalogue : Catalogue M

namespace Platform

variable {M : Type} [Manager M]

/-- An operation on the managers alone. -/
def onController {α : Type} (x : Action (Controller M) α) : Action (Platform M) α :=
  .zoom controller (fun c p => { p with controller := c }) x

/-- A change of the catalogue alone. -/
def modifyCatalogue (f : Catalogue M → Catalogue M) : Action (Platform M) Unit :=
  .modify fun p => { p with catalogue := f p.catalogue }

def info (text : String) : Action (Platform M) Unit := .log .info Catalogue.target text

/-- Registers a plugin that is compiled into the host, under the short name of its manager's type. -/
def addStatic (manager : M) : Action (Platform M) (Except PluginError Unit) := do
  let key := Manager.concrete manager
  let name := key.shortName
  let p ← .get
  if p.catalogue.isLoaded name then
    return .error (.alreadyLoaded name)
  match ← onController (Controller.add manager .core) with
  | some rejected =>
    onController (Controller.destroy rejected)
    return .error (.duplicateManager key.name)
  | none =>
    info ("Registered static plugin '" ++ name ++ "'")
    modifyCatalogue (·.enter ⟨⟨name, .core, key, .static⟩, none⟩)
    return .ok ()

/-- Opens a library and numbers it. -/
def openLibrary (site : Site M) (path : Path) (name : String) :
    Action (Platform M) (Except PluginError (Library M)) := do
  let p ← .get
  match Library.openAt site ⟨p.catalogue.opened⟩ path name with
  | .error error => return .error error
  | .ok library =>
    modifyCatalogue fun k => { k with opened := k.opened + 1 }
    .emit [.opened library.id]
    return .ok library

/-- Closes a library. -/
def closeLibrary (library : Library M) : Action (Platform M) Unit := .emit library.closing

/-- Calls the entry point of a library. -/
def loadExport (library : Library M) : Action (Platform M) (Except PluginError (Export M)) := do
  let p ← .get
  let loaded := library.loadExport p.controller.holder
  onController (.modify fun c => { c with holder := loaded.holder })
  .emit (loaded.log.map .logged)
  return loaded.result

/-- Enters the plugin of a library whose manager has been registered. -/
def enterPlugin (library : Library M) (key : TypeKey) (ns : Namespace) :
    Action (Platform M) (Except PluginError String) := do
  modifyCatalogue fun k => { k with nextId := k.nextId + 1 }
  info ("Loaded plugin '" ++ library.name ++ "' (" ++ key.shortName ++ ") in namespace " ++ ns.display)
  modifyCatalogue (·.enter ⟨⟨library.name, ns, key, .dynamic library.path⟩, some library⟩)
  return .ok library.name

/--
Registers the manager that an open library made, and its plugin. A manager that is refused is
destroyed before the library is closed.
-/
def register (library : Library M) (e : Export M) :
    Action (Platform M) (Except PluginError String) := do
  let p ← .get
  let ns := Namespace.plugin p.catalogue.nextId
  let rejected ←
    (onController (Controller.addExt e.typeKey e.manager ns (some library.id))).onPanic
      (closeLibrary library)
  match rejected with
  | some rejected =>
    onController (Controller.destroy rejected)
    closeLibrary library
    return .error (.duplicateManager e.typeKey.name)
  | none => enterPlugin library e.typeKey ns

/-- Loads the plugin of a name from a library file. -/
def loadNamed (site : Site M) (path : Path) (name : String) :
    Action (Platform M) (Except PluginError String) := do
  match ← openLibrary site path name with
  | .error error => return .error error
  | .ok library =>
    match ← loadExport library with
    | .error error =>
      closeLibrary library
      return .error error
    | .ok e => register library e

/-- Loads the plugin in a library file and gives its name. -/
def load (site : Site M) (path : Path) : Action (Platform M) (Except PluginError String) := do
  let p ← .get
  match LibraryName.pluginName? path with
  | none => return .error (.invalidName path)
  | some name =>
    if p.catalogue.isBlacklisted name then
      return .error (.blacklisted name)
    if p.catalogue.isLoaded name then
      return .error (.alreadyLoaded name)
    loadNamed site path name

/-- Loads plugins from library files, one after the other, and counts those that could be loaded. -/
def loadEach (site : Site M) : List Path → Action (Platform M) Nat
  | [] => return 0
  | path :: rest => do
    match ← load site path with
    | .ok _ => return (← loadEach site rest) + 1
    | .error error =>
      .log .warn Catalogue.target ("Skipping plugin " ++ path.display ++ ": " ++ error.message)
      loadEach site rest

/-- Loads every plugin in the plugin directory and gives their number. -/
def discover (site : Site M) : Action (Platform M) Nat := do
  let p ← .get
  let dir := p.catalogue.pluginDir
  if !p.catalogue.loadDynamic then
    info "Dynamic plugin loading is disabled"
    return 0
  let (listed, records) := LibraryFolder.list site.files dir
  .emit (records.map .logged)
  match listed with
  | .error error =>
    .log .warn Catalogue.target ("Cannot scan plugin directory " ++ dir.display ++ ": " ++ error.message)
    return 0
  | .ok paths =>
    let count ← loadEach site paths
    info ("Loaded " ++ toString count ++ " plugin(s) from " ++ dir.display)
    return count

/-- Takes a plugin down with its namespace, then closes its library. -/
def unload (name : String) : Action (Platform M) (Except PluginError Unit) := do
  let p ← .get
  match p.catalogue.plugins[name]? with
  | none => return .error (.notFound name)
  | some record =>
    if record.info.origin = .static then
      return .error (.staticPlugin name)
    onController (Controller.releaseNamespace record.info.ns)
    modifyCatalogue (·.remove name)
    .forEach record.library?.toList closeLibrary
    info ("Unloaded plugin '" ++ name ++ "'")
    return .ok ()

/--
The end of the catalogue. The libraries of registered plugins stay open, for their managers may live
on in the controller.
-/
def dropCatalogue : Action (Platform M) Unit := modifyCatalogue fun k => { k with plugins := ∅ }

end Platform

end PluginHost
