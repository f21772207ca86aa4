import PluginHost.Platform

namespace PluginHost

/-- The states in the life of a host. A call that does not fit the state is ignored. -/
inductive RuntimeState where
  /-- plugins have not been looked for -/
  | created
  /-- plugins are registered -/
  | loaded
  /-- managers are initialised and updated -/
  | running
  /-- managers are released -/
  | stopped
  deriving DecidableEq, Repr

def RuntimeState.debug : RuntimeState → String
  | created => "Created" | loaded => "Loaded" | running => "Running" | stopped => "Stopped"

/-- A platform with how far its host has come. -/
structure Runtime (M : Type) where
  platform : Platform M
  state : RuntimeState := .created
  /-- completed updates -/
  frame : UInt64 := 0

namespace Runtime

variable {M : Type} [Manager M]

def target : String := "void_runtime::runtime"

/-- A runtime under a configuration, and what is written when it is made. -/
def ofConfig (config : RuntimeConfig) (exeDir : Path) (logger : Log.Filter) :
    Runtime M × List Log.Record :=
  let holder := Holder.ofConfig config exeDir logger
  ({ platform :=
      { controller := { holder }
        catalogue := .ofConfig config.plugins holder.pluginDir } },
   [⟨.info, target, "Creating Void runtime..."⟩,
    ⟨.info, target, "Plugin directory: " ++ holder.pluginDir.display⟩])

def controller (r : Runtime M) : Controller M := r.platform.controller

def catalogue (r : Runtime M) : Catalogue M := r.platform.catalogue

def holder (r : Runtime M) : Holder := r.controller.holder

/-- An operation on plugins and managers. -/
def onPlatform {α : Type} (x : Action (Platform M) α) : Action (Runtime M) α :=
  .zoom platform (fun p r => { r with platform := p }) x

/-- An operation on the managers alone. -/
def onController {α : Type} (x : Action (Controller M) α) : Action (Runtime M) α :=
  onPlatform (Platform.onController x)

def setState (state : RuntimeState) : Action (Runtime M) Unit := .modify fun r => { r with state }

/-- Registers a plugin that is compiled into the host. -/
def addStatic (manager : M) : Action (Runtime M) (Except PluginError Unit) :=
  onPlatform (Platform.addStatic manager)

/-- Looks for plugins and gives the number of those that were loaded. -/
def preInit (site : Site M) : Action (Runtime M) Nat := do
  let r ← .get
  if r.state ≠ .created then
    .log .warn target ("pre_init called in state " ++ r.state.debug ++ ", ignoring")
    return 0
  let count ← onPlatform (Platform.discover site)
  setState .loaded
  return count

/-- Initialises every manager. -/
def start : Action (Runtime M) Unit := do
  onController (Controller.dispatch .init)
  onController (Controller.dispatch .postInit)
  setState .running
  let r ← .get
  .log .info target ("Runtime initialized with " ++ toString r.controller.size ++ " manager(s)")

/-- Initialises every manager, after looking for plugins if that has not been done. -/
def init (site : Site M) : Action (Runtime M) Unit := do
  let r ← .get
  match r.state with
  | .created => do
    let _ ← preInit site
    start
  | .loaded => start
  | .running | .stopped =>
    .log .warn target ("init called in state " ++ r.state.debug ++ ", ignoring")

/-- Runs one frame of updates. -/
def update : Action (Runtime M) Unit := do
  let r ← .get
  if r.state = .running then
    onController (Controller.dispatch .preUpdate)
    onController (Controller.dispatch .update)
    onController (Controller.dispatch .postUpdate)
    .modify fun r => { r with frame := r.frame + 1 }

/-- Takes a plugin from a library down. A stopped runtime has none. -/
def unload (name : String) : Action (Runtime M) (Except PluginError Unit) := do
  let r ← .get
  if r.state = .stopped then
    return .error (.notFound name)
  onPlatform (Platform.unload name)

/-- Releases and destroys every manager. -/
def shutdown : Action (Runtime M) Unit := do
  let r ← .get
  if r.state ≠ .stopped then
    .log .info target ("Shutting down runtime after " ++ toString r.frame.toNat ++ " frame(s)...")
    onController Controller.releaseAll
    setState .stopped

/-- The end of a runtime: a shutdown, then the end of the managers, then that of the plugins. -/
def drop : Action (Runtime M) Unit :=
  (shutdown.andFinally (onController Controller.drop)).andFinally (onPlatform Platform.dropCatalogue)

/-- Lines on the state, the frame, the managers and the plugins. -/
def statusText (r : Runtime M) : List String :=
  ("state: " ++ r.state.debug ++ ", frame: " ++ toString r.frame.toNat ++ ", managers: "
      ++ toString r.controller.size) ::
    r.catalogue.plugins.toList.map fun (_, record) =>
      "  " ++ record.info.name ++ " [" ++ record.info.ns.display ++ "] -> "
        ++ record.info.manager.shortName

def debug (r : Runtime M) : String :=
  Text.fields "Runtime"
    [("state", r.state.debug), ("frame", toString r.frame.toNat), ("controllers", r.controller.debug),
     ("plugins", r.catalogue.debug)]

end Runtime

end PluginHost
