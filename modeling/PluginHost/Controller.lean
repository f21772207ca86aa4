import PluginHost.Manager.Basic
import PluginHost.Registry.Report

namespace PluginHost

/-- The owner of the managers, at most one of each type, in the order of their registration. -/
structure Controller (M : Type) where
  /-- handed to every manager when it is registered -/
  holder : Holder
  registry : Registry TypeKey (Instance M) := .empty
  /-- the registered types, earliest registration first -/
  order : List TypeKey := []
  /-- how many managers were offered so far; it numbers the next one -/
  offered : Nat := 0

/-- What the destruction of a manager leaves in the trace. -/
def Instance.destruction {M : Type} [Manager M] (m : Instance M) : List Event :=
  (Manager.destroy m.manager).map .logged ++ [.destroyed m.id]

namespace Controller

variable {M : Type} [Manager M]

def target : String := "void_plugin::controller"

def contains (c : Controller M) (key : TypeKey) : Bool := c.registry.contains key

def namespaceOf? (c : Controller M) (key : TypeKey) : Option Namespace := c.registry.namespaceOf? key

def typeKeys (c : Controller M) : List TypeKey := c.order

def size (c : Controller M) : Nat := c.order.length

def isEmpty (c : Controller M) : Bool := c.order.isEmpty

/-- The manager of a type, if the one under its key passes for the type. -/
def get? (c : Controller M) (key : TypeKey) : Option M :=
  (c.registry.get? key).bind fun m => Manager.downcast? m.manager key

/-- Changes the manager of a type, if the one under its key passes for the type. -/
def change (c : Controller M) (key : TypeKey) (f : M → M) : Controller M :=
  if (c.get? key).isSome then
    { c with registry := c.registry.modify key fun m => { m with manager := f m.manager } }
  else c

/-- Numbers a manager that is offered for registration. -/
def offer (manager : M) (library : Option LibraryId) : Action (Controller M) (Instance M) := fun c =>
  let id : ManagerId := ⟨c.offered⟩
  ⟨{ c with offered := c.offered + 1 }, [.offered id library], .ok ⟨id, manager⟩⟩

/-- Hands the holder to a manager. One that panics over it is destroyed. -/
def attach (m : Instance M) : Action (Controller M) (Instance M) := fun c =>
  let reply := Manager.hook .attach m.manager c.holder
  let m := { m with manager := reply.manager }
  let c := { c with holder := reply.holder }
  let trace := .called m.id .attach :: reply.log.map .logged
  match reply.panic? with
  | none => ⟨c, trace, .ok m⟩
  | some panic => ⟨c, trace ++ m.destruction, .error panic⟩

/-- Destroys a manager that is not registered. -/
def destroy (m : Instance M) : Action (Controller M) Unit := .emit m.destruction

/--
Registers a manager as the one of a type. A second one of the type is handed back as it came, without
having been attached.
-/
def addExt (key : TypeKey) (manager : M) (ns : Namespace) (library : Option LibraryId) :
    Action (Controller M) (Option (Instance M)) := do
  let m ← offer manager library
  let c ← .get
  if c.contains key then
    .log .error target ("Manager '" ++ key.display ++
      "' is already registered, ignoring registration from " ++ ns.display)
    return some m
  let m ← attach m
  let c ← .get
  match c.registry.add m key ns with
  | .error m =>
    .emit [.logged (Registry.rejection key.debug ns)]
    return some m
  | .ok registry =>
    .modify fun c => { c with registry, order := c.order ++ [key] }
    .log .debug target ("Registered manager '" ++ key.shortName ++ "' in " ++ ns.display)
    return none

/-- Registers a manager under its own type. -/
def add (manager : M) (ns : Namespace) : Action (Controller M) (Option (Instance M)) :=
  addExt (Manager.concrete manager) manager ns none

/-- Calls one hook of the manager under a key. -/
def call (key : TypeKey) (phase : Phase) : Action (Controller M) Unit := fun c =>
  match c.registry.get? key with
  | none => ⟨c, [], .ok ()⟩
  | some m =>
    let reply := Manager.hook (.phase phase) m.manager c.holder
    let c := { c with
      holder := reply.holder
      registry := c.registry.modify key fun m => { m with manager := reply.manager } }
    let trace := .called m.id (.phase phase) :: reply.log.map .logged
    match reply.panic? with
    | none => ⟨c, trace, .ok ()⟩
    | some panic => ⟨c, trace, .error panic⟩

/-- Calls hooks one after the other. A panic ends the sequence. -/
def play (calls : List (TypeKey × Phase)) : Action (Controller M) Unit :=
  Action.forEach calls fun (key, phase) => call key phase

/-- Calls the hook of a phase on every manager, in the order of registration. -/
def dispatch (phase : Phase) : Action (Controller M) Unit := do
  let c ← .get
  play (c.order.map (·, phase))

/-- Calls the hook of a phase on the manager of one type. Tells whether there is one. -/
def dispatchOne (key : TypeKey) (phase : Phase) : Action (Controller M) Bool := do
  let c ← .get
  if (c.get? key).isSome then
    call key phase
    return true
  return false

/-- Destroys managers, in order. -/
def destroyAll (ms : List (Instance M)) : Action (Controller M) Unit := .forEach ms destroy

/-- Takes a namespace out of the registry and destroys what was in it. -/
def clearNamespace (ns : Namespace) : Action (Controller M) Unit := do
  let c ← .get
  let (taken, registry) := c.registry.clearNamespace ns
  .modify fun c => { c with registry }
  .emit [.logged (Registry.clearance taken.length ns)]
  destroyAll taken

/--
Takes a namespace down. Each manager in it is released and then post-released, in the order of
registration, before any of them is destroyed.
-/
def releaseNamespace (ns : Namespace) : Action (Controller M) Unit := do
  let c ← .get
  let owned := c.registry.names ns
  let affected := c.order.filter (owned.contains ·)
  play (affected.flatMap fun key => [(key, .release), (key, .postRelease)])
  .modify fun c => { c with order := c.order.filter (!owned.contains ·) }
  clearNamespace ns
  if !owned.isEmpty then
    .log .info target ("Released " ++ toString owned.length ++ " manager(s) from namespace " ++ ns.display)

/-- Takes one manager out of the registry and destroys it. -/
def discard (key : TypeKey) : Action (Controller M) Unit := do
  let c ← .get
  let (taken, registry) := c.registry.remove key
  .modify fun c => { c with registry }
  destroyAll taken.toList

/-- Destroys every manager, latest registration first. No hook is called. -/
def clear : Action (Controller M) Unit := do
  let c ← .get
  .modify fun c => { c with order := [] }
  .forEach c.order.reverse discard
  let c ← .get
  let (taken, registry) := c.registry.clear
  .modify fun c => { c with registry }
  destroyAll taken

/-- Releases every manager, post-releases every manager, and destroys them all. -/
def releaseAll : Action (Controller M) Unit := do
  dispatch .release
  dispatch .postRelease
  clear

/-- The end of a controller destroys what is left in it. -/
def drop : Action (Controller M) Unit := clear

def debug (c : Controller M) : String :=
  Text.fields "ControllerManager" [("managers", Text.listing (c.order.map TypeKey.debug))]

end Controller

end PluginHost
