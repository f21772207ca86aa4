import PluginHost.Namespace
import PluginHost.Registry.Index

namespace PluginHost

/-- Objects by name, with the names grouped by the plugin or the addin that registered them. What an operation
takes out it hands to its caller, who destroys it. -/
structure Registry (N T : Type) [Ord N] where
  /-- The objects by name. -/
  objects : Std.ExtTreeMap N T compare := ∅
  /-- The namespace that each name was registered under. -/
  namespaces : Std.ExtTreeMap N Namespace compare := ∅
  /-- The names registered directly under a plugin. -/
  pluginNames : Index PluginId N := ∅
  /-- The names registered under an addin. -/
  addinNames : Index Namespace N := ∅
  /-- The addins of a plugin that have names. -/
  pluginAddins : Index PluginId Namespace := ∅

namespace Registry

variable {N T : Type} [Ord N] [Std.TransOrd N]

def empty : Registry N T := {}

def get? (r : Registry N T) (name : N) : Option T := r.objects[name]?

def contains (r : Registry N T) (name : N) : Bool := r.objects.contains name

def namespaceOf? (r : Registry N T) (name : N) : Option Namespace := r.namespaces[name]?

def size (r : Registry N T) : Nat := r.objects.size

def isEmpty (r : Registry N T) : Bool := r.objects.isEmpty

/-- Every registered name. -/
def allNames (r : Registry N T) : List N := r.objects.keys

/-- Files an object under a free name. -/
def file (r : Registry N T) (object : T) (name : N) (ns : Namespace) : Registry N T :=
  let r := { r with
    objects := r.objects.insert name object
    namespaces := r.namespaces.insert name ns }
  if ns.isAddin then
    { r with
      addinNames := r.addinNames.add ns name
      pluginAddins := r.pluginAddins.add ns.pluginId ns }
  else
    { r with pluginNames := r.pluginNames.add ns.pluginId name }

/-- The first registration of a name wins: a later one gets its object back. -/
def add (r : Registry N T) (object : T) (name : N) (ns : Namespace) : Except T (Registry N T) :=
  if r.contains name then .error object else .ok (r.file object name ns)

theorem add_error {r : Registry N T} {object back : T} {name : N} {ns : Namespace}
    (refused : r.add object name ns = .error back) : back = object := by
  unfold add at refused
  split at refused
  · exact (Except.error.inj refused).symm
  · cases refused

/-- Changes the object under a name where it stands. -/
def modify (r : Registry N T) (name : N) (f : T → T) : Registry N T :=
  { r with objects := r.objects.modify name f }

/-- Forgets an addin of its plugin. -/
def forgetAddin (r : Registry N T) (ns : Namespace) : Registry N T :=
  { r with pluginAddins := r.pluginAddins.discard ns.pluginId ns }

/-- Takes one name out of the group it belongs to. An addin without names is forgotten. -/
def ungroup (r : Registry N T) (name : N) (ns : Namespace) : Registry N T :=
  if ns.isAddin then
    let r := { r with addinNames := r.addinNames.discard ns name }
    if r.addinNames.contains ns then r else r.forgetAddin ns
  else
    { r with pluginNames := r.pluginNames.discard ns.pluginId name }

/-- Takes one object out. -/
def remove (r : Registry N T) (name : N) : Option T × Registry N T :=
  match r.namespaces[name]? with
  | none => (none, r)
  | some ns =>
    let r := { r with namespaces := r.namespaces.erase name }.ungroup name ns
    (r.objects[name]?, { r with objects := r.objects.erase name })

/-- Takes the objects of some names out, in the order of the names. Their groups stay as they are. -/
def takeNames (r : Registry N T) : List N → List T × Registry N T
  | [] => ([], r)
  | name :: rest =>
    let next := { r with
      objects := r.objects.erase name
      namespaces := r.namespaces.erase name }
    let (taken, last) := next.takeNames rest
    (r.objects[name]?.toList ++ taken, last)

/-- Takes everything out that one addin registered. -/
def clearAddin (r : Registry N T) (ns : Namespace) : List T × Registry N T :=
  let (taken, r) :=
    { r with addinNames := r.addinNames.erase ns }.takeNames (r.addinNames.members ns).toList
  (taken, r.forgetAddin ns)

/-- Takes everything out that the addins of a list registered. -/
def clearAddins (r : Registry N T) : List Namespace → List T × Registry N T
  | [] => ([], r)
  | ns :: rest =>
    let (taken, r) := r.clearAddin ns
    let (more, r) := r.clearAddins rest
    (taken ++ more, r)

/-- Takes everything out that a plugin registered, itself or through an addin. -/
def clearPlugin (r : Registry N T) (plugin : PluginId) : List T × Registry N T :=
  let (taken, r) :=
    { r with pluginNames := r.pluginNames.erase plugin }.takeNames
      (r.pluginNames.members plugin).toList
  let (more, r) :=
    { r with pluginAddins := r.pluginAddins.erase plugin }.clearAddins
      (r.pluginAddins.members plugin).toList
  (taken ++ more, r)

/-- Takes everything out that was registered in a namespace. -/
def clearNamespace (r : Registry N T) (ns : Namespace) : List T × Registry N T :=
  if ns.isAddin then r.clearAddin ns else r.clearPlugin ns.pluginId

/-- Every stored object, in the order of the names. -/
def allObjects (r : Registry N T) : List T := r.objects.toList.map (·.2)

/-- Takes everything out. -/
def clear (r : Registry N T) : List T × Registry N T := (r.allObjects, empty)

/-- The names registered in a namespace; for a plugin, those of its addins too. -/
def names (r : Registry N T) (ns : Namespace) : List N :=
  if ns.isAddin then (r.addinNames.members ns).toList
  else
    (r.pluginNames.members ns.pluginId).toList ++
      (r.pluginAddins.members ns.pluginId).toList.flatMap fun addin =>
        (r.addinNames.members addin).toList

@[simp]
theorem objects_ungroup (r : Registry N T) (name : N) (ns : Namespace) :
    (r.ungroup name ns).objects = r.objects := by
  unfold ungroup
  split
  · dsimp only
    split <;> rfl
  · rfl

@[simp]
theorem objects_file (r : Registry N T) (object : T) (name : N) (ns : Namespace) :
    (r.file object name ns).objects = r.objects.insert name object := by
  unfold file
  split <;> rfl

/-- What is taken out under a name is what was stored there, and nothing else goes. -/
theorem remove_eq (r : Registry N T) (name : N) :
    (r.remove name = (none, r) ∧ r.namespaces[name]? = none) ∨
      ((r.remove name).1 = r.objects[name]? ∧
        (r.remove name).2.objects = r.objects.erase name ∧ (r.namespaces[name]?).isSome) := by
  unfold remove
  cases h : r.namespaces[name]? with
  | none => exact .inl ⟨rfl, rfl⟩
  | some ns => exact .inr ⟨by simp, by simp, by simp⟩

end Registry

end PluginHost
