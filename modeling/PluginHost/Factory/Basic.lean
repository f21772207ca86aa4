import PluginHost.Factory.Instantiator
import PluginHost.Registry.Report

namespace PluginHost

/-- Creates objects by name; each name has its instantiator. -/
structure FlatFactory (N P B : Type) [Ord N] where
  instantiators : Std.ExtTreeMap N (Instantiator P B) compare := ∅

namespace FlatFactory

variable {N P B : Type} [Ord N] [Std.TransOrd N]

def empty : FlatFactory N P B := {}

/-- The first registration of a name wins: a later one gets its instantiator back. -/
def register (f : FlatFactory N P B) (i : Instantiator P B) (name : N) :
    Except (Instantiator P B) (FlatFactory N P B) :=
  if f.instantiators.contains name then .error i else .ok ⟨f.instantiators.insert name i⟩

/-- Takes the instantiator of a name out. -/
def unregister (f : FlatFactory N P B) (name : N) : Option (Instantiator P B) × FlatFactory N P B :=
  (f.instantiators[name]?, ⟨f.instantiators.erase name⟩)

def isRegistered (f : FlatFactory N P B) (name : N) : Bool := f.instantiators.contains name

/-- Creates an object under a name, if the name is registered. -/
def create (f : FlatFactory N P B) (name : N) (param : P) (t : Tally) : Option B × Tally :=
  match f.instantiators[name]? with
  | none => (none, t)
  | some i => let (b, t) := i.create param t; (some b, t)

def names (f : FlatFactory N P B) : List N := f.instantiators.keys

def size (f : FlatFactory N P B) : Nat := f.instantiators.size

def isEmpty (f : FlatFactory N P B) : Bool := f.instantiators.isEmpty

/-- A factory with copies of all instantiators. -/
def clone (f : FlatFactory N P B) : FlatFactory N P B := ⟨f.instantiators.map fun _ i => i.copy⟩

/-- Every instantiator of the factory. -/
def all (f : FlatFactory N P B) : List (Instantiator P B) := f.instantiators.toList.map (·.2)

def debug (showName : N → String) (f : FlatFactory N P B) : String :=
  Text.fields "DynamicFactory" [("names", Text.listing (f.names.map showName))]

end FlatFactory

/-- A factory that keeps its instantiators in a registry, so that those of a plugin go away together. -/
structure ScopedFactory (N P B : Type) [Ord N] where
  registry : Registry N (Instantiator P B) := .empty

namespace ScopedFactory

variable {N P B : Type} [Ord N] [Std.TransOrd N]

def empty : ScopedFactory N P B := {}

/-- The first registration of a name wins: a later one gets its instantiator back. -/
def register (f : ScopedFactory N P B) (i : Instantiator P B) (name : N) (ns : Namespace) :
    Except (Instantiator P B) (ScopedFactory N P B) :=
  (f.registry.add i name ns).map ScopedFactory.mk

/-- Creates an object under a name, if the name is registered. -/
def create (f : ScopedFactory N P B) (name : N) (param : P) (t : Tally) : Option B × Tally :=
  match f.registry.get? name with
  | none => (none, t)
  | some i => let (b, t) := i.create param t; (some b, t)

/-- A copy of the instantiator under a name. -/
def instantiator? (f : ScopedFactory N P B) (name : N) : Option (Instantiator P B) :=
  (f.registry.get? name).map (·.copy)

def contains (f : ScopedFactory N P B) (name : N) : Bool := f.registry.contains name

/-- The names registered in a namespace; for a plugin, those of its addins too. -/
def names (f : ScopedFactory N P B) (ns : Namespace) : List N := f.registry.names ns

/-- Takes the instantiator of a name out. -/
def remove (f : ScopedFactory N P B) (name : N) : Option (Instantiator P B) × ScopedFactory N P B :=
  let (taken, registry) := f.registry.remove name
  (taken, ⟨registry⟩)

/-- Takes the instantiators of a namespace out. -/
def clearNamespace (f : ScopedFactory N P B) (ns : Namespace) :
    List (Instantiator P B) × ScopedFactory N P B :=
  let (taken, registry) := f.registry.clearNamespace ns
  (taken, ⟨registry⟩)

/-- Takes every instantiator out. -/
def clear (f : ScopedFactory N P B) : List (Instantiator P B) × ScopedFactory N P B :=
  let (taken, registry) := f.registry.clear
  (taken, ⟨registry⟩)

def size (f : ScopedFactory N P B) : Nat := f.registry.size

def isEmpty (f : ScopedFactory N P B) : Bool := f.registry.isEmpty

def debug (f : ScopedFactory N P B) : String :=
  Text.fields "NamespaceDynamicFactory" [("storage", f.registry.debug)]

end ScopedFactory

end PluginHost
