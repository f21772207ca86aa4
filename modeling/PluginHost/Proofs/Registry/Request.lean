import Mathlib.Data.Multiset.Defs
import PluginHost.Registry.Basic

namespace PluginHost

/-- Everything that a registry can be asked, as data, so that a history of a registry is a list. -/
inductive Request (N T : Type) where
  | add (object : T) (name : N) (ns : Namespace)
  | addCore (object : T) (name : N)
  | get (name : N)
  | write (name : N) (f : T → T)
  | has (name : N)
  | namespaceOf (name : N)
  | remove (name : N)
  | clear
  | clearNamespace (ns : Namespace)
  | names (ns : Namespace)
  | allNames
  | size
  | isEmpty

/-- Names and destroyed objects come in no order, so an answer holds them with their multiplicity alone. -/
inductive Answer (N T : Type) where
  | accepted
  /-- the object of a refused registration, handed back -/
  | refused (object : T)
  /-- the object under a name as it was before the request -/
  | object (object? : Option T)
  | scope (ns? : Option Namespace)
  | destroyed (objects : Multiset T)
  | names (names : Multiset N)
  | flag (holds : Bool)
  | count (n : Nat)
  deriving DecidableEq

namespace Request

variable {N T S : Type}

/-- What is left after a list of requests. -/
def after (serve : S → Request N T → Answer N T × S) (s : S) : List (Request N T) → S
  | [] => s
  | request :: rest => after serve (serve s request).2 rest

/-- The answers to a list of requests. -/
def answers (serve : S → Request N T → Answer N T × S) (s : S) : List (Request N T) → List (Answer N T)
  | [] => []
  | request :: rest => (serve s request).1 :: answers serve (serve s request).2 rest

end Request

namespace Registry

variable {N T : Type} [Ord N] [Std.TransOrd N]

/-- The answer to a registration, and what is left. -/
def enrol (r : Registry N T) (object : T) (name : N) (ns : Namespace) : Answer N T × Registry N T :=
  match r.add object name ns with
  | .ok next => (.accepted, next)
  | .error back => (.refused back, r)

/-- The answer to a request, and what is left. -/
def serve (r : Registry N T) : Request N T → Answer N T × Registry N T
  | .add object name ns => r.enrol object name ns
  | .addCore object name => r.enrol object name .core
  | .get name => (.object (r.get? name), r)
  | .write name f => (.object (r.get? name), r.modify name f)
  | .has name => (.flag (r.contains name), r)
  | .namespaceOf name => (.scope (r.namespaceOf? name), r)
  | .remove name => (.object (r.remove name).1, (r.remove name).2)
  | .clear => (.destroyed r.clear.1, r.clear.2)
  | .clearNamespace ns => (.destroyed (r.clearNamespace ns).1, (r.clearNamespace ns).2)
  | .names ns => (.names (r.names ns), r)
  | .allNames => (.names r.allNames, r)
  | .size => (.count r.size, r)
  | .isEmpty => (.flag r.isEmpty, r)

/-- The registry that a list of requests leaves, when it was empty at first. -/
def reached (requests : List (Request N T)) : Registry N T := Request.after serve empty requests

end Registry

end PluginHost
