import PluginHost.Registry.Basic

namespace PluginHost

/-- One call of `add`. It works on the registry as a whole, so threads can only interleave their calls. -/
structure Bid (N T : Type) where
  name : N
  ns : Namespace
  object : T

namespace Registry

variable {N T : Type} [Ord N] [Std.TransOrd N]

/-- Makes calls in order and counts those that were accepted. -/
def settle (r : Registry N T) : List (Bid N T) → Nat × Registry N T
  | [] => (0, r)
  | bid :: rest =>
    match r.add bid.object bid.name bid.ns with
    | .error _ => r.settle rest
    | .ok next =>
      let (accepted, last) := next.settle rest
      (accepted + 1, last)

end Registry

/-- The calls of one thread that registers `count` numbered names in a namespace. -/
def numberedBids (count : Nat) (ns : Namespace) : List (Bid String Nat) :=
  (List.range count).map fun i => ⟨"name-" ++ toString i, ns, i⟩

end PluginHost
