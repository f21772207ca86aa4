import PluginHost.Registry.Basic
import PluginHost.Log
import PluginHost.Text.Quoted

namespace PluginHost

namespace Registry

def target : String := "void_core::storage"

variable {N T : Type} [Ord N] [Std.TransOrd N]

/-- The record of a registration under a name in use. The name is given in its diagnostic form. -/
def rejection (name : String) (ns : Namespace) : Log.Record :=
  ⟨.debug, target,
    "Name " ++ name ++ " is already registered, rejecting registration in " ++ ns.display⟩

/-- The record of a cleared namespace. -/
def clearance (count : Nat) (ns : Namespace) : Log.Record :=
  ⟨.trace, target, "Cleared " ++ toString count ++ " entries from namespace " ++ ns.display⟩

/-- How many objects there are, how many plugins have names of their own, how many addins have names. -/
def debug (r : Registry N T) : String :=
  Text.fields "NamespaceNamedStorage"
    [("objects", toString r.objects.size), ("plugins", toString r.pluginNames.size),
     ("addins", toString r.addinNames.size)]

end Registry

end PluginHost
