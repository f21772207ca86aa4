import Std.Data.ExtTreeSet

namespace PluginHost

/-- Number of a plugin. Zero owns everything that is compiled into the host. -/
abbrev PluginId := UInt32

/-- Number of an addin within its plugin. Zero means that there is none. -/
abbrev AddinId := UInt32

/-- A plugin and an addin packed into one word, the plugin in the upper half. -/
structure Namespace where
  bits : UInt64
  deriving DecidableEq, Hashable, Repr

namespace Namespace

/-- The namespace of `addin` in `plugin`. -/
def of (plugin : PluginId) (addin : AddinId) : Namespace :=
  ⟨plugin.toUInt64 <<< 32 ||| addin.toUInt64⟩

/-- The namespace of a whole plugin. -/
def plugin (plugin : PluginId) : Namespace := of plugin 0

/-- The namespace of what belongs to no plugin in particular. -/
def core : Namespace := plugin 0

def pluginId (ns : Namespace) : PluginId := (ns.bits >>> 32).toUInt32

def addinId (ns : Namespace) : AddinId := ns.bits.toUInt32

/-- Whether the namespace is one addin and not a whole plugin. -/
def isAddin (ns : Namespace) : Bool := ns.addinId != 0

/-- The whole plugin that the namespace belongs to. -/
def pluginNamespace (ns : Namespace) : Namespace := plugin ns.pluginId

/-- The addin alone, its plugin forgotten. -/
def addin (ns : Namespace) : Namespace := of 0 ns.addinId

/-- Namespaces are ordered by their packed word, so a plugin's addins directly follow the plugin. -/
instance : Ord Namespace := ⟨compareOn bits⟩

instance : Std.TransOrd Namespace := inferInstanceAs (Std.TransCmp (compareOn bits))

instance : Std.LawfulEqOrd Namespace where
  eq_of_compare {a b} h := by
    have : a.bits = b.bits := Std.compare_eq_iff_eq.mp h
    cases a; cases b; simp_all

/-- The two numbers around a colon. -/
def display (ns : Namespace) : String :=
  toString ns.pluginId.toNat ++ ":" ++ toString ns.addinId.toNat

/-- The diagnostic text, which leaves out an absent addin. -/
def debug (ns : Namespace) : String :=
  if ns.isAddin then "Namespace(" ++ ns.display ++ ")"
  else "Namespace(" ++ toString ns.pluginId.toNat ++ ")"

end Namespace

end PluginHost
