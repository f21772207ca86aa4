import PluginHost.Controller
import PluginHost.Library.Folder
import PluginHost.Library.Image

namespace PluginHost

/-- Where a plugin came from. -/
inductive PluginOrigin where
  | static
  | dynamic (path : Path)
  deriving DecidableEq, Repr

structure PluginInfo where
  name : String
  ns : Namespace
  /-- the type of the plugin's manager -/
  manager : TypeKey
  origin : PluginOrigin
  deriving DecidableEq, Repr

/-- A registered plugin and its library, if it has one. -/
structure PluginRecord (M : Type) where
  info : PluginInfo
  library? : Option (Library M)

/-- The registered plugins. Those from libraries keep their libraries open. -/
structure Catalogue (M : Type) where
  pluginDir : Path
  loadDynamic : Bool := true
  blacklist : Std.ExtTreeSet String compare := ∅
  plugins : Std.ExtTreeMap String (PluginRecord M) compare := ∅
  /-- the number of the next plugin from a library -/
  nextId : PluginId := 1
  /-- how many libraries were opened so far; it numbers the next one -/
  opened : Nat := 0

namespace Catalogue

variable {M : Type}

def target : String := "void_plugin::plugin"

def ofConfig (config : PluginConfig) (pluginDir : Path) : Catalogue M :=
  { pluginDir, loadDynamic := config.loadDynamic, blacklist := config.blacklist }

/-- Replaces the names of the plugins that are refused. -/
def setBlacklist (k : Catalogue M) (names : List String) : Catalogue M :=
  { k with blacklist := names.foldl (·.insert ·) ∅ }

def isBlacklisted (k : Catalogue M) (name : String) : Bool := k.blacklist.contains name

def isLoaded (k : Catalogue M) (name : String) : Bool := k.plugins.contains name

def info? (k : Catalogue M) (name : String) : Option PluginInfo := k.plugins[name]?.map (·.info)

def namespaceOf? (k : Catalogue M) (name : String) : Option Namespace :=
  (k.info? name).map (·.ns)

/-- The names of the registered plugins, sorted. -/
def pluginNames (k : Catalogue M) : List String := k.plugins.keys

def size (k : Catalogue M) : Nat := k.plugins.size

def isEmpty (k : Catalogue M) : Bool := k.plugins.isEmpty

def enter (k : Catalogue M) (record : PluginRecord M) : Catalogue M :=
  { k with plugins := k.plugins.insert record.info.name record }

def remove (k : Catalogue M) (name : String) : Catalogue M :=
  { k with plugins := k.plugins.erase name }

def debug (k : Catalogue M) : String :=
  Text.fields "PluginManager"
    [("plugin_dir", k.pluginDir.debug), ("plugins", Text.listing (k.pluginNames.map Text.quote)),
     ("blacklist", Text.braced (k.blacklist.toList.map Text.quote))]

end Catalogue

end PluginHost
