import Std.Data.ExtTreeSet
import PluginHost.Settings

namespace PluginHost

/-- Which plugins are looked for, and where. -/
structure PluginConfig where
  /-- a relative directory is taken from the directory of the executable -/
  dir : Path := .ofString "plugins"
  /-- names of plugins that are never loaded -/
  blacklist : Std.ExtTreeSet String compare := ∅
  /-- whether shared libraries are looked for at all -/
  loadDynamic : Bool := true

namespace PluginConfig

def resolveDir (config : PluginConfig) (exeDir : Path) : Path :=
  if config.dir.isAbsolute then config.dir else exeDir.join config.dir

/-- Whether two configurations say the same. Directories are compared as ways, not as texts. -/
def sameAs (a b : PluginConfig) : Bool :=
  a.dir.sameWay b.dir && a.blacklist.toList == b.blacklist.toList && a.loadDynamic == b.loadDynamic

/-- A set of texts, as a value holds it in an array. -/
def names? (text? : Toml.Value → Option String) :
    Toml.Value → Option (Std.ExtTreeSet String compare)
  | .array items => do
    let names ← items.mapM text?
    some (names.foldl (·.insert ·) ∅)
  | _ => none

/-- A configuration from its three fields; a field that is absent keeps its default. -/
def ofFields? (text? : Toml.Value → Option String) (dir blacklist loadDynamic : Option Toml.Value) :
    Option PluginConfig := do
  let standard : PluginConfig := {}
  let dir ← match dir with
    | none => some standard.dir
    | some value => (text? value).map Path.ofString
  let blacklist ← match blacklist with
    | none => some standard.blacklist
    | some value => names? text? value
  let loadDynamic ← match loadDynamic with
    | none => some standard.loadDynamic
    | some value => value.asBool?
  some ⟨dir, blacklist, loadDynamic⟩

/-- A configuration from a table. Entries of other names are ignored. -/
def ofTable? (text? : Toml.Value → Option String) (table : Toml.Table) : Option PluginConfig :=
  ofFields? text? (table.get? "dir") (table.get? "blacklist") (table.get? "load_dynamic")

/-- A configuration from an array, which holds the fields in their order. -/
def ofItems? (text? : Toml.Value → Option String) (items : List Toml.Value) : Option PluginConfig :=
  ofFields? text? items[0]? items[1]? items[2]?

/-- The configuration as a table. -/
def toTable (config : PluginConfig) : Toml.Table :=
  [("dir", .string config.dir.display),
   ("blacklist", .array (config.blacklist.toList.map .string)),
   ("load_dynamic", .boolean config.loadDynamic)]

end PluginConfig

/-- The whole configuration of a host. -/
structure RuntimeConfig where
  plugins : PluginConfig := {}
  /-- free settings, the document `Settings.runtime` -/
  settings : Toml.Table := []
  /-- the file that the configuration was read from -/
  path? : Option Path := none

namespace RuntimeConfig

/--
The plugin section of a document: a table, or an array of the fields in order, which may go on. A
date says nothing about plugins, so it leaves every default.
-/
def pluginSection? : Toml.Value → Option PluginConfig
  | .table table => PluginConfig.ofTable? Toml.Value.asString? table
  | .array items => PluginConfig.ofItems? Toml.Value.asString? items
  | .moment _ => some {}
  | _ => none

/-- The settings of a document are a table; a date counts as a table of one entry. -/
def settingsSection? : Toml.Value → Option Toml.Table
  | .table table => Toml.Table.untag? table
  | .moment moment => some [(Toml.momentKey, .string moment.text)]
  | _ => none

/-- A configuration from a document. Other sections are ignored. -/
def ofTable? (table : Toml.Table) : Option RuntimeConfig := do
  let plugins ← match table.get? "plugins" with
    | none => some {}
    | some value => pluginSection? value
  let settings ← match table.get? "settings" with
    | none => some []
    | some value => settingsSection? value
  some { plugins, settings }

/-- A configuration from the text of a document; the path names the text in an error. -/
def parse (path : Path) (text : String) : Except PluginError RuntimeConfig :=
  match Toml.parse text with
  | .error fault => .error (.config path fault.message)
  | .ok table =>
    match ofTable? table with
    | none => .error (.config path "a section has a value of the wrong type")
    | some config => .ok config

/-- A configuration from a text that is in no file. -/
def ofText (text : String) : Except PluginError RuntimeConfig := parse (.ofString "<inline>") text

/-- A configuration from a file. -/
def ofFile (files : Files) (path : Path) : Except PluginError RuntimeConfig :=
  match files.readText path with
  | .error reason => .error (.io reason)
  | .ok text => (parse path text).map fun config => { config with path? := some path }

/-- The configuration as a document. The file it came from is no part of it. -/
def toTable (config : RuntimeConfig) : Toml.Table :=
  [("plugins", .table config.plugins.toTable), ("settings", .table config.settings)]

end RuntimeConfig

end PluginHost
