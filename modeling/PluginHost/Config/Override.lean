import PluginHost.Config.Basic

namespace PluginHost

namespace RuntimeConfig

def target : String := "void_plugin::config"

/-- The names in a comma-separated list, without blank ends; pieces that are blank name nothing. -/
def listedNames (list : String) : List String :=
  ((Text.split ',' list).map Text.trim).filter (· ≠ "")

/-- Whether a flag does not say no. -/
def flagHolds (flag : String) : Bool := !(["0", "false", "no", "off"].contains (Text.trim flag))

/-- The directory that a variable puts in place of the configured one. -/
def overridingDir? (var : String → Option String) : Option String :=
  (var "VOID_PLUGIN_DIR").filter (· ≠ "")

/--
Lets variables override a configuration. A directory replaces the configured one unless it is empty,
a blacklist adds to the configured one, and a flag decides whether libraries are looked for.
-/
def applyOverrides (config : RuntimeConfig) (var : String → Option String) :
    RuntimeConfig × List Log.Record :=
  let dir := overridingDir? var
  let names := ((var "VOID_PLUGIN_BLACKLIST").map listedNames).getD []
  let plugins : PluginConfig :=
    { dir := (dir.map Path.ofString).getD config.plugins.dir
      blacklist := names.foldl (·.insert ·) config.plugins.blacklist
      loadDynamic := ((var "VOID_LOAD_PLUGINS").map flagHolds).getD config.plugins.loadDynamic }
  ({ config with plugins },
   dir.toList.map fun dir => ⟨.info, target, "Plugin directory from env: " ++ dir⟩)

/-- The places where a configuration is searched for, in order. -/
def searchedPaths : List String := ["void.toml", "config/void.toml"]

/-- The first configuration of some places that can be read. Those that cannot are reported. -/
def firstOf (files : Files) : List String → RuntimeConfig × List Log.Record
  | [] => ({}, [])
  | place :: rest =>
    if files.contains (.ofString place) then
      match ofFile files (.ofString place) with
      | .ok config => (config, [⟨.info, target, "Loaded runtime config from " ++ place⟩])
      | .error error =>
        let (config, log) := firstOf files rest
        (config, ⟨.warn, target, "Ignoring config file: " ++ error.message⟩ :: log)
    else firstOf files rest

/-- The configuration of a host from all sources: files, then variables. -/
def load (files : Files) (var : String → Option String) : RuntimeConfig × List Log.Record :=
  let (config, found) := firstOf files searchedPaths
  let (config, overridden) := config.applyOverrides var
  (config, found ++ overridden)

end RuntimeConfig

end PluginHost
