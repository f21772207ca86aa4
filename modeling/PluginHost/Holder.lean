import PluginHost.Config.Basic

namespace PluginHost

/-- What every manager and every plugin shares with the host: the settings, the directories, and how much of
a plugin's log the host wants. -/
structure Holder where
  settings : Settings := .empty
  /-- the directory of the executable -/
  exeDir : Path
  /-- the directory that is scanned for plugins -/
  pluginDir : Path
  /-- what the host's logger lets through -/
  logger : Log.Filter

namespace Holder

/-- The holder of a host under a configuration. -/
def ofConfig (config : RuntimeConfig) (exeDir : Path) (logger : Log.Filter) : Holder :=
  { settings := Settings.empty.insert Settings.runtime config.settings
    exeDir
    pluginDir := config.plugins.resolveDir exeDir
    logger }

/--
Whether the host's logger can be installed in a module that may have one already. A logger that lets
nothing through is not installed.
-/
def installs (h : Holder) (hasLogger : Bool) : Bool := h.logger ≠ .off && !hasLogger

def loggerDebug (logger : Log.Filter) : String :=
  Text.fields "HostLogger" [("level", logger.debugText)]

end Holder

end PluginHost
