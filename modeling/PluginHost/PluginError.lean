import PluginHost.Path

namespace PluginHost

/-- Why a plugin could not be loaded, registered or unloaded, and why settings could not be read. -/
inductive PluginError where
  /-- the file could not be opened as a shared library -/
  | load (path : Path) (reason : String)
  /-- the library does not export the entry point -/
  | symbolNotFound (symbol library : String)
  /-- the entry point gave no manager -/
  | entryFailed (symbol library : String)
  | blacklisted (name : String)
  | alreadyLoaded (name : String)
  | notFound (name : String)
  /-- compiled-in plugins live as long as the host -/
  | staticPlugin (name : String)
  /-- a manager of the same type is registered -/
  | duplicateManager (typeName : String)
  /-- no plugin name can be derived from the file name -/
  | invalidName (path : Path)
  /-- the text is no configuration -/
  | config (path : Path) (reason : String)
  | io (reason : String)
  deriving DecidableEq, Repr

/-- The kind of an error, for programs. -/
def PluginError.kind : PluginError → String
  | load _ _ => "LoadError"
  | symbolNotFound _ _ => "SymbolNotFound"
  | entryFailed _ _ => "EntryFailed"
  | blacklisted _ => "Blacklisted"
  | alreadyLoaded _ => "AlreadyLoaded"
  | notFound _ => "NotFound"
  | staticPlugin _ => "StaticPlugin"
  | duplicateManager _ => "DuplicateManager"
  | invalidName _ => "InvalidName"
  | config _ _ => "Config"
  | io _ => "IoError"

/-- The text of an error, for people. -/
def PluginError.message : PluginError → String
  | load path reason => "Failed to load library '" ++ path.display ++ "': " ++ reason
  | symbolNotFound symbol library => "Symbol '" ++ symbol ++ "' not found in library '" ++ library ++ "'"
  | entryFailed symbol library => "Entry point '" ++ symbol ++ "' of library '" ++ library ++ "' failed"
  | blacklisted name => "Plugin '" ++ name ++ "' is blacklisted"
  | alreadyLoaded name => "Plugin '" ++ name ++ "' is already loaded"
  | notFound name => "Plugin '" ++ name ++ "' not found"
  | staticPlugin name => "Plugin '" ++ name ++ "' is static and cannot be unloaded"
  | duplicateManager typeName => "Manager '" ++ typeName ++ "' is already registered"
  | invalidName path => "Cannot derive a plugin name from '" ++ path.display ++ "'"
  | config path reason => "Invalid configuration '" ++ path.display ++ "': " ++ reason
  | io reason => "IO error: " ++ reason

end PluginHost
