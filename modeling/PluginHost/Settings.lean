import Std.Data.ExtTreeMap
import PluginHost.Toml.Document
import PluginHost.Toml.Tagged
import PluginHost.Files
import PluginHost.PluginError
import PluginHost.Log

namespace PluginHost

/-- TOML documents under names. A document is replaced as a whole, never merged, and a failed load replaces
nothing. -/
structure Settings where
  documents : Std.ExtTreeMap String Toml.Table compare := ∅

namespace Settings

def empty : Settings := {}

/-- The name of the document that holds the settings of the host itself. -/
def runtime : String := "runtime"

def insert (s : Settings) (name : String) (table : Toml.Table) : Settings :=
  ⟨s.documents.insert name table⟩

def contains (s : Settings) (name : String) : Bool := s.documents.contains name

def get? (s : Settings) (name key : String) : Option Toml.Value := do
  Toml.Table.dotted? (← s.documents[name]?) key

def getString? (s : Settings) (name key : String) : Option String := (s.get? name key).bind (·.asString?)

def getBool? (s : Settings) (name key : String) : Option Bool := (s.get? name key).bind (·.asBool?)

def getFloat? (s : Settings) (name key : String) : Option Float := (s.get? name key).bind (·.asFloat?)

def getInt? (s : Settings) (name key : String) : Option Int64 := (s.get? name key).bind (·.asInt?)

/-- Reads a document from a file. -/
def readDocument (files : Files) (path : Path) : Except PluginError Toml.Table :=
  match files.readText path with
  | .error reason => .error (.io reason)
  | .ok text =>
    match Toml.parse text with
    | .error fault => .error (.config path fault.message)
    | .ok table =>
      match table.untag? with
      | none => .error (.config path "a value stands for no date or time")
      | some table => .ok table

/-- Reads a document from a file and keeps it under a name. -/
def load (s : Settings) (files : Files) (path : Path) (name : String) :
    Except PluginError (Settings × List Log.Record) := do
  let table ← readDocument files path
  return (s.insert name table,
    [⟨.debug, "void_plugin::managers", "Loaded config '" ++ name ++ "' from " ++ path.display⟩])

end Settings

end PluginHost
