import PluginHost.Library.Name
import PluginHost.PluginError
import PluginHost.Manager.Export
import PluginHost.Files

namespace PluginHost

/-- What a library exports. -/
structure Image (M : Type) where
  entry? : String → Option (EntryPoint M)

/-- The file tree, and what its files do when they are opened as libraries. -/
structure Site (M : Type) where
  files : Files
  /-- the image of a file, or why it cannot be opened -/
  image : Path → Except String (Image M)

/-- An open library. It stays open until it is closed. -/
structure Library (M : Type) where
  id : LibraryId
  name : String
  path : Path
  image : Image M

namespace Library

variable {M : Type}

def target : String := "void_plugin::library"

/-- Opens a file as the library of a plugin. -/
def openAt (site : Site M) (id : LibraryId) (path : Path) (name : String) :
    Except PluginError (Library M) :=
  match site.image path with
  | .error reason => .error (.load path reason)
  | .ok image => .ok ⟨id, name, path, image⟩

def entrySymbol (l : Library M) : String := LibraryName.entrySymbol l.name

/-- The entry point under a symbol. -/
def lookup? (l : Library M) (symbol : String) : Option (EntryPoint M) :=
  (LibraryName.symbol? symbol).bind l.image.entry?

def hasSymbol (l : Library M) (symbol : String) : Bool := (l.lookup? symbol).isSome

/-- What the call of the entry point leaves. -/
structure Loaded (M : Type) where
  result : Except PluginError (Export M)
  holder : Holder
  log : List Log.Record

/-- Calls the entry point of the plugin. -/
def loadExport (l : Library M) (holder : Holder) : Loaded M :=
  match l.lookup? l.entrySymbol with
  | none => ⟨.error (.symbolNotFound l.entrySymbol l.path.display), holder, []⟩
  | some entry =>
    let entered := entry holder
    match entered.export? with
    | none => ⟨.error (.entryFailed l.entrySymbol l.path.display), entered.holder, entered.log⟩
    | some e => ⟨.ok e, entered.holder, entered.log⟩

/-- What the closing of a library leaves in the trace. -/
def closing (l : Library M) : List Event :=
  [.logged ⟨.debug, target, "Unloading plugin library '" ++ l.name ++ "'"⟩, .closed l.id]

def debug (l : Library M) : String :=
  Text.fields "PluginLibrary" [("name", Text.quote l.name), ("path", l.path.debug)]

end Library

end PluginHost
