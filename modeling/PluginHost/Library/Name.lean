import PluginHost.Path

namespace PluginHost

namespace LibraryName

/-- Extensions of shared libraries, in any case. -/
def extensions : List String := ["dll", "so", "dylib"]

/-- Whether a path names a shared library. -/
def isLibrary (path : Path) : Bool :=
  match path.extension?.bind utf8Text? with
  | none => false
  | some ext => extensions.contains (ext.map Char.toLower)

/-- A file stem without one leading `lib`. -/
def stripPrefix : List Char → List Char
  | 'l' :: 'i' :: 'b' :: rest => rest
  | stem => stem

/-- The name of the plugin in a library. -/
def pluginName? (path : Path) : Option String := do
  let stem ← utf8Text? (← path.stem?)
  match stripPrefix stem.toList with
  | [] => none
  | name => some (String.ofList name)

/-- The symbol under which a plugin exports its entry point to a host of 64 bits. -/
def entrySymbol (name : String) : String := "Load" ++ name ++ "PluginX64"

/--
The symbol that a text asks for. One zero at its end is taken as its end; a text with a zero before
that, or with nothing before it, names no symbol.
-/
def symbol? (text : String) : Option String :=
  let cs := text.toList
  let body := if cs.getLast? = some '\x00' then cs.dropLast else cs
  if body = [] ∨ '\x00' ∈ body then none else some (String.ofList body)

end LibraryName

end PluginHost
