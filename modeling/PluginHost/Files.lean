import PluginHost.Path

namespace PluginHost

/-- One entry of a directory. -/
structure FolderEntry where
  /-- the path of the directory continued by the entry's name -/
  path : Path
  isFile : Bool
  deriving DecidableEq, Repr

/-- The file tree at one moment. -/
structure Files where
  /-- whether anything is at a path -/
  contains : Path → Bool
  /-- the text of a file, or why there is none -/
  readText : Path → Except String String
  /-- the entries of a directory in no particular order, or why they cannot be read; `none` where
  no directory is -/
  folder? : Path → Option (Except String (List FolderEntry))

end PluginHost
