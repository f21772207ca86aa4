import PluginHost.Library.Name
import PluginHost.Files
import PluginHost.PluginError
import PluginHost.Log

namespace PluginHost

namespace LibraryFolder

def target : String := "void_plugin::discovery"

/-- The libraries among the entries of a directory. -/
def candidates (entries : List FolderEntry) : List Path :=
  ((entries.filter fun entry => entry.isFile && LibraryName.isLibrary entry.path).map (·.path)).mergeSort
    Path.le

/-- The libraries in a directory. A directory that is missing holds none. -/
def list (files : Files) (dir : Path) : Except PluginError (List Path) × List Log.Record :=
  match files.folder? dir with
  | none =>
    (.ok [], [⟨.debug, target, "Plugin directory " ++ dir.display ++ " does not exist"⟩])
  | some (.error reason) => (.error (.io reason), [])
  | some (.ok entries) => (.ok (candidates entries), [])

end LibraryFolder

end PluginHost
