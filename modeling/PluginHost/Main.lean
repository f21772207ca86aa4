import PluginHost.Files.Tree
import PluginHost.Host
import PluginHost.Manager.Heartbeat

namespace PluginHost.Host

/-- What has been read from the disk. Libraries on the disk are files without an image, so each one that is
found is reported and skipped. -/
abbrev DiskTree := FileTree Heartbeat

/-- The variables that the program reads, as they are at its start. -/
def environment : IO (String → Option String) := do
  let mut found : List (String × String) := []
  for name in ["RUST_LOG", "VOID_PLUGIN_DIR", "VOID_PLUGIN_BLACKLIST", "VOID_LOAD_PLUGINS"] do
    if let some value ← IO.getEnv name then
      found := (name, value) :: found
  return fun name => found.lookup name

/-- Takes what is under a path of the disk into a tree. What cannot be read is taken for a directory. -/
def withFile (t : DiskTree) (path : String) : IO DiskTree := do
  let place := (← IO.currentDir) / path
  if ← place.pathExists then
    let node ← try pure (.file (← IO.FS.readBinFile place).toList) catch _ => pure .folder
    return t.putAt (t.home.join (.ofString path)) node
  return t

/-- Takes the names in a directory of the disk into a tree, where there is one that can be read. -/
def withFolder (t : DiskTree) (dir : Path) : IO DiskTree := do
  let dir := t.home.join dir
  try
    let entries ← ((← IO.currentDir) / dir.display).readDir
    let mut t := t.putAt dir .folder
    for entry in entries do
      let isFile := (← entry.path.metadata).type matches .file
      t := t.putAt (dir.join (.ofString entry.fileName)) (if isFile then .file [] else .folder)
    return t
  catch _ => return t

def report (selection : Log.Selection) (records : List Log.Record) : IO Unit :=
  (selection.select records).forM fun record => IO.eprintln record.line

/-- Runs an operation and reports what it writes; a panic ends the runtime and gives nothing. -/
def perform {α : Type} (selection : Log.Selection) (x : Action (Runtime Heartbeat) α)
    (r : Runtime Heartbeat) : IO (Option (α × Runtime Heartbeat)) := do
  let run := reported x r
  report selection run.records
  match run.result with
  | .ok a => return some (a, run.state)
  | .error _ =>
    report selection (Runtime.drop run.state).records
    return none

/-- Runs frames, each for so many milliseconds, up to the last one. -/
partial def paced (selection : Log.Selection) (limit time : UInt64) (r : Runtime Heartbeat) :
    IO (Option (Runtime Heartbeat)) := do
  let begun ← IO.monoMsNow
  match ← perform selection (frame limit) r with
  | none => return none
  | some (true, r) => return some r
  | some (false, r) =>
    let elapsed := (← IO.monoMsNow) - begun
    IO.sleep (UInt32.ofNat (time.toNat - elapsed))
    paced selection limit time r

/-- The program from the start of its runtime to its end. -/
def live (selection : Log.Selection) (tree : DiskTree) (r : Runtime Heartbeat) : IO UInt32 := do
  let some (_, r) ← perform selection (start tree.site) r | return 101
  let some r ← paced selection (frameLimit r.holder) (frameTime r.holder) r | return 101
  let some (_, r) ← perform selection finish r | return 101
  report selection (Runtime.drop r).records
  return 0

end PluginHost.Host

open PluginHost in
def main : IO UInt32 := do
  let var ← Host.environment
  let (selection, faults) := Host.selection var
  faults.forM fun fault => IO.eprintln fault.warning
  let start : Host.DiskTree := { home := .ofString (← IO.currentDir).toString }
  let tree ← RuntimeConfig.searchedPaths.foldlM Host.withFile start
  let (config, configured) := Host.configure tree.files var
  let (runtime, created) :=
    Runtime.ofConfig (M := Heartbeat) config (.ofString (← IO.appDir).toString) selection.widest
  Host.report selection (configured ++ created)
  let tree ← Host.withFolder tree runtime.holder.pluginDir
  Host.live selection tree runtime
