import PluginHost.Log.Entries
import PluginHost.Log.Selection
import PluginHost.Runtime
import PluginHost.Config.Override

namespace PluginHost

namespace Host

variable {M : Type} [Manager M]

def target : String := "void_host"

/-- The number in a setting of the host; negative numbers count as zero. -/
def setting (holder : Holder) (key : String) (standard : UInt64) : UInt64 :=
  match holder.settings.getInt? Settings.runtime key with
  | none => standard
  | some n => if n < 0 then 0 else n.toUInt64

/-- The frame after which the host stops; zero where it does not stop by itself. -/
def frameLimit (holder : Holder) : UInt64 := setting holder "host.frames" 0

/-- Milliseconds from the start of one frame to the start of the next. -/
def frameTime (holder : Holder) : UInt64 := setting holder "host.frame_ms" 16

/-- Everything before the first frame. -/
def start (site : Site M) : Action (Runtime M) Unit := do
  let _ ← Runtime.preInit site
  Runtime.init site
  let r ← .get
  .forEach r.statusText fun line => .log .info target line

/-- One frame. Tells whether it was the last. -/
def frame (limit : UInt64) : Action (Runtime M) Bool := do
  Runtime.update
  let r ← .get
  return 0 < limit ∧ limit ≤ r.frame

/--
Frames up to the last, or until an interrupt that is noticed after so many frames. Tells whether the
last frame was reached.
-/
def frames (limit : UInt64) : Nat → Action (Runtime M) Bool
  | 0 => return false
  | patience + 1 => do
    if ← frame limit then return true
    frames limit patience

/-- Everything after the last frame. -/
def finish : Action (Runtime M) Unit := do
  Runtime.shutdown
  .log .info target "Goodbye"

/-- The life of the runtime in the host, up to an interrupt. -/
def run (site : Site M) (patience : Nat) : Action (Runtime M) Unit := do
  start site
  let r ← .get
  let _ ← frames (frameLimit r.holder) patience
  finish

/-- Reports a panic to the log. -/
def reported {α : Type} (x : Action (Runtime M) α) : Action (Runtime M) α := fun r =>
  match x r with
  | ⟨r, trace, .ok a⟩ => ⟨r, trace, .ok a⟩
  | ⟨r, trace, .error panic⟩ =>
    ⟨r, trace ++ [.logged ⟨.error, target, "PANIC: " ++ panic.message⟩], .error panic⟩

/-- What the host takes into its log, and what is wrong with what it was told of that. -/
def selection (var : String → Option String) : Log.Selection × List Log.SpecificationFault :=
  match var "RUST_LOG" with
  | none => (.all (.upTo .info), [])
  | some text => Log.Selection.ofText text

/-- What the host program leaves to the system. -/
structure Outcome where
  exitCode : UInt32
  warnings : List String
  log : List Log.Record

/-- The log as it is read. Warnings come before the records, and their lines can look like some. -/
def Outcome.entries (o : Outcome) : List String :=
  Log.entries (o.warnings.flatMap Text.lines) ++ o.log.map (·.line)

/-- The configuration of the host and what is written while it is read. -/
def configure (files : Files) (var : String → Option String) : RuntimeConfig × List Log.Record :=
  let (config, log) := RuntimeConfig.load files var
  (config, log ++ config.path?.toList.map
    fun path => ⟨.info, target, "Using config file " ++ path.display⟩)

/-- The host program, interrupted after so many frames if it has not stopped by then. -/
def program (site : Site M) (var : String → Option String) (exeDir : Path) (patience : Nat) :
    Outcome :=
  let (selection, faults) := selection var
  let (config, configured) := configure site.files var
  let (runtime, created) := Runtime.ofConfig (M := M) config exeDir selection.widest
  let life := ((reported (run site patience)).andFinally Runtime.drop) runtime
  { exitCode := match life.result with
      | .ok _ => 0
      | .error _ => 101
    warnings := faults.map (·.warning)
    log := selection.select (configured ++ created ++ life.records) }

end Host

end PluginHost
