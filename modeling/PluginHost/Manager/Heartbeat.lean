import PluginHost.Manager.Export

namespace PluginHost

/-- A manager that writes a record every so many updates. The count of updates starts anew with every
initialisation, the count of beats does not. -/
structure Heartbeat where
  /-- updates from one beat to the next, at least one -/
  period : UInt64
  /-- updates since the last initialisation -/
  frames : UInt64 := 0
  beats : UInt64 := 0
  /-- whether the manager holds the host's holder -/
  attached : Bool := false
  deriving DecidableEq, Repr

namespace Heartbeat

def target : String := "void_sample_plugin"

def key : TypeKey := ⟨"void_sample_plugin::HeartbeatManager"⟩

/-- The period where none is configured. -/
def standardPeriod : UInt64 := 60

/-- A heartbeat of a period. Zero counts as one. -/
def ofPeriod (period : UInt64) : Heartbeat := { period := if period = 0 then 1 else period }

/-- The configured period, unless it is negative or no integer. -/
def configuredPeriod (holder : Holder) : UInt64 :=
  match holder.settings.getInt? Settings.runtime "sample.heartbeat" with
  | some n => if n < 0 then standardPeriod else n.toUInt64
  | none => standardPeriod

/-- A heartbeat as the settings ask for it. -/
def ofHolder (holder : Holder) : Heartbeat := ofPeriod (configuredPeriod holder)

/-- A manager and what it writes. -/
abbrev Step := Heartbeat × List Log.Record

def onInit (h : Heartbeat) : Step :=
  ({ h with frames := 0 },
   [⟨.info, target, "Heartbeat every " ++ toString h.period.toNat ++ " frame(s)"⟩])

def onUpdate (h : Heartbeat) : Step :=
  let h := { h with frames := h.frames + 1 }
  if h.frames % h.period = 0 then
    let h := { h with beats := h.beats + 1 }
    (h, [⟨.debug, target, "Heartbeat #" ++ toString h.beats.toNat⟩])
  else (h, [])

def onRelease (h : Heartbeat) : Step :=
  (h, [⟨.info, target, "Heartbeat stopped after " ++ toString h.beats.toNat ++ " beat(s)"⟩])

def onPostRelease (h : Heartbeat) : Step :=
  ({ h with attached := false }, [⟨.debug, target, "Heartbeat detached"⟩])

def step (h : Heartbeat) : Hook → Step
  | .attach => ({ h with attached := true }, [])
  | .phase .init => h.onInit
  | .phase .update => h.onUpdate
  | .phase .release => h.onRelease
  | .phase .postRelease => h.onPostRelease
  | .phase _ => (h, [])

instance : Manager Heartbeat where
  concrete _ := key
  claimed _ := key
  hook hook h holder := let (h, log) := h.step hook; ⟨h, holder, log, none⟩
  destroy _ := [⟨.debug, target, "Heartbeat manager dropped"⟩]

/-- The constructor behind the entry point of the heartbeat plugin. -/
def build (holder : Holder) : Built Heartbeat := ⟨.ok (ofHolder holder), holder, []⟩

/-- The name of the heartbeat plugin. -/
def pluginName : String := "void_sample_plugin"

end Heartbeat

end PluginHost
