import PluginHost.Manager.Export
import PluginHost.Text.Hex

namespace PluginHost

/-- What a scripted manager does on a hook beside its entry in the journal. -/
structure Script where
  /-- the setting of the host that is read on every hook -/
  read? : Option String := none
  /-- the hook on which a document is written, its name, and the number in it -/
  write? : Option (Hook × String × Int64) := none
  /-- the hook that panics -/
  panicIn? : Option Hook := none
  deriving DecidableEq, Repr

/-- A manager that keeps a journal of the hooks that it answers, so that the order in which a host drives its
managers can be observed. -/
structure Scripted where
  /-- the type that the manager passes for -/
  key : TypeKey
  /-- the type that the manager has -/
  concrete : TypeKey := key
  label : String
  tag : Int := 0
  /-- updates so far -/
  ticks : Nat := 0
  script : Script := {}
  /-- whether the manager answers hooks at all -/
  deaf : Bool := false
  /-- whether the manager holds the host's holder -/
  attached : Bool := false
  deriving DecidableEq, Repr

namespace Scripted

/-- The part of the program under which the journal is kept in the log. -/
def journal : String := "journal"

def name (s : Scripted) : String := s.label ++ "#" ++ toString s.tag

def entry (s : Scripted) (event : String) : Log.Record :=
  ⟨.info, journal, s.name ++ "." ++ event⟩

/-- The manager after a hook. -/
def after (s : Scripted) : Hook → Scripted
  | .attach => { s with attached := true }
  | .phase .update => { s with ticks := s.ticks + 1 }
  | .phase _ => s

/-- What the journal tells of the setting that is read. -/
def reading (s : Scripted) (holder : Holder) : String :=
  match s.script.read?, s.attached with
  | some key, true =>
    "=" ++ ((holder.settings.getFloat? Settings.runtime key).map Text.floatBits).getD "none"
  | _, _ => ""

/-- The holder after a hook. -/
def written (s : Scripted) (hook : Hook) (holder : Holder) : Holder :=
  match s.script.write?, s.attached with
  | some (on, name, n), true =>
    if on = hook then
      { holder with settings := holder.settings.insert name [("n", .integer n)] }
    else holder
  | _, _ => holder

def answer (s : Scripted) (hook : Hook) (holder : Holder) : Reply Scripted :=
  if s.deaf then ⟨s, holder, [], none⟩
  else
    let s := s.after hook
    ⟨s, s.written hook holder, [s.entry (hook.name ++ s.reading holder)],
      if s.script.panicIn? = some hook then some ⟨s.name ++ " " ++ hook.name⟩ else none⟩

instance : Manager Scripted where
  concrete s := s.concrete
  claimed s := s.key
  hook hook s holder := s.answer hook holder
  destroy s := [s.entry "drop"]

/-- The entries of the journal in a log. -/
def journalOf (log : List Log.Record) : List String :=
  (log.filter (·.target = journal)).map (·.text)

end Scripted

end PluginHost
