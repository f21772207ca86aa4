import PluginHost.Hook
import PluginHost.Log

namespace PluginHost

/-- Managers are numbered in the order in which they are offered for registration. -/
structure ManagerId where
  index : Nat
  deriving DecidableEq, Repr

/-- Libraries are numbered in the order in which they are opened. -/
structure LibraryId where
  index : Nat
  deriving DecidableEq, Repr

inductive Event where
  | logged (record : Log.Record)
  /-- a manager was offered for registration; the library is the one that made it -/
  | offered (manager : ManagerId) (library : Option LibraryId)
  | called (manager : ManagerId) (hook : Hook)
  | destroyed (manager : ManagerId)
  | opened (library : LibraryId)
  | closed (library : LibraryId)
  deriving DecidableEq, Repr

def Event.record? : Event → Option Log.Record
  | logged record => some record
  | _ => none

/-- The message of a hook that did not return. -/
structure Panic where
  message : String
  deriving DecidableEq, Repr

/-- What an operation leaves. -/
structure Run (σ α : Type) where
  state : σ
  trace : List Event
  result : Except Panic α

/-- The log records of a run, in order. -/
def Run.records {σ α : Type} (r : Run σ α) : List Log.Record := r.trace.filterMap Event.record?

/-- An operation on states. A panic keeps the state and the trace that were reached, so a caller may go on from
there. -/
def Action (σ α : Type) := σ → Run σ α

namespace Action

variable {σ τ α β : Type}

instance : Monad (Action σ) where
  pure a := fun s => ⟨s, [], .ok a⟩
  bind x f := fun s =>
    match x s with
    | ⟨s, trace, .error panic⟩ => ⟨s, trace, .error panic⟩
    | ⟨s, trace, .ok a⟩ =>
      let next := f a s
      ⟨next.state, trace ++ next.trace, next.result⟩

def get : Action σ σ := fun s => ⟨s, [], .ok s⟩

def modify (f : σ → σ) : Action σ Unit := fun s => ⟨f s, [], .ok ()⟩

def emit (events : List Event) : Action σ Unit := fun s => ⟨s, events, .ok ()⟩

def log (level : Log.Level) (target text : String) : Action σ Unit :=
  emit [.logged ⟨level, target, text⟩]

/-- Runs an operation on a part of the state. -/
def zoom (part : τ → σ) (put : σ → τ → τ) (x : Action σ α) : Action τ α := fun t =>
  let r := x (part t)
  ⟨put r.state t, r.trace, r.result⟩

/-- Runs a second operation if the first one panics. The panic stays. -/
def onPanic (x : Action σ α) (y : Action σ Unit) : Action σ α := fun s =>
  match x s with
  | ⟨s, trace, .ok a⟩ => ⟨s, trace, .ok a⟩
  | ⟨s, trace, .error panic⟩ =>
    let last := y s
    ⟨last.state, trace ++ last.trace, .error panic⟩

/-- Runs a second operation whether or not the first one panicked. The first panic stays. -/
def andFinally (x : Action σ α) (y : Action σ Unit) : Action σ α := fun s =>
  let r := x s
  let last := y r.state
  ⟨last.state, r.trace ++ last.trace, r.result⟩

/-- Runs an operation for each item, in order. -/
def forEach (items : List α) (f : α → Action σ Unit) : Action σ Unit :=
  match items with
  | [] => pure ()
  | item :: rest => do
    f item
    forEach rest f

end Action

end PluginHost
