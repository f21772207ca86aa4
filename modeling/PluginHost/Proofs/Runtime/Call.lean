import PluginHost.Proofs.History
import PluginHost.Runtime

namespace PluginHost.Runtime

/-- What a host does with a runtime. The end of the runtime is one of its calls. -/
inductive Call (M : Type) where
  | addStatic (manager : M)
  | preInit (site : Site M)
  | init (site : Site M)
  | update
  | unload (name : String)
  | shutdown
  | drop

variable {M : Type} [Manager M]

def Call.act : Call M → Action (Runtime M) Unit
  | addStatic manager => (Runtime.addStatic manager).void
  | preInit site => (Runtime.preInit site).void
  | init site => Runtime.init site
  | update => Runtime.update
  | unload name => (Runtime.unload name).void
  | shutdown => Runtime.shutdown
  | drop => Runtime.drop

/-- Whether the call fits the state. -/
def Call.heeded (r : Runtime M) : Call M → Bool
  | addStatic _ => true
  | preInit _ => r.state = .created
  | init _ => r.state = .created ∨ r.state = .loaded
  | update => r.state = .running
  | unload _ | shutdown | drop => r.state ≠ .stopped

/-- Whether the call starts the managers. -/
def Call.starts (r : Runtime M) (call : Call M) : Bool :=
  match call with
  | init _ => call.heeded r
  | _ => false

/-- Whether the call completes a frame. -/
def Call.updates (r : Runtime M) (call : Call M) : Bool :=
  match call with
  | update => call.heeded r
  | _ => false

/-- Whether the managers are started in the course of some calls. -/
def started (r : Runtime M) : List (Call M) → Bool
  | [] => false
  | call :: rest => call.starts r || started (call.act r).state rest

/-- How many updates take effect in the course of some calls. -/
def updates (r : Runtime M) : List (Call M) → Nat
  | [] => 0
  | call :: rest => (if call.updates r then 1 else 0) + updates (call.act r).state rest

/-- Those of some calls that take effect. -/
def effective (r : Runtime M) : List (Call M) → List (Call M)
  | [] => []
  | call :: rest => (if call.heeded r then [call] else []) ++ effective (call.act r).state rest

@[simp]
theorem started_append (r : Runtime M) (first second : List (Call M)) :
    started r (first ++ second) = (started r first || started (Action.reached Call.act r first) second) := by
  induction first generalizing r with
  | nil => rfl
  | cons call first ih => simp [started, Action.reached, ih, Bool.or_assoc]

@[simp]
theorem updates_append (r : Runtime M) (first second : List (Call M)) :
    updates r (first ++ second) = updates r first + updates (Action.reached Call.act r first) second := by
  induction first generalizing r with
  | nil => simp [updates, Action.reached]
  | cons call first ih => simp [updates, Action.reached, ih, Nat.add_assoc]

/-- A call is effective for the state it meets, so the second part is read where the first part ends. -/
@[simp]
theorem effective_append (r : Runtime M) (first second : List (Call M)) :
    effective r (first ++ second) = effective r first ++ effective (Action.reached Call.act r first) second := by
  induction first generalizing r with
  | nil => rfl
  | cons call first ih => simp [effective, Action.reached, ih]

/-- Managers are registered while the others wait to be started. -/
def Timely (r : Runtime M) (calls : List (Call M)) : Prop :=
  ∀ before manager later, calls = before ++ .addStatic manager :: later →
    (Action.reached Call.act r before).state = .created ∨ (Action.reached Call.act r before).state = .loaded

/-- No hook panics in the course of the calls, so none of the calls does. -/
def Calm (r : Runtime M) (calls : List (Call M)) : Prop :=
  ∀ before call later, calls = before ++ call :: later →
    (call.act (Action.reached Call.act r before)).result = .ok ()

theorem Timely.of_append {r : Runtime M} {first second : List (Call M)}
    (timely : Timely r (first ++ second)) : Timely r first :=
  fun before manager later split => timely before manager (later ++ second) (by simp [split])

theorem Calm.of_append {r : Runtime M} {first second : List (Call M)}
    (calm : Calm r (first ++ second)) : Calm r first :=
  fun before call later split => calm before call (later ++ second) (by simp [split])

theorem Calm.tail {r : Runtime M} {calls : List (Call M)} {call : Call M} (calm : Calm r (call :: calls)) :
    (call.act r).result = .ok () ∧ Calm (call.act r).state calls :=
  ⟨calm [] call calls rfl, fun before next later split => calm (call :: before) next later (by simp [split])⟩

theorem Calm.after {r : Runtime M} {first second : List (Call M)} (calm : Calm r (first ++ second)) :
    Calm (Action.reached Call.act r first) second := by
  intro before call later split
  have next := calm (first ++ before) call later (by simp [split])
  rwa [Action.reached_append] at next

end PluginHost.Runtime
