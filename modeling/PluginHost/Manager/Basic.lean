import PluginHost.Hook
import PluginHost.Action
import PluginHost.Holder
import PluginHost.TypeKey

namespace PluginHost

/-- What a hook leaves: the manager and the holder as they are then, and what was written. -/
structure Reply (M : Type) where
  manager : M
  holder : Holder
  log : List Log.Record := []
  panic? : Option Panic := none

/-- The reply of a manager that is a part of another value. -/
def Reply.map {M M' : Type} (wrap : M → M') (r : Reply M) : Reply M' :=
  ⟨wrap r.manager, r.holder, r.log, r.panic?⟩

/-- Values that serve as managers. -/
class Manager (M : Type) where
  /-- the fully qualified name of the value's type -/
  concrete : M → TypeKey
  /-- the type that the value says it has -/
  claimed : M → TypeKey
  hook : Hook → M → Holder → Reply M
  /-- what is written when the value is destroyed -/
  destroy : M → List Log.Record

/-- A value of either of two kinds of managers is a manager. -/
instance {M M' : Type} [Manager M] [Manager M'] : Manager (M ⊕ M') where
  concrete := Sum.elim Manager.concrete Manager.concrete
  claimed := Sum.elim Manager.claimed Manager.claimed
  hook hook m holder :=
    m.elim (fun m => (Manager.hook hook m holder).map .inl) fun m => (Manager.hook hook m holder).map .inr
  destroy := Sum.elim Manager.destroy Manager.destroy

namespace Manager

variable {M : Type} [Manager M]

/-- Whether a manager passes for one of a type. -/
def passesFor (m : M) (key : TypeKey) : Bool := claimed m = key

/-- The manager as one of a type, if it passes for that. -/
def downcast? (m : M) (key : TypeKey) : Option M := if passesFor m key then some m else none

/-- Whether a manager is of a type. -/
def isOf (m : M) (key : TypeKey) : Bool := concrete m = key

end Manager

/-- A manager with its number. Two managers of one type are different instances. -/
structure Instance (M : Type) where
  id : ManagerId
  manager : M

end PluginHost
