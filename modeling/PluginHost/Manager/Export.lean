import PluginHost.Manager.Basic

namespace PluginHost

/-- What a constructor leaves: a manager or a panic, the holder as it is then, and what was written. -/
structure Built (M : Type) where
  result : Except Panic M
  holder : Holder
  log : List Log.Record := []

/-- What the constructor of a value leaves that has the manager as a part. -/
def Built.map {M M' : Type} (wrap : M → M') (b : Built M) : Built M' :=
  ⟨b.result.map wrap, b.holder, b.log⟩

/-- What an entry point hands to the host. -/
structure Export (M : Type) where
  manager : M
  /-- the type of the manager -/
  typeKey : TypeKey

def Export.debug {M : Type} (e : Export M) : String :=
  Text.fields "PluginExport" [("type_key", e.typeKey.debug)]

/-- What a call of an entry point leaves. -/
structure Entered (M : Type) where
  export? : Option (Export M)
  holder : Holder
  log : List Log.Record := []

/-- An entry point is called with the host's holder. -/
abbrev EntryPoint (M : Type) := Holder → Entered M

variable {M : Type} [Manager M]

/-- The entry point around a constructor. -/
def enter (make : Holder → Built M) : EntryPoint M := fun holder =>
  let built := make holder
  match built.result with
  | .error _ => ⟨none, built.holder, built.log⟩
  | .ok manager => ⟨some ⟨manager, Manager.concrete manager⟩, built.holder, built.log⟩

/-- The call of an entry point with a holder or without. -/
def enter? (make : Holder → Built M) (holder : Option Holder) : Option (Entered M) :=
  holder.map (enter make)

/-- A manager whose code lives in a library. Its records pass a filter. -/
structure Routed (M : Type) where
  manager : M
  filter : Log.Filter

instance : Manager (Routed M) where
  concrete m := Manager.concrete m.manager
  claimed m := Manager.claimed m.manager
  hook hook m holder :=
    let reply := Manager.hook hook m.manager holder
    ⟨{ m with manager := reply.manager }, reply.holder, Log.filter m.filter reply.log, reply.panic?⟩
  destroy m := Log.filter m.filter (Manager.destroy m.manager)

/-- A constructor as a library runs it. -/
def routed (make : Holder → Built M) (holder : Holder) : Built (Routed M) :=
  let built := make holder
  ⟨built.result.map (⟨·, holder.logger⟩), built.holder, Log.filter holder.logger built.log⟩

end PluginHost
