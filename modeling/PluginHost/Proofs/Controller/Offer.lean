import PluginHost.Proofs.History
import PluginHost.Controller

namespace PluginHost.Controller

variable {M : Type} {c : Controller M} {key : TypeKey} {manager : M}

/-- A manager that is offered takes the next number, whatever becomes of it. -/
theorem offer_bind {β : Type} (manager : M) (library : Option LibraryId) (f : Instance M → Action (Controller M) β) :
    let next := f ⟨⟨c.offered⟩, manager⟩ { c with offered := c.offered + 1 }
    (offer manager library >>= f) c = ⟨next.state, .offered ⟨c.offered⟩ library :: next.trace, next.result⟩ :=
  rfl

variable [Manager M]

/-- A manager of a registered type is handed back as it came, and nothing else happens. -/
theorem addExt_of_contains (taken : c.contains key) (manager : M) (ns : Namespace) (library : Option LibraryId) :
    addExt key manager ns library c =
      ⟨{ c with offered := c.offered + 1 },
        [.offered ⟨c.offered⟩ library,
          .logged ⟨.error, target, "Manager '" ++ key.display ++
            "' is already registered, ignoring registration from " ++ ns.display⟩],
        .ok (some ⟨⟨c.offered⟩, manager⟩)⟩ := by
  have there : Controller.contains { c with offered := c.offered + 1 } key := taken
  unfold addExt
  rw [offer_bind, Action.get_bind, if_pos there]
  rfl

/-- A manager that panics over the holder is destroyed, and the controller has nothing but its number. -/
theorem addExt_of_panic {panic : Panic} (free : ¬ c.contains key)
    (panics : (Manager.hook .attach manager c.holder).panic? = some panic) (ns : Namespace)
    (library : Option LibraryId) :
    let run := addExt key manager ns library c
    run.result = .error panic ∧
      run.state = { c with
        holder := (Manager.hook .attach manager c.holder).holder
        offered := c.offered + 1 } ∧
      deeds run.trace =
        [.offered ⟨c.offered⟩ library, .called ⟨c.offered⟩ .attach, .destroyed ⟨c.offered⟩] := by
  have vacant : ¬ Controller.contains { c with offered := c.offered + 1 } key := free
  have failed : (attach ⟨⟨c.offered⟩, manager⟩ { c with offered := c.offered + 1 }).result = .error panic := by
    simp [attach, panics]
  unfold addExt
  rw [offer_bind, Action.get_bind, if_neg vacant, Action.bind_of_error failed]
  simp [attach, panics, Instance.destruction]

/-- A manager that takes the holder without a panic is filed under its type, after all others. -/
theorem addExt_of_calm (free : ¬ c.contains key)
    (calm : (Manager.hook .attach manager c.holder).panic? = none) (ns : Namespace) (library : Option LibraryId) :
    let run := addExt key manager ns library c
    let reply := Manager.hook .attach manager c.holder
    run.result = .ok none ∧ run.state = { c with
      holder := reply.holder
      registry := c.registry.file ⟨⟨c.offered⟩, reply.manager⟩ key ns
      order := c.order ++ [key]
      offered := c.offered + 1 } := by
  have vacant : ¬ Controller.contains { c with offered := c.offered + 1 } key := free
  have attached : (attach ⟨⟨c.offered⟩, manager⟩ { c with offered := c.offered + 1 }).result =
      .ok ⟨⟨c.offered⟩, (Manager.hook .attach manager c.holder).manager⟩ := by
    simp [attach, calm]
  have filed : c.registry.add ⟨⟨c.offered⟩, (Manager.hook .attach manager c.holder).manager⟩ key ns =
      .ok (c.registry.file ⟨⟨c.offered⟩, (Manager.hook .attach manager c.holder).manager⟩ key ns) := if_neg free
  unfold addExt
  rw [offer_bind, Action.get_bind, if_neg vacant, Action.bind_of_ok attached]
  simp [attach, calm, filed]

/-- An offer numbers the manager, attaches it and files it, unless its type is taken. -/
theorem leads_addExt {I fail : List Event → Controller M → Prop} {library : Option LibraryId}
    (numbers : (offer manager library).Leads I I fail) (attaches : ∀ m : Instance M, (attach m).Leads I I fail)
    (files : ∀ registry, (Action.modify fun c : Controller M =>
      { c with registry, order := c.order ++ [key] }).Leads I I fail) (ns : Namespace) :
    (addExt key manager ns library).Leads I I fail := by
  refine numbers.bind fun m => Action.leads_get_bind fun _ c _ => ?_
  split
  · exact Action.leads_log.bind fun _ => Action.leads_pure _
  · refine (attaches m).bind fun m => Action.leads_get_bind fun _ c _ => ?_
    split
    · exact (Action.leads_emit (by simp)).bind fun _ => Action.leads_pure _
    · exact (files _).bind fun _ => Action.leads_log.bind fun _ => Action.leads_pure _

end PluginHost.Controller
