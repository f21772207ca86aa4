import PluginHost.Proofs.Controller.Crew
import PluginHost.Proofs.History

namespace PluginHost.Controller

variable {M : Type} {c : Controller M} {crew : List Member}

/-- The controller holds a crew, in the order of registration, and numbers the next manager anew. -/
structure Holds (c : Controller M) (crew : List Member) : Prop extends c.registry.Holds crew where
  order : c.order = crew.map (·.key)
  ids : (crew.map (·.id)).Nodup
  fresh : ∀ x ∈ crew, x.id.index < c.offered

theorem holds_new (holder : Holder) : ({ holder } : Controller M).Holds [] where
  toHolds := Registry.holds_empty
  order := rfl
  ids := List.nodup_nil
  fresh := fun _ member => by cases member

theorem Holds.of_registry (holds : c.Holds crew) {next : Controller M} (registry : next.registry.Holds crew)
    (order : next.order = c.order) (offered : c.offered ≤ next.offered) : next.Holds crew where
  toHolds := registry
  order := order.trans holds.order
  ids := holds.ids
  fresh := fun x member => (holds.fresh x member).trans_le offered

theorem Holds.numbered (holds : c.Holds crew) {m : ManagerId} (aboard : m ∈ crew.map (·.id)) :
    m.index < c.offered := by
  obtain ⟨x, member, rfl⟩ := List.mem_map.mp aboard
  exact holds.fresh x member

theorem Holds.unused (holds : c.Holds crew) {x : Member} (member : x ∈ crew) : x.id ≠ ⟨c.offered⟩ := by
  intro same
  have known := holds.fresh x member
  simp [same] at known

variable [Manager M]

/-- The calls of hooks that a plan asks for. -/
def summons (plan : List (Member × Phase)) : List Event :=
  plan.map fun (x, phase) => .called x.id (.phase phase)

/-- The step lemma of a phase: one hook of a member, and the crew stays. -/
theorem call_spec (holds : c.Holds crew) {x : Member} (member : x ∈ crew) (phase : Phase) :
    (call x.key phase c).state.Holds crew ∧ (call x.key phase c).state.offered = c.offered ∧
      deeds (call x.key phase c).trace = [.called x.id (.phase phase)] := by
  obtain ⟨m, found, id⟩ := holds.object member
  have registry := holds.modify x.key (f := fun m' => { m' with
    manager := (Manager.hook (.phase phase) m.manager c.holder).manager }) fun _ => rfl
  simp only [call, Registry.get?, found]
  split <;> exact ⟨holds.of_registry registry rfl le_rfl, rfl, by simp [id]⟩

/-- The keys and phases of a plan. -/
def spelled (plan : List (Member × Phase)) : List (TypeKey × Phase) :=
  plan.map fun (x, phase) => (x.key, phase)

/-- Hooks are called as planned, and up to the first that panics. -/
theorem play_spec (holds : c.Holds crew) {plan : List (Member × Phase)}
    (known : ∀ step ∈ plan, step.1 ∈ crew) :
    let run := play (spelled plan) c
    run.state.Holds crew ∧ run.state.offered = c.offered ∧
      ∃ done, done <+: plan ∧ deeds run.trace = summons done ∧ (run.result = .ok () → done = plan) := by
  induction plan generalizing c with
  | nil => exact ⟨holds, rfl, [], List.prefix_rfl, rfl, fun _ => rfl⟩
  | cons step plan ih =>
    obtain ⟨x, phase⟩ := step
    obtain ⟨next, offered, called⟩ := call_spec holds (known _ List.mem_cons_self) phase
    intro run
    have unfolded : run = (call x.key phase >>= fun _ => play (spelled plan)) c := rfl
    cases result : (call x.key phase c).result with
    | error panic =>
      rw [Action.bind_of_error result] at unfolded
      rw [unfolded]
      exact ⟨next, offered, [(x, phase)], by simp, called, nofun⟩
    | ok _ =>
      obtain ⟨last, more, done, before, trace, whole⟩ := ih next fun step later =>
        known step (List.mem_cons_of_mem _ later)
      rw [Action.bind_of_ok result] at unfolded
      rw [unfolded]
      refine ⟨last, more.trans offered, (x, phase) :: done, List.cons_prefix_cons.mpr ⟨rfl, before⟩, ?_, ?_⟩
      · rw [deeds_append, called, trace]
        rfl
      · exact fun ok => congrArg _ (whole ok)

/-- The hook of a phase is called on everyone, in the order of registration. -/
theorem dispatch_spec (holds : c.Holds crew) (phase : Phase) :
    let run := dispatch phase c
    run.state.Holds crew ∧ run.state.offered = c.offered ∧
      ∃ done, done <+: crew.map (·, phase) ∧ deeds run.trace = summons done ∧
        (run.result = .ok () → done = crew.map (·, phase)) := by
  have known : ∀ step ∈ crew.map (·, phase), step.1 ∈ crew := by simp
  have plan : dispatch phase c = play (spelled (crew.map (·, phase))) c := by
    simp only [dispatch, Action.get_bind, spelled, holds.order, List.map_map]
    rfl
  rw [plan]
  exact play_spec holds known

/-- Whoever borrows a manager and changes it leaves the crew as it is. -/
theorem holds_change (holds : c.Holds crew) (key : TypeKey) (f : M → M) :
    (c.change key f).Holds crew ∧ (c.change key f).offered = c.offered := by
  unfold Controller.change
  split
  · have registry := holds.modify key (f := fun m => { m with manager := f m.manager }) fun _ => rfl
    exact ⟨holds.of_registry registry rfl le_rfl, rfl⟩
  · exact ⟨holds, rfl⟩

/-- A phase of one manager calls that manager or nobody. -/
theorem dispatchOne_spec (holds : c.Holds crew) (key : TypeKey) (phase : Phase) :
    (dispatchOne key phase c).state.Holds crew ∧ (dispatchOne key phase c).state.offered = c.offered ∧
      ∃ done, deeds (dispatchOne key phase c).trace = summons done := by
  unfold dispatchOne
  rw [Action.get_bind]
  split
  · rename_i found
    obtain ⟨m, there⟩ : ∃ m, c.registry.objects[key]? = some m := by
      rcases there : c.registry.objects[key]? with _ | m
      · simp [Controller.get?, Registry.get?, there] at found
      · exact ⟨m, rfl⟩
    obtain ⟨ns, member⟩ := holds.member there
    obtain ⟨same, offered, called⟩ := call_spec holds member phase
    have heard : deeds (call key phase c).trace = summons [(⟨key, m.id, ns⟩, phase)] := called
    rcases result : (call key phase c).result with panic | _
    · rw [Action.bind_of_error result]
      exact ⟨same, offered, _, heard⟩
    · rw [Action.bind_of_ok result]
      exact ⟨same, offered, _, by simpa using heard⟩
  · exact ⟨holds, rfl, [], rfl⟩

end PluginHost.Controller
