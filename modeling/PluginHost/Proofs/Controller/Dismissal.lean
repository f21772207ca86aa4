import PluginHost.Manager.Scripted
import PluginHost.Proofs.Controller.Offer
import PluginHost.Proofs.Controller.Staff

namespace PluginHost.Controller

variable {M : Type} {c : Controller M} {crew : List Member} {scope : Namespace}

theorem Holds.registry_eq_empty (holds : c.Holds []) : c.registry = .empty := by
  have nobody : ∀ key, ¬ c.registry.contains key := by
    intro key taken
    have member := (holds.mem_keys key).mpr taken
    cases member
  exact holds.exact.eq_empty nobody

theorem Holds.eq_of_key (holds : c.Holds crew) {x y : Member} (first : x ∈ crew) (second : y ∈ crew)
    (same : x.key = y.key) : x = y :=
  List.inj_on_of_nodup_map holds.keys first second same

variable [Manager M]

/-- A hook of one manager leaves the others as they are. -/
theorem get?_call (c : Controller M) {key other : TypeKey} (apart : key ≠ other) (phase : Phase) :
    (call key phase c).state.registry.get? other = c.registry.get? other := by
  unfold call
  split
  · rfl
  · rename_i m found
    have unlike : compare key other ≠ .eq := fun here => apart (Std.LawfulEqOrd.eq_of_compare here)
    have same : ∀ f, (c.registry.objects.modify key f)[other]? = c.registry.objects[other]? := by
      intro f
      rw [Std.ExtTreeMap.getElem?_modify, if_neg unlike]
    dsimp only
    split <;> exact same _

/-- Hooks of others make no difference to a manager. -/
theorem get?_play {plan : List (Member × Phase)} {key : TypeKey} (apart : ∀ step ∈ plan, step.1.key ≠ key) :
    (play (spelled plan) c).state.registry.get? key = c.registry.get? key := by
  induction plan generalizing c with
  | nil => rfl
  | cons step plan ih =>
    have first := get?_call c (apart step (.head _)) step.2
    have unfolded : play (spelled (step :: plan)) c =
        (call step.1.key step.2 >>= fun _ => play (spelled plan)) c := rfl
    rw [unfolded]
    cases result : (call step.1.key step.2 c).result with
    | error panic =>
      rw [Action.bind_of_error result]
      exact first
    | ok _ =>
      have later := ih (c := (call step.1.key step.2 c).state) fun other member => apart other (.tail _ member)
      rw [Action.bind_of_ok result]
      exact later.trans first

/-- Whoever is not in the namespace is left as they are. -/
theorem get?_releaseNamespace (holds : c.Holds crew)
    (smooth : c.Smooth (partings (crew.filter fun x => scope.covers x.ns))) {x : Member} (member : x ∈ crew)
    (spared : ¬ scope.covers x.ns) :
    (releaseNamespace scope c).state.registry.get? x.key = c.registry.get? x.key := by
  have known : ∀ step ∈ partings (crew.filter fun x => scope.covers x.ns), step.1 ∈ crew :=
    fun step planned => List.mem_of_mem_filter (mem_of_partings planned)
  have apart : ∀ step ∈ partings (crew.filter fun x => scope.covers x.ns), step.1.key ≠ x.key := by
    intro step planned same
    have covered := (List.mem_filter.mp (mem_of_partings planned)).2
    exact spared (holds.eq_of_key (known step planned) member same ▸ covered)
  have untouched := get?_play (c := c) apart
  have still := (play_spec holds known).1
  have returned := smooth_iff.mp smooth
  cases played : play (spelled (partings (crew.filter fun x => scope.covers x.ns))) c with
  | mk next trace result =>
  rw [played] at untouched still returned
  obtain rfl := returned
  obtain ⟨gone, later, -, -, unfolded⟩ := releaseNamespace_run holds played still.toHolds
  have unlisted : x.key ∉ next.registry.names scope := fun listed => spared ((still.mem_names member scope).mp listed)
  rw [unfolded, ← untouched]
  simp only [Registry.get?, Registry.objects_clearNamespace]
  apply Option.ext
  intro m
  rw [Registry.getElem?_foldl_erase]
  exact and_iff_right unlisted

theorem summons_partings (leaving : List Member) :
    summons (partings leaving) =
      leaving.flatMap fun x => [.called x.id (.phase .release), .called x.id (.phase .postRelease)] := by
  rw [summons, partings, List.map_flatMap]
  rfl

theorem summons_phase (crew : List Member) (phase : Phase) :
    summons (crew.map (·, phase)) = crew.map fun x => .called x.id (.phase phase) := by
  rw [summons, List.map_map]
  rfl

/-- A type that nobody in the crew has can be registered. -/
theorem Holds.admits (holds : c.Holds crew) {key : TypeKey} (free : key ∉ crew.map (·.key)) {manager : M}
    (calm : (Manager.hook .attach manager c.holder).panic? = none) (ns : Namespace) (library : Option LibraryId) :
    let run := addExt key manager ns library c
    run.result = .ok none ∧ run.state.typeKeys = crew.map (·.key) ++ [key] ∧
      run.state.namespaceOf? key = some ns := by
  have vacant : ¬ c.contains key := fun taken => free ((holds.mem_keys key).mpr taken)
  obtain ⟨accepted, state⟩ := addExt_of_calm vacant calm ns library
  refine ⟨accepted, ?_, ?_⟩
  · rw [state, typeKeys, holds.order]
  · rw [state, namespaceOf?, Registry.namespaceOf?, Registry.namespaces_file]
    exact Std.ExtTreeMap.getElem?_insert_self

/-- Taking a namespace down takes down those in it and nobody else. They hear that they are released and
that they were, in the order of registration, and are destroyed after the last of them has heard it. -/
theorem namespace_dismissed (holder : Holder) (deals : List (Deal M)) (ns : Namespace) :
    let c := Action.reached Deal.act { holder } deals
    let crew := staff { holder } deals
    let leaving := crew.filter fun x => ns.covers x.ns
    let staying := crew.filter fun x => !ns.covers x.ns
    let run := releaseNamespace ns c
    c.crew = crew ∧ c.typeKeys = crew.map (·.key) ∧ (crew.map (·.id)).Nodup ∧ (c.Smooth (partings leaving) →
      run.result = .ok () ∧
      (∃ gone : List ManagerId, gone.Perm (leaving.map (·.id)) ∧ deeds run.trace =
        (leaving.flatMap fun x => [.called x.id (.phase .release), .called x.id (.phase .postRelease)]) ++
          gone.map .destroyed) ∧
      run.state.crew = staying ∧ run.state.typeKeys = staying.map (·.key) ∧
      (∀ x ∈ staying, run.state.registry.get? x.key = c.registry.get? x.key ∧
        run.state.namespaceOf? x.key = some x.ns ∧ c.namespaceOf? x.key = some x.ns) ∧
      ∀ x ∈ leaving, ∀ (manager : M) (ns' : Namespace) (library : Option LibraryId),
        (Manager.hook .attach manager run.state.holder).panic? = none →
          let again := addExt x.key manager ns' library run.state
          again.result = .ok none ∧ again.state.typeKeys = staying.map (·.key) ++ [x.key] ∧
            again.state.namespaceOf? x.key = some ns') := by
  intro c crew leaving staying run
  have holds : c.Holds crew := holds_staff holder deals
  refine ⟨holds.crew_eq, holds.order, holds.ids, fun smooth => ?_⟩
  obtain ⟨ok, left, gone, perm, trace⟩ := releaseNamespace_of_smooth holds smooth
  rw [summons_partings] at trace
  refine ⟨ok, ⟨gone, perm, trace⟩, left.crew_eq, left.order, ?_, ?_⟩
  · intro x member
    obtain ⟨aboard, spared⟩ := List.mem_filter.mp member
    have unconcerned : ¬ ns.covers x.ns := by simpa using spared
    exact ⟨get?_releaseNamespace holds smooth aboard unconcerned,
      (left.namespaceOf?_eq_some _ _).mpr ⟨x, member, rfl, rfl⟩,
      (holds.namespaceOf?_eq_some _ _).mpr ⟨x, aboard, rfl, rfl⟩⟩
  · intro x member manager ns' library calm
    obtain ⟨aboard, covered⟩ := List.mem_filter.mp member
    have freed : x.key ∉ staying.map (·.key) := by
      intro kept
      obtain ⟨y, remains, same⟩ := List.mem_map.mp kept
      obtain ⟨there, spared⟩ := List.mem_filter.mp remains
      rw [holds.eq_of_key there aboard same, covered] at spared
      cases spared
    exact left.admits freed calm ns' library

/-- A plugin goes with its addin; the manager of the host stays as it was, and its type can be told from the free
ones. -/
theorem namespace_dismissed_plugin :
    let cook : Scripted := { key := ⟨"crew::Cook"⟩, label := "cook" }
    let mate : Scripted := { key := ⟨"crew::Mate"⟩, label := "mate" }
    let pilot : Scripted := { key := ⟨"crew::Pilot"⟩, label := "pilot" }
    let deals : List (Deal Scripted) :=
      [.call (.add cook (.of 1 2)), .call (.add pilot (.of 2 2)), .call (.add cook .core),
        .call (.addExt mate.key mate (.plugin 1) none), .callOne mate.key .init]
    let c := Action.reached Deal.act { holder := ⟨.empty, ⟨[]⟩, ⟨[]⟩, .off⟩ } deals
    let run := releaseNamespace (.plugin 1) c
    run.result = .ok () ∧ run.state.typeKeys = [pilot.key] ∧ ∃ gone : List ManagerId, gone.Perm [⟨0⟩, ⟨3⟩] ∧
      deeds run.trace = [.called ⟨0⟩ (.phase .release), .called ⟨0⟩ (.phase .postRelease),
        .called ⟨3⟩ (.phase .release), .called ⟨3⟩ (.phase .postRelease)] ++ gone.map .destroyed := by
  intro cook mate pilot deals c run
  have leaving : (staff { holder := ⟨.empty, ⟨[]⟩, ⟨[]⟩, .off⟩ } deals).filter
      (fun x => (Namespace.plugin 1).covers x.ns) = [⟨cook.key, ⟨0⟩, .of 1 2⟩, ⟨mate.key, ⟨3⟩, .plugin 1⟩] := by
    decide +kernel
  have staying : (staff { holder := ⟨.empty, ⟨[]⟩, ⟨[]⟩, .off⟩ } deals).filter
      (fun x => !(Namespace.plugin 1).covers x.ns) = [⟨pilot.key, ⟨1⟩, .of 2 2⟩] := by decide +kernel
  obtain ⟨-, -, -, dismissed⟩ := namespace_dismissed ⟨.empty, ⟨[]⟩, ⟨[]⟩, .off⟩ deals (.plugin 1)
  rw [leaving, staying] at dismissed
  obtain ⟨ok, gone, -, keys, -⟩ := dismissed (smooth_iff.mpr (by decide +kernel))
  exact ⟨ok, keys, gone⟩

/-- Phases and releases go through the crew in the order of registration, and destruction goes the other
way. A controller that has released everyone is as good as new. -/
theorem crew_in_order (holder : Holder) (deals : List (Deal M)) :
    let c := Action.reached Deal.act { holder } deals
    let crew := staff { holder } deals
    c.crew = crew ∧ c.typeKeys = crew.map (·.key) ∧ (crew.map (·.id)).Nodup ∧
      (∀ phase, c.Smooth (crew.map (·, phase)) →
        let run := dispatch phase c
        run.result = .ok () ∧ run.state.crew = crew ∧
          deeds run.trace = crew.map fun x => .called x.id (.phase phase)) ∧
      (c.Smooth (crew.map (·, .release) ++ crew.map (·, .postRelease)) →
        let run := releaseAll c
        run.result = .ok () ∧
          deeds run.trace = (crew.map fun x => .called x.id (.phase .release)) ++
            (crew.map fun x => .called x.id (.phase .postRelease)) ++ crew.reverse.map (fun x => .destroyed x.id) ∧
          run.state = { holder := run.state.holder, offered := c.offered } ∧
          ∀ (key : TypeKey) (manager : M) (ns : Namespace) (library : Option LibraryId),
            (Manager.hook .attach manager run.state.holder).panic? = none →
              let again := addExt key manager ns library run.state
              again.result = .ok none ∧ again.state.typeKeys = [key] ∧ again.state.namespaceOf? key = some ns) ∧
      (drop c).result = .ok () ∧ (drop c).state.crew = [] ∧
        deeds (drop c).trace = crew.reverse.map fun x => .destroyed x.id := by
  intro c crew
  have holds : c.Holds crew := holds_staff holder deals
  have backwards : (crew.reverse.map (·.id)).map Event.destroyed = crew.reverse.map fun x => .destroyed x.id :=
    List.map_map
  refine ⟨holds.crew_eq, holds.order, holds.ids, fun phase smooth => ?_, fun smooth => ?_, ?_⟩
  · obtain ⟨ok, same, called⟩ := dispatch_of_smooth holds smooth
    exact ⟨ok, same.crew_eq, called.trans (summons_phase crew phase)⟩
  · intro run
    obtain ⟨ok, left, offered, trace⟩ := releaseAll_of_smooth holds smooth
    rw [summons_phase, summons_phase, backwards] at trace
    refine ⟨ok, trace, ?_, fun key manager ns library calm => left.admits (by simp) calm ns library⟩
    calc run.state = ⟨run.state.holder, run.state.registry, run.state.order, run.state.offered⟩ := rfl
      _ = { holder := run.state.holder, offered := c.offered } := by
        rw [left.registry_eq_empty, left.order, offered]
        rfl
  · obtain ⟨ok, left, -, trace⟩ := clear_spec holds
    exact ⟨ok, left.crew_eq, trace.trans backwards⟩

/-- A controller that was emptied takes managers again, also under a type that was there before. -/
theorem crew_in_order_again :
    let cook : Scripted := { key := ⟨"crew::Cook"⟩, label := "cook" }
    let mate : Scripted := { key := ⟨"crew::Mate"⟩, label := "mate" }
    let pilot : Scripted := { key := ⟨"crew::Pilot"⟩, label := "pilot" }
    let deals : List (Deal Scripted) :=
      [.call (.add cook (.plugin 1)), .call (.add mate .core), .call (.add mate (.plugin 1)),
        .call (.releaseNamespace (.plugin 1)), .call (.add pilot .core), .call (.add cook (.of 1 1))]
    let c := Action.reached Deal.act { holder := ⟨.empty, ⟨[]⟩, ⟨[]⟩, .off⟩ } deals
    deeds (dispatch .update c).trace = [.called ⟨1⟩ (.phase .update), .called ⟨3⟩ (.phase .update),
        .called ⟨4⟩ (.phase .update)] ∧
      deeds (releaseAll c).trace = [.called ⟨1⟩ (.phase .release), .called ⟨3⟩ (.phase .release),
        .called ⟨4⟩ (.phase .release), .called ⟨1⟩ (.phase .postRelease), .called ⟨3⟩ (.phase .postRelease),
        .called ⟨4⟩ (.phase .postRelease), .destroyed ⟨4⟩, .destroyed ⟨3⟩, .destroyed ⟨1⟩] ∧
      (addExt mate.key mate .core none (releaseAll c).state).result = .ok none := by
  intro cook mate pilot deals c
  have crew : staff { holder := ⟨.empty, ⟨[]⟩, ⟨[]⟩, .off⟩ } deals =
      [⟨mate.key, ⟨1⟩, .core⟩, ⟨pilot.key, ⟨3⟩, .core⟩, ⟨cook.key, ⟨4⟩, .of 1 1⟩] := by decide +kernel
  obtain ⟨-, -, -, dispatched, released, -⟩ := crew_in_order ⟨.empty, ⟨[]⟩, ⟨[]⟩, .off⟩ deals
  rw [crew] at dispatched released
  obtain ⟨-, -, called⟩ := dispatched .update (smooth_iff.mpr (by decide +kernel))
  obtain ⟨-, parted, -, reusable⟩ := released (smooth_iff.mpr (by decide +kernel))
  exact ⟨called, parted, (reusable mate.key mate .core none rfl).1⟩

end PluginHost.Controller
