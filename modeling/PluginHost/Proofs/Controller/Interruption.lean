import PluginHost.Proofs.Controller.Release

namespace PluginHost.Controller

variable {M : Type} {c d e : Controller M}

/-- The registered managers, in the order of registration. -/
def crew (c : Controller M) : List Member :=
  c.order.filterMap fun key => do
    let m ← c.registry.get? key
    let ns ← c.registry.namespaceOf? key
    return ⟨key, m.id, ns⟩

/-- The crew can be read off the order and the registry. -/
theorem Holds.crew_eq {crew : List Member} (holds : c.Holds crew) : c.crew = crew := by
  have found : ∀ x ∈ crew, (do
      let m ← c.registry.get? x.key
      let ns ← c.registry.namespaceOf? x.key
      return (⟨x.key, m.id, ns⟩ : Member)) = some x := by
    intro x member
    obtain ⟨m, there, id⟩ := holds.object member
    have place := ((holds.mem_iff x).mp member).2
    simp [Registry.get?, Registry.namespaceOf?, there, place, id]
  rw [Controller.crew, holds.order, List.filterMap_map]
  exact (List.filterMap_congr found).trans List.filterMap_some

/-- The same managers are registered in the same way, whatever they are at the moment. -/
structure Unmoved (c d : Controller M) : Prop where
  order : d.order = c.order
  offered : d.offered = c.offered
  ids : ∀ key : TypeKey, d.registry.objects[key]?.map (·.id) = c.registry.objects[key]?.map (·.id)
  registry : d.registry = { c.registry with objects := d.registry.objects }

theorem unmoved_refl (c : Controller M) : c.Unmoved c := ⟨rfl, rfl, fun _ => rfl, rfl⟩

theorem Unmoved.trans (first : c.Unmoved d) (second : d.Unmoved e) : c.Unmoved e where
  order := second.order.trans first.order
  offered := second.offered.trans first.offered
  ids key := (second.ids key).trans (first.ids key)
  registry := by
    rw [second.registry, first.registry]

theorem Unmoved.namespaceOf? (unmoved : c.Unmoved d) (key : TypeKey) : d.namespaceOf? key = c.namespaceOf? key := by
  unfold Controller.namespaceOf?
  rw [unmoved.registry]
  rfl

/-- Where nobody has moved, the crew is the same. -/
theorem Unmoved.holds {crew : List Member} (unmoved : c.Unmoved d) (holds : c.Holds crew) : d.Holds crew := by
  have namespaces : d.registry.namespaces = c.registry.namespaces := by rw [unmoved.registry]
  have exact : d.registry.Exact := by
    rw [unmoved.registry]
    refine { holds.exact with objects := fun key => ?_ }
    have same := congrArg Option.isSome (unmoved.ids key)
    rw [Option.isSome_map, Option.isSome_map] at same
    rw [← holds.exact.objects key, Std.ExtTreeMap.mem_iff_isSome_getElem?, Std.ExtTreeMap.mem_iff_isSome_getElem?,
      same]
  have registry : d.registry.Holds crew := by
    refine ⟨exact, holds.keys, fun x => ?_⟩
    rw [holds.mem_iff, unmoved.ids, namespaces]
  exact holds.of_registry registry unmoved.order unmoved.offered.ge

theorem Unmoved.crew_eq (unmoved : c.Unmoved d) : d.crew = c.crew := by
  unfold crew
  rw [unmoved.order]
  apply List.filterMap_congr
  intro key _
  have place := unmoved.namespaceOf? key
  have same := unmoved.ids key
  unfold Controller.namespaceOf? at place
  unfold Registry.get?
  rw [place]
  generalize d.registry.objects[key]? = there at same ⊢
  generalize c.registry.objects[key]? = here at same ⊢
  cases here <;> cases there <;> simp_all

variable [Manager M] {panic : Panic}

/-- A single hook moves nobody, whether it returns or panics. -/
theorem unmoved_call (c : Controller M) (key : TypeKey) (phase : Phase) : c.Unmoved (call key phase c).state := by
  unfold call
  split
  · exact unmoved_refl c
  · rename_i m found
    have ids : ∀ other : TypeKey, (c.registry.objects.modify key fun m' => { m' with
        manager := (Manager.hook (.phase phase) m.manager c.holder).manager })[other]?.map (·.id) =
        c.registry.objects[other]?.map (·.id) := by
      intro other
      rw [Std.ExtTreeMap.getElem?_modify]
      split
      · rename_i here
        rw [Std.LawfulEqOrd.eq_of_compare here]
        simp [Function.comp_def]
      · rfl
    dsimp only
    split <;> exact ⟨rfl, rfl, ids, rfl⟩

theorem play_cons (step : TypeKey × Phase) (plan : List (TypeKey × Phase)) :
    (play (step :: plan) : Action (Controller M) Unit) = call step.1 step.2 >>= fun _ => play plan := rfl

/-- A row of hooks moves nobody, by induction on the row. -/
theorem unmoved_play (c : Controller M) (plan : List (TypeKey × Phase)) : c.Unmoved (play plan c).state := by
  induction plan generalizing c with
  | nil => exact unmoved_refl c
  | cons step plan ih =>
    have first := unmoved_call c step.1 step.2
    rw [play_cons]
    cases result : (call step.1 step.2 c).result with
    | error panic =>
      rw [Action.bind_of_error result]
      exact first
    | ok _ =>
      rw [Action.bind_of_ok result]
      exact first.trans (ih _)

/-- The hooks of a plan return up to one, and that one panics. -/
def Breaks (c : Controller M) (done : List (Member × Phase)) (step : Member × Phase) (panic : Panic) : Prop :=
  (play (spelled done) c).result = .ok () ∧
    ∃ m, (play (spelled done) c).state.registry.get? step.1.key = some m ∧
      (Manager.hook (.phase step.2) m.manager (play (spelled done) c).state.holder).panic? = some panic

/-- A call panics exactly if the hook of the manager does. -/
theorem call_eq_error_iff (key : TypeKey) (phase : Phase) :
    (call key phase c).result = .error panic ↔
      ∃ m, c.registry.get? key = some m ∧ (Manager.hook (.phase phase) m.manager c.holder).panic? = some panic := by
  unfold call
  split
  · rename_i none
    simp [none]
  · rename_i m found
    dsimp only
    split <;> rename_i reply <;> simp [found, reply]

theorem play_append (first second : List (TypeKey × Phase)) :
    (play (first ++ second) : Action (Controller M) Unit) = play first >>= fun _ => play second := by
  induction first with
  | nil => rfl
  | cons step first ih => rw [List.cons_append, play_cons, play_cons, ih, Action.bind_assoc]

/-- Nothing is called after a hook that panics. -/
theorem play_of_breaks {done : List (Member × Phase)} {step : Member × Phase} (breaks : c.Breaks done step panic)
    (rest : List (Member × Phase)) :
    play (spelled (done ++ step :: rest)) c =
      ⟨(call step.1.key step.2 (play (spelled done) c).state).state,
        (play (spelled done) c).trace ++ (call step.1.key step.2 (play (spelled done) c).state).trace,
        .error panic⟩ := by
  have panics := (call_eq_error_iff step.1.key step.2).mpr breaks.2
  have parts : spelled (done ++ step :: rest) = spelled done ++ (step.1.key, step.2) :: spelled rest := by
    simp [spelled]
  rw [parts, play_append, Action.bind_of_ok breaks.1, play_cons, Action.bind_of_error panics]

/-- Hooks that are called one after the other break off only where one panics. -/
theorem breaks_of_play {plan : List (Member × Phase)} (error : (play (spelled plan) c).result = .error panic) :
    ∃ done step rest, plan = done ++ step :: rest ∧ c.Breaks done step panic := by
  induction plan generalizing c with
  | nil => cases error
  | cons first plan ih =>
    have unfolded : ∀ later, play (spelled (first :: later)) c =
        (call first.1.key first.2 >>= fun _ => play (spelled later)) c := fun _ => rfl
    rw [unfolded] at error
    cases result : (call first.1.key first.2 c).result with
    | error other =>
      rw [Action.bind_of_error result] at error
      exact ⟨[], first, plan, rfl, rfl, (call_eq_error_iff ..).mp (result.trans error)⟩
    | ok _ =>
      rw [Action.bind_of_ok result] at error
      obtain ⟨done, step, rest, rfl, returned, panics⟩ := ih error
      refine ⟨first :: done, step, rest, rfl, ?_⟩
      unfold Breaks
      rw [unfolded, Action.bind_of_ok result]
      exact ⟨returned, panics⟩

/-- No hook of a plan panics. -/
def Smooth (c : Controller M) (plan : List (Member × Phase)) : Prop :=
  ∀ done step rest panic, plan = done ++ step :: rest → ¬ c.Breaks done step panic

/-- A plan is smooth exactly if it can be played to its end. -/
theorem smooth_iff {plan : List (Member × Phase)} : c.Smooth plan ↔ (play (spelled plan) c).result = .ok () := by
  constructor
  · intro smooth
    cases result : (play (spelled plan) c).result with
    | ok _ => rfl
    | error panic =>
      obtain ⟨done, step, rest, parts, breaks⟩ := breaks_of_play result
      exact absurd breaks (smooth done step rest panic parts)
  · rintro returned done step rest panic rfl breaks
    rw [play_of_breaks breaks rest] at returned
    cases returned

/-- What an operation does beside the hooks of a plan comes after them and does not panic. -/
def Follows {α : Type} (x : Action (Controller M) α) (c : Controller M) (crew : List Member)
    (plan : List (Member × Phase)) : Prop :=
  (∀ step ∈ plan, step.1 ∈ crew) ∧ ∃ tail : Unit → Action (Controller M) α,
    x c = (play (spelled plan) >>= tail) c ∧ ∀ d : Controller M, d.Holds crew → ∃ a, (tail () d).result = .ok a

variable {α : Type} {x : Action (Controller M) α} {crew : List Member} {plan done rest : List (Member × Phase)}
variable {step : Member × Phase}

/-- A panic leaves what the hooks before it have left, and everyone is registered still. -/
theorem Follows.interrupted (follows : Follows x c crew (done ++ step :: rest)) (holds : c.Holds crew)
    (breaks : c.Breaks done step panic) :
    (x c).result = .error panic ∧ c.Unmoved (x c).state ∧ deeds (x c).trace = summons (done ++ [step]) := by
  obtain ⟨known, tail, unfolded, -⟩ := follows
  have whole := play_of_breaks breaks rest
  have earlier : ∀ step ∈ done, step.1 ∈ crew := fun step member => known step (List.mem_append_left _ member)
  obtain ⟨same, -, called, -, trace, all⟩ := play_spec holds earlier
  have last := (call_spec same (known step (by simp)) step.2).2.2
  rw [all breaks.1] at trace
  rw [unfolded, Action.bind_of_error (by rw [whole]), whole]
  refine ⟨rfl, (unmoved_play c _).trans (unmoved_call _ _ _), ?_⟩
  rw [deeds_append, trace, last]
  simp [summons]

/-- An operation that panics has met a hook of its plan that does. -/
theorem Follows.breaks (follows : Follows x c crew plan) (holds : c.Holds crew)
    (error : (x c).result = .error panic) :
    ∃ done step rest, plan = done ++ step :: rest ∧ c.Breaks done step panic := by
  obtain ⟨known, tail, unfolded, returns⟩ := follows
  cases result : (play (spelled plan) c).result with
  | error other =>
    rw [unfolded, Action.bind_of_error result] at error
    obtain rfl : other = panic := by injection error
    exact breaks_of_play result
  | ok _ =>
    obtain ⟨a, ok⟩ := returns _ (play_spec holds known).1
    rw [unfolded, Action.bind_of_ok result] at error
    cases ok.symm.trans error

/-- An operation whose plan is smooth gives its answer. -/
theorem Follows.returns (follows : Follows x c crew plan) (holds : c.Holds crew) (smooth : c.Smooth plan) :
    ∃ a, (x c).result = .ok a := by
  cases result : (x c).result with
  | ok a => exact ⟨a, rfl⟩
  | error panic =>
    obtain ⟨done, step, rest, parts, breaks⟩ := follows.breaks holds result
    exact absurd breaks (smooth done step rest panic parts)

theorem dispatch_eq (holds : c.Holds crew) (phase : Phase) :
    dispatch phase c = play (spelled (crew.map (·, phase))) c := by
  simp only [dispatch, Action.get_bind, spelled, holds.order, List.map_map]
  rfl

/-- A phase has everyone on its plan, once. -/
theorem follows_dispatch (holds : c.Holds crew) (phase : Phase) :
    Follows (dispatch phase) c crew (crew.map (·, phase)) := by
  refine ⟨by simp, pure, ?_, fun _ _ => ⟨(), rfl⟩⟩
  rw [Action.bind_pure, dispatch_eq holds]

/-- The teardown of a namespace has those whom it covers on its plan, each with both hooks. -/
theorem follows_releaseNamespace (holds : c.Holds crew) (scope : Namespace) :
    Follows (releaseNamespace scope) c crew (partings (crew.filter fun x => scope.covers x.ns)) := by
  let owned := c.registry.names scope
  let tail : Unit → Action (Controller M) Unit := fun _ => do
    .modify fun d => { d with order := d.order.filter (!owned.contains ·) }
    clearNamespace scope
    if !owned.isEmpty then
      .log .info target ("Released " ++ toString owned.length ++ " manager(s) from namespace " ++ scope.display)
  refine ⟨fun step planned => List.mem_of_mem_filter (mem_of_partings planned), tail, ?_, ?_⟩
  · rw [← spelled_partings holds]
    rfl
  · intro d same
    obtain ⟨gone, -, ok, -⟩ := clearNamespace_spec
      (c := { d with order := d.order.filter (!owned.contains ·) }) same.toHolds scope
    obtain ⟨note, -, noted⟩ := Action.log_if
      (s := (clearNamespace scope { d with order := d.order.filter (!owned.contains ·) }).state) (!owned.isEmpty)
      .info target ("Released " ++ toString owned.length ++ " manager(s) from namespace " ++ scope.display)
    simp only [tail]
    rw [Action.modify_bind, Action.bind_of_ok ok, noted]
    exact ⟨(), rfl⟩

/-- The teardown of everyone plans all first hooks before all second ones. -/
theorem follows_releaseAll (holds : c.Holds crew) :
    Follows releaseAll c crew (crew.map (·, .release) ++ crew.map (·, .postRelease)) := by
  refine ⟨by grind, fun _ => clear, ?_, fun d same => ⟨(), (clear_spec same).1⟩⟩
  have parts : spelled (crew.map (·, .release) ++ crew.map (·, .postRelease)) =
      spelled (crew.map (·, .release)) ++ spelled (crew.map (·, .postRelease)) := List.map_append
  have released := dispatch_eq holds .release
  have still : (dispatch .release c).state.Holds crew := (dispatch_spec holds .release).1
  rw [parts, play_append, Action.bind_assoc]
  change (dispatch .release >>= fun _ => dispatch .postRelease >>= fun _ => clear) c = _
  refine Action.bind_congr released fun _ => Action.bind_congr ?_ fun _ => rfl
  rw [← released]
  exact dispatch_eq still .postRelease

/-- When no hook panics, everyone in a namespace leaves. -/
theorem releaseNamespace_of_smooth (holds : c.Holds crew) {scope : Namespace}
    (smooth : c.Smooth (partings (crew.filter fun x => scope.covers x.ns))) :
    let run := releaseNamespace scope c
    run.result = .ok () ∧ run.state.Holds (crew.filter fun x => !scope.covers x.ns) ∧
      ∃ gone : List ManagerId, gone.Perm ((crew.filter fun x => scope.covers x.ns).map (·.id)) ∧
        deeds run.trace = summons (partings (crew.filter fun x => scope.covers x.ns)) ++ gone.map .destroyed := by
  obtain ⟨_, returned⟩ := (follows_releaseNamespace holds scope).returns holds smooth
  obtain broken | ⟨ok, left, -, gone⟩ := releaseNamespace_spec holds scope
  · obtain ⟨panic, panicked⟩ := broken.panics
    cases returned.symm.trans panicked
  · exact ⟨ok, left, gone⟩

theorem dispatch_of_smooth (holds : c.Holds crew) {phase : Phase} (smooth : c.Smooth (crew.map (·, phase))) :
    let run := dispatch phase c
    run.result = .ok () ∧ run.state.Holds crew ∧ deeds run.trace = summons (crew.map (·, phase)) := by
  obtain ⟨_, returned⟩ := (follows_dispatch holds phase).returns holds smooth
  obtain ⟨same, -, done, -, called, whole⟩ := dispatch_spec holds phase
  rw [whole returned] at called
  exact ⟨returned, same, called⟩

theorem releaseAll_of_smooth (holds : c.Holds crew)
    (smooth : c.Smooth (crew.map (·, .release) ++ crew.map (·, .postRelease))) :
    let run := releaseAll c
    run.result = .ok () ∧ run.state.Holds [] ∧ run.state.offered = c.offered ∧
      deeds run.trace = summons (crew.map (·, .release)) ++ summons (crew.map (·, .postRelease)) ++
        (crew.reverse.map (·.id)).map .destroyed := by
  obtain ⟨_, returned⟩ := (follows_releaseAll holds).returns holds smooth
  obtain broken | whole := releaseAll_spec holds
  · obtain ⟨panic, panicked⟩ := broken.panics
    cases returned.symm.trans panicked
  · exact whole

end PluginHost.Controller
