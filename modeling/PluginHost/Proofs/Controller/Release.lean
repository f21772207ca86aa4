import PluginHost.Proofs.Controller.Phases

namespace PluginHost.Controller

variable {M : Type} {c : Controller M} {crew : List Member}

/-- A manager that is filed under a free type is the last of the crew, with the latest number. -/
theorem Holds.enrol (holds : c.Holds crew) {key : TypeKey} (free : ¬ c.contains key) (m : Instance M)
    (latest : m.id.index = c.offered) (ns : Namespace) (holder : Holder) :
    Controller.Holds ⟨holder, c.registry.file m key ns, c.order ++ [key], c.offered + 1⟩
      (crew ++ [⟨key, m.id, ns⟩]) where
  toHolds := holds.file free m ns
  order := by simp [holds.order]
  ids := by
    have unused : ∀ x ∈ crew, x.id ≠ m.id := by
      intro x member same
      have fresh := holds.fresh x member
      rw [same] at fresh
      omega
    simpa [List.nodup_append, holds.ids] using unused
  fresh := by
    intro x member
    rcases List.mem_append.mp member with old | new
    · exact (holds.fresh x old).trans (Nat.lt_succ_self _)
    · rw [List.mem_singleton] at new
      subst new
      simp [latest]

theorem contains_names (holds : c.Holds crew) {x : Member} (member : x ∈ crew) (scope : Namespace) :
    (c.registry.names scope).contains x.key = scope.covers x.ns := by
  rw [Bool.eq_iff_iff, List.contains_iff_mem]
  exact holds.mem_names member scope

/-- Each one who leaves is released and then post-released. -/
def partings (leaving : List Member) : List (Member × Phase) :=
  leaving.flatMap fun x => [(x, .release), (x, .postRelease)]

theorem mem_of_partings {leaving : List Member} {step : Member × Phase} (planned : step ∈ partings leaving) :
    step.1 ∈ leaving := by
  obtain ⟨x, member, here⟩ := List.mem_flatMap.mp planned
  have same : step.1 = x := by grind
  exact same ▸ member

theorem nodup_partings {leaving : List Member} (nodup : leaving.Nodup) : (partings leaving).Nodup := by
  refine List.nodup_flatMap.mpr ⟨fun x _ => by simp, nodup.imp fun {x y} apart => ?_⟩
  intro step first second
  grind

/-- The order of the controller, cut down to the names of a scope, spells the plan of its teardown. -/
theorem spelled_partings (holds : c.Holds crew) (scope : Namespace) :
    (c.order.filter (c.registry.names scope).contains).flatMap
      (fun key => [(key, Phase.release), (key, .postRelease)]) =
      spelled (partings (crew.filter fun x => scope.covers x.ns)) := by
  have owned : crew.filter ((c.registry.names scope).contains ∘ Member.key) =
      crew.filter fun x => scope.covers x.ns :=
    List.filter_congr fun x member => contains_names holds member scope
  rw [holds.order, List.filter_map, owned, List.flatMap_map, spelled, partings, List.map_flatMap]
  rfl

variable [Manager M]

@[simp]
theorem deeds_destruction (m : Instance M) : deeds m.destruction = [.destroyed m.id] := by
  simp [Instance.destruction]

theorem destroyAll_run (ms : List (Instance M)) : destroyAll ms c = ⟨c, ms.flatMap (·.destruction), .ok ()⟩ :=
  Action.forEach_emit ms _

theorem deeds_destructions (ms : List (Instance M)) :
    deeds (ms.flatMap (·.destruction)) = (ms.map (·.id)).map .destroyed := by
  rw [deeds_flatMap deeds_destruction, List.map_map]
  rfl

/-- A panic in the course of a release or of a phase: hooks were called and nobody left. -/
structure Broken (c : Controller M) (crew : List Member) {α : Type} (run : Run (Controller M) α) : Prop where
  panics : ∃ panic, run.result = .error panic
  holds : run.state.Holds crew
  offered : run.state.offered = c.offered
  called : ∃ done, deeds run.trace = summons done

/-- What an offer of a manager comes to. -/
inductive Offered (c : Controller M) (crew : List Member) (key : TypeKey) (manager : M) (ns : Namespace)
    (library : Option LibraryId) (run : Run (Controller M) (Option (Instance M))) : Prop where
  | refused (taken : key ∈ crew.map (·.key)) (result : run.result = .ok (some ⟨⟨c.offered⟩, manager⟩))
      (holds : run.state.Holds crew) (trace : deeds run.trace = [.offered ⟨c.offered⟩ library])
  | panicked (panics : ∃ panic, run.result = .error panic) (holds : run.state.Holds crew)
      (trace : deeds run.trace =
        [.offered ⟨c.offered⟩ library, .called ⟨c.offered⟩ .attach, .destroyed ⟨c.offered⟩])
  | accepted (result : run.result = .ok none) (holds : run.state.Holds (crew ++ [⟨key, ⟨c.offered⟩, ns⟩]))
      (trace : deeds run.trace = [.offered ⟨c.offered⟩ library, .called ⟨c.offered⟩ .attach])

/-- A manager hears of the holder once. If it panics over that it is destroyed on the way out. -/
theorem attach_spec (c : Controller M) (m : Instance M) :
    (∃ holder, (attach m c).state = { c with holder }) ∧
      ((∃ attached, (attach m c).result = .ok attached ∧ attached.id = m.id ∧
          deeds (attach m c).trace = [.called m.id .attach]) ∨
        (∃ panic, (attach m c).result = .error panic ∧
          deeds (attach m c).trace = [.called m.id .attach, .destroyed m.id])) := by
  unfold attach
  dsimp only
  split
  · exact ⟨⟨_, rfl⟩, Or.inl ⟨_, rfl, rfl, by simp⟩⟩
  · exact ⟨⟨_, rfl⟩, Or.inr ⟨_, rfl, by simp⟩⟩

/-- What an offer comes to: the type is taken, the manager panics over the holder, or it is the last of the crew. -/
theorem offered_addExt (holds : c.Holds crew) (key : TypeKey) (manager : M) (ns : Namespace)
    (library : Option LibraryId) :
    Offered c crew key manager ns library (addExt key manager ns library c) ∧
      (addExt key manager ns library c).state.offered = c.offered + 1 := by
  have numbered : (offer manager library c).result = .ok ⟨⟨c.offered⟩, manager⟩ := rfl
  have same : ({ c with offered := c.offered + 1 } : Controller M).Holds crew :=
    holds.of_registry holds.toHolds rfl (Nat.le_succ _)
  unfold addExt
  rw [Action.bind_of_ok numbered, Action.get_bind]
  have state : (offer manager library c).state = { c with offered := c.offered + 1 } := rfl
  have trace : (offer manager library c).trace = [.offered ⟨c.offered⟩ library] := rfl
  rw [state, trace]
  split
  · rename_i taken
    have taken := (holds.mem_keys key).mpr taken
    refine ⟨.refused taken ?_ ?_ ?_, ?_⟩ <;> simp [same]
  · rename_i free
    obtain ⟨⟨holder, next⟩, ⟨m, ok, id, called⟩ | ⟨panic, error, called⟩⟩ :=
      attach_spec { c with offered := c.offered + 1 } ⟨⟨c.offered⟩, manager⟩
    · have vacant : ¬ c.registry.contains key := free
      rw [Action.bind_of_ok ok, next]
      simp only [Action.get_bind, Registry.add, vacant]
      refine ⟨.accepted ?_ ?_ ?_, ?_⟩
      · simp
      · simpa [id] using holds.enrol free m (by simp [id]) ns holder
      · simp [called]
      · simp
    · rw [Action.bind_of_error error, next]
      refine ⟨.panicked ⟨panic, rfl⟩ (same.of_registry same.toHolds rfl le_rfl) ?_, rfl⟩
      simp [called]

/-- Clearing a scope destroys the members that it covers, in some order, and keeps the others. -/
theorem clearNamespace_spec (holds : c.registry.Holds crew) (scope : Namespace) :
    ∃ gone : List ManagerId, gone.Perm ((crew.filter fun x => scope.covers x.ns).map (·.id)) ∧
      (clearNamespace scope c).result = .ok () ∧
      (clearNamespace scope c).state = { c with registry := (c.registry.clearNamespace scope).2 } ∧
      deeds (clearNamespace scope c).trace = gone.map .destroyed := by
  refine ⟨_, holds.taken_perm scope, ?_⟩
  simp [clearNamespace, destroyAll_run, deeds_destructions]

/-- When the last of the hooks has returned, the namespace is cleared and its managers are destroyed. -/
theorem releaseNamespace_run (holds : c.Holds crew) {scope : Namespace} {next : Controller M} {trace : List Event}
    (played : play (spelled (partings (crew.filter fun x => scope.covers x.ns))) c = ⟨next, trace, .ok ()⟩)
    (same : next.registry.Holds crew) :
    ∃ (gone : List ManagerId) (later : List Event),
      gone.Perm ((crew.filter fun x => scope.covers x.ns).map (·.id)) ∧ deeds later = gone.map .destroyed ∧
      releaseNamespace scope c = ⟨{ next with
        registry := (next.registry.clearNamespace scope).2
        order := next.order.filter (!(c.registry.names scope).contains ·) }, trace ++ later, .ok ()⟩ := by
  have unfolded : releaseNamespace scope c = releaseNamespace scope c := rfl
  conv at unfolded => rhs; simp only [releaseNamespace, Action.get_bind]
  rw [spelled_partings holds, Action.bind_of_ok (by rw [played]), played, Action.modify_bind] at unfolded
  obtain ⟨gone, perm, ok, state, destroyed⟩ := clearNamespace_spec
    (c := { next with order := next.order.filter (!(c.registry.names scope).contains ·) }) same scope
  obtain ⟨note, idle, noted⟩ := Action.log_if
    (s := { next with
      registry := (next.registry.clearNamespace scope).2
      order := next.order.filter (!(c.registry.names scope).contains ·) })
    (!(c.registry.names scope).isEmpty) .info target
    ("Released " ++ toString (c.registry.names scope).length ++ " manager(s) from namespace " ++
      scope.display)
  rw [Action.bind_of_ok ok, state, noted] at unfolded
  exact ⟨gone, _, perm, by rw [deeds_append, destroyed, idle, List.append_nil], unfolded⟩

/-- Everyone in a namespace hears both hooks before anyone is destroyed. -/
theorem releaseNamespace_spec (holds : c.Holds crew) (scope : Namespace) :
    let run := releaseNamespace scope c
    let leaving := crew.filter fun x => scope.covers x.ns
    Broken c crew run ∨
      run.result = .ok () ∧ run.state.Holds (crew.filter fun x => !scope.covers x.ns) ∧
        run.state.offered = c.offered ∧ ∃ gone : List ManagerId, gone.Perm (leaving.map (·.id)) ∧
          deeds run.trace = summons (partings leaving) ++ gone.map .destroyed := by
  intro run leaving
  have known : ∀ step ∈ partings leaving, step.1 ∈ crew :=
    fun step planned => List.mem_of_mem_filter (mem_of_partings planned)
  obtain ⟨same, offered, done, -, called, whole⟩ := play_spec holds known
  cases played : play (spelled (partings leaving)) c with
  | mk next trace result =>
  rw [played] at same offered called whole
  cases result with
  | error panic =>
    have unfolded : run = releaseNamespace scope c := rfl
    simp only [releaseNamespace, Action.get_bind] at unfolded
    rw [spelled_partings holds, Action.bind_of_error (by rw [played]), played] at unfolded
    exact Or.inl (unfolded ▸ ⟨⟨panic, rfl⟩, same, offered, done, called⟩)
  | ok _ =>
    obtain ⟨gone, later, perm, destroyed, unfolded⟩ := releaseNamespace_run holds played same.toHolds
    have spared : next.order.filter (!(c.registry.names scope).contains ·) =
        (crew.filter fun x => !scope.covers x.ns).map (·.key) := by
      rw [same.order, List.filter_map]
      congr 1
      exact List.filter_congr fun x member => congrArg _ (contains_names holds member scope)
    simp only [run, unfolded]
    refine Or.inr ⟨trivial, ⟨same.clearNamespace scope, spared, ?_, ?_⟩, offered, gone, perm, ?_⟩
    · exact same.ids.sublist (List.filter_sublist.map _)
    · exact fun x member => same.fresh x (List.mem_of_mem_filter member)
    · rw [deeds_append, called, whole rfl, destroyed]

theorem discard_run (c : Controller M) (key : TypeKey) :
    discard key c = ⟨{ c with registry := (c.registry.remove key).2 },
      ((c.registry.remove key).1.toList).flatMap (·.destruction), .ok ()⟩ := by
  simp [discard, destroyAll_run]

/-- The crew is taken out from its end, by induction on the crew from its last member. -/
theorem discards_spec (holds : c.registry.Holds crew) :
    ∃ registry, registry.Holds [] ∧ ∃ trace, deeds trace = (crew.reverse.map (·.id)).map .destroyed ∧
      Action.forEach (crew.map (·.key)).reverse discard c = ⟨{ c with registry }, trace, .ok ()⟩ := by
  -- the latest member is discarded first
  induction crew using List.reverseRecOn generalizing c with
  | nil => exact ⟨c.registry, holds, [], rfl, rfl⟩
  | append_singleton crew x ih =>
    obtain ⟨taken, rest⟩ := holds.remove
    obtain ⟨m, found, id⟩ := Option.map_eq_some_iff.mp taken
    obtain ⟨registry, empty, trace, destroyed, run⟩ :=
      ih (c := { c with registry := (c.registry.remove x.key).2 }) rest
    refine ⟨registry, empty, m.destruction ++ trace, by simp [destroyed, id], ?_⟩
    have first : (discard x.key c).result = .ok () := by rw [discard_run]
    have unfolded : Action.forEach ((crew ++ [x]).map (·.key)).reverse discard c =
        (discard x.key >>= fun _ => Action.forEach (crew.map (·.key)).reverse discard) c := by
      simp [Action.forEach]
    rw [unfolded, Action.bind_of_ok first, discard_run, found, run]
    simp

/-- The latest registration goes first, and no hook is called. -/
theorem clear_spec (holds : c.Holds crew) :
    (clear c).result = .ok () ∧ (clear c).state.Holds [] ∧ (clear c).state.offered = c.offered ∧
      deeds (clear c).trace = (crew.reverse.map (·.id)).map .destroyed := by
  obtain ⟨registry, empty, trace, destroyed, run⟩ := discards_spec (c := { c with order := [] }) holds.toHolds
  have unfolded : clear c = ⟨{ c with registry := .empty, order := [] }, trace, .ok ()⟩ := by
    simp only [clear, Action.get_bind, Action.modify_bind, holds.order]
    rw [Action.bind_of_ok (by rw [run]), run]
    simp [Registry.clear, Registry.allObjects, empty.objects_eq_empty, destroyAll_run]
  rw [unfolded]
  exact ⟨rfl, ⟨Registry.holds_empty, rfl, List.nodup_nil, nofun⟩, rfl, destroyed⟩

/-- The teardown of everyone: all first hooks in the order of registration, all second ones, then the destruction
in reverse. A panic lets nobody go. -/
theorem releaseAll_spec (holds : c.Holds crew) :
    let run := releaseAll c
    Broken c crew run ∨
      run.result = .ok () ∧ run.state.Holds [] ∧ run.state.offered = c.offered ∧
        deeds run.trace = summons (crew.map (·, .release)) ++ summons (crew.map (·, .postRelease)) ++
          (crew.reverse.map (·.id)).map .destroyed := by
  intro run
  have unfolded : run = (dispatch .release >>= fun _ => dispatch .postRelease >>= fun _ => clear) c := rfl
  obtain ⟨released, offered, done, -, called, whole⟩ := dispatch_spec holds .release
  cases result : (dispatch .release c).result with
  | error panic =>
    rw [Action.bind_of_error result] at unfolded
    exact Or.inl (unfolded ▸ ⟨⟨panic, rfl⟩, released, offered, done, called⟩)
  | ok _ =>
    rw [Action.bind_of_ok result] at unfolded
    obtain ⟨parted, offered', done', -, called', whole'⟩ := dispatch_spec released .postRelease
    cases result' : (dispatch .postRelease (dispatch .release c).state).result with
    | error panic =>
      rw [Action.bind_of_error result'] at unfolded
      refine Or.inl (unfolded ▸ ⟨⟨panic, rfl⟩, parted, offered'.trans offered, done ++ done', ?_⟩)
      simp [called, called', summons]
    | ok _ =>
      rw [Action.bind_of_ok result'] at unfolded
      obtain ⟨ok, empty, offered'', destroyed⟩ := clear_spec parted
      rw [unfolded]
      refine Or.inr ⟨ok, empty, offered''.trans (offered'.trans offered), ?_⟩
      simp [called, called', whole result, whole' result', destroyed]

end PluginHost.Controller
