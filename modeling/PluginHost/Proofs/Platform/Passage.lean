import PluginHost.Proofs.Platform.Interruption

namespace PluginHost

/-- From one moment to another, with hooks of some phases called in between. -/
structure Passage (phases : List Phase) (crew crew' : List Member) (before after : Nat) (trace : List Event) :
    Prop where
  more : before ≤ after
  kept : ∀ x ∈ crew', x ∈ crew ∨ before ≤ x.id.index ∧ ∃ library, .offered x.id library ∈ trace
  called : ∀ m phase, .called m (.phase phase) ∈ trace → phase ∈ phases ∧ m ∈ crew.map (·.id)

variable {M : Type} {crew crew' crew'' : List Member} {before middle after : Nat} {first second : List Event}

/-- Passages that call nobody add up. -/
theorem Passage.trans (one : Passage [] crew crew' before middle first)
    (two : Passage [] crew' crew'' middle after second) :
    Passage [] crew crew'' before after (first ++ second) where
  more := one.more.trans two.more
  kept x member := by
    rcases two.kept x member with there | ⟨late, library, offered⟩
    · rcases one.kept x there with old | ⟨late, library, offered⟩
      · exact .inl old
      · exact .inr ⟨late, library, List.mem_append_left _ offered⟩
    · exact .inr ⟨one.more.trans late, library, List.mem_append_right _ offered⟩
  called m phase called := by
    rcases List.mem_append.mp called with early | late
    · cases (one.called m phase early).1
    · cases (two.called m phase late).1

/-- One who is offered comes aboard. -/
theorem passage_enrol {before : Nat} {trace : List Event} (key : TypeKey) (ns : Namespace)
    (offered : ∃ library, .offered ⟨before⟩ library ∈ trace)
    (quiet : ∀ m phase, .called m (.phase phase) ∉ trace) :
    Passage [] crew (crew ++ [⟨key, ⟨before⟩, ns⟩]) before (before + 1) trace where
  more := Nat.le_succ _
  kept x member := by
    rcases List.mem_append.mp member with old | new
    · exact .inl old
    · obtain rfl := List.mem_singleton.mp new
      exact .inr ⟨le_rfl, offered⟩
  called m phase called := absurd called (quiet m phase)

namespace Platform

open Controller

/-- The operation goes from crew to crew and calls hooks of some phases, panics or not. -/
def Passes {α : Type} (phases : List Phase) (x : Action (Platform M) α) : Prop :=
  ∀ p crew, p.controller.Holds crew → ∃ crew', (x p).state.controller.Holds crew' ∧
    Passage phases crew crew' p.controller.offered (x p).state.controller.offered (deeds (x p).trace)

variable [Manager M] {p : Platform M}

namespace Drive

/-- The phases whose hooks are called. -/
def phases : Drive → List Phase
  | dispatch phase => [phase]
  | releaseNamespace _ | releaseAll | unload _ => [.release, .postRelease]

omit [Manager M] in
/-- To unload a plugin plans the release of its namespace, or nothing. -/
theorem plan_unload (p : Platform M) (name : String) :
    (unload name).plan p = [] ∨ ∃ ns, (unload name).plan p = (releaseNamespace ns).plan p := by
  rcases found : p.catalogue.plugins[name]? with _ | record
  · exact .inl (by simp only [plan, found])
  · by_cases compiled : record.info.origin = .static
    · exact .inl (by simp only [plan, found, compiled, if_true])
    · exact .inr ⟨record.info.ns, by simp only [plan, found, compiled, if_false]⟩

omit [Manager M] in
/-- Whatever is planned is of the phases of the drive. -/
theorem mem_phases (drive : Drive) {step : Member × Phase} (planned : step ∈ drive.plan p) :
    step.2 ∈ drive.phases := by
  have parting : ∀ ns, step ∈ (releaseNamespace ns).plan p → step.2 ∈ [Phase.release, .postRelease] := by
    intro ns planned
    obtain ⟨x, -, here⟩ := List.mem_flatMap.mp planned
    grind
  cases drive with
  | dispatch phase => grind [plan, phases]
  | releaseNamespace ns => exact parting ns planned
  | releaseAll => grind [plan, phases]
  | unload name =>
    rcases plan_unload p name with nothing | ⟨ns, same⟩
    · simp [nothing] at planned
    · exact parting ns (same ▸ planned)

theorem known (holds : p.controller.Holds crew) (drive : Drive) {step : Member × Phase}
    (planned : step ∈ drive.plan p) : step.1 ∈ crew := by
  obtain ⟨x, follows, -⟩ := drive.follows holds
  exact follows.1 step planned

/-- No hook is due twice. -/
theorem nodup_plan (holds : p.controller.Holds crew) (drive : Drive) : (summons (drive.plan p)).Nodup := by
  have crewed : crew.Nodup := holds.ids.of_map
  have parted : ∀ ns, ((releaseNamespace ns).plan p).Nodup := by
    intro ns
    simp only [plan, holds.crew_eq]
    exact nodup_partings (crewed.filter _)
  have plan_nodup : (drive.plan p).Nodup := by
    cases drive with
    | dispatch phase =>
      simp only [plan, holds.crew_eq]
      exact crewed.map fun x y same => congrArg Prod.fst same
    | releaseNamespace ns => exact parted ns
    | releaseAll =>
      simp only [plan, holds.crew_eq]
      refine List.nodup_append.mpr ⟨?_, ?_, by grind⟩ <;>
        exact crewed.map fun x y same => congrArg Prod.fst same
    | unload name =>
      rcases plan_unload p name with nothing | ⟨ns, same⟩
      · simp [nothing]
      · exact same ▸ parted ns
  refine plan_nodup.map_on fun step due other due' same => ?_
  simp only [Event.called.injEq, Hook.phase.injEq] at same
  have one := List.inj_on_of_nodup_map holds.ids (drive.known holds due) (drive.known holds due') same.1
  exact Prod.ext one same.2

/-- Some of the hooks that are due are called, in order, and no others. -/
theorem outcome (holds : p.controller.Holds crew) (drive : Drive) :
    let run := drive.call.act p
    ∃ crew' done rest, run.state.controller.Holds crew' ∧ (∀ x ∈ crew', x ∈ crew) ∧
      run.state.controller.offered = p.controller.offered ∧ done <+: drive.plan p ∧
      deeds run.trace = summons done ++ rest ∧
      ∀ e ∈ rest, (∃ m, e = .destroyed m) ∨ ∃ library, e = .closed library := by
  intro run
  have same := holds.crew_eq
  rcases result : run.result with panic | _
  · obtain ⟨done, step, rest, planned, breaks⟩ := drive.breaks holds result
    obtain ⟨-, unmoved, -, trace⟩ := drive.interrupted holds planned breaks
    have part : done ++ [step] <+: drive.plan p := ⟨rest, by rw [planned, List.append_assoc]; rfl⟩
    exact ⟨crew, done ++ [step], [], unmoved.holds holds, fun x member => member, unmoved.offered, part,
      by rw [List.append_nil]; exact trace, by simp⟩
  cases drive with
  | dispatch phase =>
    obtain ⟨still, offered, done, part, trace, -⟩ := dispatch_spec holds phase
    refine ⟨crew, done, [], still, fun x member => member, offered, ?_, ?_, by simp⟩
    · simpa only [plan, same] using part
    · rw [List.append_nil]
      exact trace
  | releaseNamespace ns =>
    rcases releaseNamespace_spec holds ns with broken | ⟨-, left, offered, gone, -, trace⟩
    · obtain ⟨panic, error⟩ := broken.panics
      cases error.symm.trans result
    · refine ⟨_, (releaseNamespace ns).plan p, gone.map .destroyed, left, fun x => List.mem_of_mem_filter, offered,
        List.prefix_rfl, ?_, by simp⟩
      simp only [plan, same]
      exact trace
  | releaseAll =>
    rcases releaseAll_spec holds with broken | ⟨-, nobody, offered, trace⟩
    · obtain ⟨panic, error⟩ := broken.panics
      cases error.symm.trans result
    · refine ⟨[], releaseAll.plan p, (crew.reverse.map (·.id)).map .destroyed, nobody, by simp, offered,
        List.prefix_rfl, ?_, by simp⟩
      simp only [plan, same, summons, List.map_append]
      exact trace
  | unload name =>
    cases unloading_unload holds name with
    | ignored state trace =>
      have kept : run.state = p := state
      rw [kept]
      exact ⟨crew, [], [], holds, fun x member => member, rfl, List.nil_prefix, trace, by simp⟩
    | broken catalogue broken =>
      obtain ⟨panic, error⟩ := broken.panics
      have panics : run.result = .error panic := congrArg (Except.map fun _ => ()) error
      cases panics.symm.trans result
    | unloaded record found catalogue left offered gone perm trace dynamic =>
      refine ⟨_, (unload name).plan p, gone.map .destroyed ++ (record.library?.toList.map (·.id)).map .closed,
        left, fun x => List.mem_of_mem_filter, offered, List.prefix_rfl, ?_, by grind⟩
      simp only [plan, same, found, dynamic, if_false]
      rw [← List.append_assoc]
      exact trace

/-- A drive brings nobody aboard. -/
theorem offers_nothing (holds : p.controller.Holds crew) (drive : Drive) (m : ManagerId)
    (library : Option LibraryId) : .offered m library ∉ (drive.call.act p).trace := by
  intro offered
  obtain ⟨-, done, rest, -, -, -, -, trace, quiet⟩ := drive.outcome holds
  have deed : .offered m library ∈ summons done ++ rest := trace ▸ mem_deeds.mpr ⟨offered, rfl⟩
  rcases List.mem_append.mp deed with called | later
  · simp [summons] at called
  · rcases quiet _ later with ⟨_, other⟩ | ⟨_, other⟩ <;> cases other

theorem passes (drive : Drive) : Passes drive.phases (drive.call.act : Action (Platform M) Unit) := by
  intro p crew holds
  obtain ⟨crew', done, rest, left, stays, offered, part, trace, quiet⟩ := drive.outcome holds
  refine ⟨crew', left, offered.ge, fun x member => .inl (stays x member), fun m phase called => ?_⟩
  rw [trace, List.mem_append] at called
  rcases called with called | later
  · obtain ⟨step, planned, same⟩ := List.mem_map.mp called
    cases same
    have due := part.subset planned
    exact ⟨drive.mem_phases due, List.mem_map_of_mem (drive.known holds due)⟩
  · rcases quiet _ later with ⟨_, other⟩ | ⟨_, other⟩ <;> cases other

/-- Each hook is called once at the most. -/
theorem count_called_le (holds : p.controller.Holds crew) (drive : Drive) (m : ManagerId) (phase : Phase) :
    (drive.call.act p).trace.count (.called m (.phase phase)) ≤ 1 := by
  obtain ⟨-, done, rest, -, -, -, part, trace, quiet⟩ := drive.outcome holds
  have silent : rest.count (.called m (.phase phase)) = 0 := by
    refine List.count_eq_zero.mpr fun later => ?_
    rcases quiet _ later with ⟨_, other⟩ | ⟨_, other⟩ <;> cases other
  have once : (summons done).Nodup := (drive.nodup_plan holds).sublist (part.sublist.map _)
  rw [← count_deeds rfl, trace, List.count_append, silent]
  exact List.nodup_iff_count_le_one.mp once _

end Drive

theorem passes_addExt (key : TypeKey) (manager : M) (ns : Namespace) :
    Passes [] (onController (addExt key manager ns none)) := by
  intro p crew holds
  obtain ⟨offer, offered⟩ := offered_addExt holds key manager ns none
  rw [onController_run, offered]
  cases offer with
  | refused taken result same trace =>
    exact ⟨crew, same, Nat.le_succ _, fun x member => .inl member, by simp [trace]⟩
  | panicked panics same trace =>
    exact ⟨crew, same, Nat.le_succ _, fun x member => .inl member, by simp [trace]⟩
  | accepted result joined trace =>
    exact ⟨_, joined, passage_enrol key ns (by simp [trace]) (by simp [trace])⟩

theorem passes_addStatic (manager : M) : Passes [] (addStatic manager) := by
  intro p crew holds
  cases adding_addStatic holds manager with
  | ignored state trace =>
    rw [state, trace]
    exact ⟨crew, holds, le_rfl, fun x member => .inl member, by simp⟩
  | refused catalogue same offered trace =>
    rw [offered]
    exact ⟨crew, same, Nat.le_succ _, fun x member => .inl member, by simp [trace]⟩
  | panicked panics catalogue same offered trace =>
    rw [offered]
    exact ⟨crew, same, Nat.le_succ _, fun x member => .inl member, by simp [trace]⟩
  | accepted record compiled catalogue key joined offered trace =>
    rw [offered]
    exact ⟨_, joined, passage_enrol key record.info.ns (by simp [trace]) (by simp [trace])⟩

/-- To load a file calls no phase, and brings its manager aboard at most. -/
theorem passes_load (site : Site M) (path : Path) : Passes [] (load site path) := by
  intro p crew holds
  cases loading_load holds site path with
  | ignored state trace =>
    rw [state, trace]
    exact ⟨crew, holds, le_rfl, fun x member => .inl member, by simp⟩
  | failed catalogue same offered trace =>
    rw [offered]
    exact ⟨crew, same, le_rfl, fun x member => .inl member, by simp [trace]⟩
  | entered q catalogue same offered library id e state result trace =>
    obtain ⟨registering, added⟩ := registering_register same library e
    rw [state, added, offered]
    cases registering with
    | refused catalogue same called =>
      exact ⟨crew, same, Nat.le_succ _, fun x member => .inl member, by simp [trace, called]⟩
    | panicked panics catalogue same called =>
      exact ⟨crew, same, Nat.le_succ _, fun x member => .inl member, by simp [trace, called]⟩
    | accepted record owner key plugins opened joined called =>
      rw [offered] at joined called
      exact ⟨_, joined, passage_enrol key record.info.ns (by simp [trace, called]) (by simp [trace, called])⟩

theorem passes_discover (site : Site M) : Passes [] (discover site) := by
  intro p crew holds
  -- one load after another, and no hook of a phase in any
  have passed : (discover site).Keeps fun past q => ∃ crew', q.controller.Holds crew' ∧
      Passage [] crew crew' p.controller.offered q.controller.offered past := by
    refine leads_discover fun path => Action.keeps_iff.mpr ?_
    rintro past q ⟨crew', aboard, first⟩
    obtain ⟨crew'', aboard', second⟩ := passes_load site path q crew' aboard
    exact ⟨crew'', aboard', first.trans second⟩
  simpa using Action.keeps_iff.mp passed [] p
    ⟨crew, holds, le_rfl, fun x member => .inl member, fun m phase called => by cases called⟩

theorem passes_dropController : Passes [] (onController Controller.drop : Action (Platform M) Unit) := by
  intro p crew holds
  obtain ⟨-, nobody, offered, trace⟩ := clear_spec holds
  refine ⟨[], nobody, offered.ge, by simp, fun m phase called => ?_⟩
  rw [onController_run, drop, trace] at called
  simp at called

omit [Manager M] in
theorem passes_dropCatalogue : Passes [] (dropCatalogue : Action (Platform M) Unit) := fun p crew holds =>
  ⟨crew, holds, le_rfl, fun x member => .inl member, fun m phase called => by cases called⟩

namespace Call

/-- The phases whose hooks are called. -/
def phases : Call M → List Phase
  | dispatch phase => [phase]
  | releaseNamespace _ | releaseAll | unload _ => [.release, .postRelease]
  | addStatic _ | load .. | discover _ | dropCatalogue | addExt .. | dropController => []

theorem passes (call : Call M) : Passes call.phases call.act := by
  cases call with
  | addStatic manager => exact passes_addStatic manager
  | load site path => exact passes_load site path
  | discover site => exact passes_discover site
  | unload name => exact (Drive.unload name).passes
  | dropCatalogue => exact passes_dropCatalogue
  | addExt key manager ns => exact passes_addExt key manager ns
  | dispatch phase => exact (Drive.dispatch phase).passes
  | releaseNamespace ns => exact (Drive.releaseNamespace ns).passes
  | releaseAll => exact Drive.releaseAll.passes
  | dropController => exact passes_dropController

end Call

end Platform

end PluginHost
