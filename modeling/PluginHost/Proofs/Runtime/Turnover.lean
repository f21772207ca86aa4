import PluginHost.Proofs.Runtime.Progress

namespace PluginHost

/-- The event belongs to the teardown of the manager. -/
def Event.parts (m : ManagerId) : Event → Bool
  | .called other (.phase .release) | .called other (.phase .postRelease) | .destroyed other => other = m
  | _ => false

/-- The teardown of a manager in a trace. -/
def farewell (m : ManagerId) (trace : List Event) : List Event := trace.filter (·.parts m)

@[simp]
theorem farewell_append (m : ManagerId) (first second : List Event) :
    farewell m (first ++ second) = farewell m first ++ farewell m second :=
  List.filter_append ..

/-- What a manager hears on leaving is read off its own story. -/
theorem farewell_story (m : ManagerId) (trace : List Event) : farewell m (story m trace) = farewell m trace := by
  unfold farewell story
  rw [List.filter_filter]
  apply List.filter_congr
  intro e _
  unfold Event.parts Event.befalls
  split <;> simp_all

theorem farewell_deeds (m : ManagerId) (trace : List Event) : farewell m (deeds trace) = farewell m trace := by
  rw [← farewell_story, story_deeds, farewell_story]

theorem farewell_parting (m : ManagerId) : farewell m (parting m) = parting m := by
  simp [farewell, parting, hears, Event.parts]

/-- Between two moments nobody comes aboard but the newly numbered, and whoever goes takes leave. -/
structure Turnover (leave : ManagerId → List Event) (crew crew' : List Member) (before after : Nat)
    (trace : List Event) : Prop where
  more : before ≤ after
  kept : ∀ m : ManagerId, m.index < before → m ∈ crew'.map (·.id) → m ∈ crew.map (·.id)
  old : ∀ m : ManagerId, m.index < before →
    farewell m trace = if m ∈ crew.map (·.id) ∧ m ∉ crew'.map (·.id) then leave m else []
  new : ∀ m : ManagerId, before ≤ m.index → m ∈ crew'.map (·.id) ∨ after ≤ m.index → farewell m trace = []

variable {M : Type} {leave : ManagerId → List Event} {crew crew' crew₁ crew₂ crew₃ : List Member}
variable {before middle after : Nat} {first second trace : List Event}

theorem Turnover.idle (more : before ≤ after) (quiet : ∀ m, farewell m trace = []) :
    Turnover leave crew crew before after trace where
  more := more
  kept _ _ aboard := aboard
  old m _ := by rw [quiet, if_neg fun ⟨stays, goes⟩ => goes stays]
  new m _ _ := quiet m

/-- Two turnovers in a row make one: whoever leaves, leaves in one of them. -/
theorem Turnover.trans (one : Turnover leave crew₁ crew₂ before middle first)
    (two : Turnover leave crew₂ crew₃ middle after second) :
    Turnover leave crew₁ crew₃ before after (first ++ second) where
  more := one.more.trans two.more
  kept m known aboard := one.kept m known (two.kept m (known.trans_le one.more) aboard)
  old m known := by
    have later := two.kept m (known.trans_le one.more)
    rw [farewell_append, one.old m known, two.old m (known.trans_le one.more)]
    by_cases there : m ∈ crew₂.map (·.id)
    · simp [there, one.kept m known there]
    · have missing : m ∉ crew₃.map (·.id) := fun aboard => there (later aboard)
      simp [there, missing]
  new m fresh stays := by
    rw [farewell_append]
    by_cases known : m.index < middle
    · have aboard : m ∈ crew₃.map (·.id) := stays.resolve_right fun late => by
        have := two.more
        omega
      have there := two.kept m known aboard
      rw [one.new m fresh (.inl there), two.old m known, if_neg fun ⟨_, goes⟩ => goes aboard]
      rfl
    · have late := Nat.le_of_not_lt known
      rw [one.new m fresh (.inr late), two.new m late stays]
      rfl

/-- One manager comes aboard. -/
theorem Turnover.enrol (quiet : ∀ m, farewell m trace = []) (key : TypeKey) (ns : Namespace) :
    Turnover leave crew (crew ++ [⟨key, ⟨before⟩, ns⟩]) before (before + 1) trace where
  more := Nat.le_succ _
  kept m known aboard := by
    rw [List.map_append, List.mem_append] at aboard
    refine aboard.resolve_right fun latest => ?_
    obtain rfl := List.mem_singleton.mp latest
    exact Nat.lt_irrefl _ known
  old m _ := by
    rw [quiet, if_neg]
    exact fun ⟨stays, goes⟩ => goes (by rw [List.map_append]; exact List.mem_append_left _ stays)
  new m _ _ := quiet m

/-- A manager that is turned away is destroyed, and it was never aboard. -/
theorem Turnover.refuse (holds : ∀ x ∈ crew, x.id.index < before)
    (others : ∀ m : ManagerId, m.index ≠ before → farewell m trace = []) :
    Turnover leave crew crew before (before + 1) trace where
  more := Nat.le_succ _
  kept _ _ aboard := aboard
  old m known := by rw [others m known.ne, if_neg fun ⟨stays, goes⟩ => goes stays]
  new m fresh stays := by
    refine others m fun same => ?_
    rcases stays with aboard | late
    · obtain ⟨x, member, rfl⟩ := List.mem_map.mp aboard
      exact absurd (holds x member) (by omega)
    · omega

/-- Some of the crew go, and each is told of a part of its own. -/
theorem Turnover.depart (fresh : ∀ x ∈ crew, x.id.index < before) (within : crew'.Sublist crew)
    {leaving : List ManagerId} (goes : ∀ m, m ∈ leaving ↔ m ∈ crew.map (·.id) ∧ m ∉ crew'.map (·.id))
    {part : ManagerId → List Event} (told : ∀ m, story m trace = if m ∈ leaving then part m else [])
    (leaves : ∀ m, farewell m (part m) = leave m) : Turnover leave crew crew' before before trace := by
  have gone : ∀ m, farewell m trace = if m ∈ crew.map (·.id) ∧ m ∉ crew'.map (·.id) then leave m else [] := by
    intro m
    rw [← farewell_story, told]
    by_cases left : m ∈ leaving
    · rw [if_pos left, if_pos ((goes m).mp left), leaves]
    · rw [if_neg left, if_neg fun both => left ((goes m).mpr both)]
      rfl
  refine ⟨Nat.le_refl _, fun m _ aboard => (within.map _).subset aboard, fun m _ => gone m, fun m late _ => ?_⟩
  rw [gone, if_neg]
  rintro ⟨aboard, -⟩
  obtain ⟨x, member, rfl⟩ := List.mem_map.mp aboard
  exact absurd (fresh x member) (by omega)

theorem mem_ids_filter_iff (ids : (crew.map (·.id)).Nodup) (covers : Member → Bool) (m : ManagerId) :
    m ∈ (crew.filter covers).map (·.id) ↔
      m ∈ crew.map (·.id) ∧ m ∉ (crew.filter fun x => !covers x).map (·.id) := by
  constructor
  · intro leaves
    obtain ⟨x, member, rfl⟩ := List.mem_map.mp leaves
    obtain ⟨aboard, covered⟩ := List.mem_filter.mp member
    refine ⟨List.mem_map_of_mem aboard, fun stays => ?_⟩
    obtain ⟨y, member, same⟩ := List.mem_map.mp stays
    obtain ⟨aboard', spared⟩ := List.mem_filter.mp member
    obtain rfl := List.inj_on_of_nodup_map ids aboard' aboard same
    simp [covered] at spared
  · rintro ⟨aboard, goes⟩
    obtain ⟨x, member, rfl⟩ := List.mem_map.mp aboard
    refine List.mem_map_of_mem (List.mem_filter.mpr ⟨member, ?_⟩)
    by_contra spared
    exact goes (List.mem_map_of_mem (List.mem_filter.mpr ⟨member, by simpa using spared⟩))

/-- The platform has a crew that the turnover since some moment has left. -/
def Turned (leave : ManagerId → List Event) (crew : List Member) (before : Nat) (past : List Event)
    (p : Platform M) : Prop :=
  ∃ crew', p.controller.Holds crew' ∧ Turnover leave crew crew' before p.controller.offered past

open Controller Platform

theorem leads_turned {α : Type} {x : Action (Platform M) α}
    (turns : ∀ p crew a, p.controller.Holds crew → (x p).result = .ok a → ∃ crew',
      (x p).state.controller.Holds crew' ∧
        Turnover leave crew crew' p.controller.offered (x p).state.controller.offered (deeds (x p).trace)) :
    x.Leads (Turned leave crew before) (Turned leave crew before) fun _ _ => True := by
  apply Action.leads_of_ok
  rintro past p ⟨crew', holds, turnover⟩ a ok
  obtain ⟨crew'', holds', turnover'⟩ := turns p crew' a holds ok
  exact ⟨crew'', holds', turnover.trans turnover'⟩

variable [Manager M]

theorem turns_dispatch {phase : Phase} (quiet : ∀ m, farewell m (hears [phase] m) = []) :
    (onController (dispatch phase) : Action (Platform M) Unit).Leads (Turned leave crew before)
      (Turned leave crew before) fun _ _ => True := by
  refine leads_turned fun p crew _ holds ok => ?_
  obtain ⟨same, offered, done, -, trace, whole⟩ := dispatch_spec holds phase
  refine ⟨crew, same, .idle offered.ge fun m => ?_⟩
  rw [onController_run, trace, whole ok, ← farewell_story, story_dispatch holds.ids]
  split
  · exact quiet m
  · rfl

/-- A manager that boards takes nobody's place; one that is refused was never a member. -/
theorem turns_addStatic (manager : M) :
    (addStatic manager).Leads (Turned leave crew before) (Turned leave crew before) fun _ _ => True := by
  refine leads_turned fun p crew _ holds ok => ?_
  cases adding_addStatic holds manager with
  | ignored state trace =>
    rw [state, trace]
    exact ⟨crew, holds, .idle le_rfl fun m => rfl⟩
  | refused catalogue same offered trace =>
    rw [trace, offered]
    refine ⟨crew, same, .refuse holds.fresh fun m other => ?_⟩
    have apart : (⟨p.controller.offered⟩ : ManagerId) ≠ m := fun here => other (by rw [← here])
    simp [farewell, Event.parts, apart]
  | panicked panics =>
    obtain ⟨panic, error⟩ := panics
    cases error.symm.trans ok
  | accepted record compiled catalogue key aboard offered trace =>
    rw [trace, offered]
    exact ⟨_, aboard, .enrol (fun m => by simp [farewell, Event.parts]) key _⟩

theorem turns_load (site : Site M) (path : Path) :
    (load site path).Leads (Turned leave crew before) (Turned leave crew before) fun _ _ => True := by
  refine leads_turned fun p crew _ holds ok => ?_
  cases loading_load holds site path with
  | ignored state trace =>
    rw [state, trace]
    exact ⟨crew, holds, .idle le_rfl fun m => rfl⟩
  | failed catalogue same offered trace =>
    rw [trace, offered]
    exact ⟨crew, same, .idle le_rfl fun m => by simp [farewell, Event.parts]⟩
  | entered q catalogue same offered library id e state result trace =>
    obtain ⟨registering, added⟩ := registering_register same library e
    rw [state, trace, added, offered]
    cases registering with
    | refused catalogue same trace =>
      rw [trace, offered]
      refine ⟨crew, same, .refuse holds.fresh fun m other => ?_⟩
      have apart : (⟨p.controller.offered⟩ : ManagerId) ≠ m := fun here => other (by rw [← here])
      simp [farewell, Event.parts, apart]
    | panicked panics =>
      obtain ⟨panic, error⟩ := panics
      cases (result.trans error).symm.trans ok
    | accepted record owner key plugins opened aboard trace =>
      rw [trace]
      rw [offered] at aboard
      exact ⟨_, aboard, .enrol (fun m => by simp [farewell, Event.parts]) key _⟩

/-- Unloading parts with the members its namespace covers. -/
theorem turns_unload (name : String) :
    (unload name : Action (Platform M) _).Leads (Turned parting crew before) (Turned parting crew before)
      fun _ _ => True := by
  refine leads_turned fun p crew _ holds ok => ?_
  cases unloading_unload holds name with
  | ignored state trace =>
    rw [state, trace]
    exact ⟨crew, holds, .idle le_rfl fun m => rfl⟩
  | broken catalogue broken =>
    obtain ⟨panic, error⟩ := broken.panics
    cases error.symm.trans ok
  | unloaded record found catalogue left offered gone perm trace =>
    rw [trace, offered]
    exact ⟨_, left, .depart holds.fresh List.filter_sublist (mem_ids_filter_iff holds.ids _)
      (story_unloaded holds.ids _ perm _) farewell_parting⟩

/-- A teardown parts with the whole crew. -/
theorem turns_releaseAll :
    (onController releaseAll : Action (Platform M) Unit).Leads (Turned parting crew before)
      (fun past p => p.controller.Holds [] ∧ Turnover parting crew [] before p.controller.offered past)
      fun _ _ => True := by
  apply Action.leads_of_ok
  rintro past p ⟨crew', holds, turnover⟩ _ ok
  obtain broken | ⟨-, nobody, offered, trace⟩ := releaseAll_spec holds
  · obtain ⟨panic, error⟩ := broken.panics
    rw [onController_run, error] at ok
    cases ok
  · rw [onController_run, trace]
    refine ⟨nobody, turnover.trans ?_⟩
    rw [offered]
    exact .depart holds.fresh (List.nil_sublist _) (by simp) (story_disbanded holds.ids) farewell_parting

/-- The end of a controller releases nobody. -/
theorem turnover_clear {c : Controller M} (holds : c.Holds crew) :
    (clear c).state.Holds [] ∧ Turnover (fun m => [.destroyed m]) crew [] c.offered
      (clear c).state.offered (deeds (clear c).trace) := by
  obtain ⟨-, nobody, offered, trace⟩ := clear_spec holds
  have nodup : (crew.reverse.map (·.id)).Nodup := by
    rw [List.map_reverse, List.nodup_reverse]
    exact holds.ids
  rw [trace, offered]
  exact ⟨nobody, .depart holds.fresh (List.nil_sublist _) (by simp) (story_destroyed nodup)
    fun m => by simp [farewell, Event.parts]⟩

end PluginHost
