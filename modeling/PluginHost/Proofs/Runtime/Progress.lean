import PluginHost.Proofs.Runtime.Chronicle

namespace PluginHost

variable {M : Type} [Manager M] {aboard : ManagerId → List Event} {ended : ManagerId → List Event → Prop}
variable {past : List Event} {crew : List Member} {p : Platform M}

/-- Managers come aboard, and nothing else has happened to them yet. -/
def Boarding (ended : ManagerId → List Event → Prop) (past : List Event) (p : Platform M) : Prop :=
  ∃ crew, Chronicle (fun m => [.called m .attach]) ended past crew p.controller

open Controller Platform

/-- A phase leaves the crew as it is. -/
theorem leads_dispatch_crew (phase : Phase) :
    (onController (dispatch phase) : Action (Platform M) Unit).Leads
      (fun past p => Chronicle aboard ended past crew p.controller)
      (fun past p => Chronicle (fun m => aboard m ++ hears [phase] m) ended past crew p.controller)
      fun _ _ => True := by
  apply Action.leads_of_ok
  intro past p chronicle _ ok
  obtain ⟨holds, offered, done, -, trace, whole⟩ := dispatch_spec chronicle.holds phase
  rw [onController_run, trace, whole ok]
  exact chronicle.hear holds offered (story_dispatch chronicle.holds.ids phase)

/-- A phase heard by the whole crew ends every life aboard. -/
theorem leads_dispatch (phase : Phase) :
    (onController (dispatch phase) : Action (Platform M) Unit).Leads
      (fun past p => ∃ crew, Chronicle aboard ended past crew p.controller)
      (fun past p => ∃ crew, Chronicle (fun m => aboard m ++ hears [phase] m) ended past crew p.controller)
      fun _ _ => True := by
  apply Action.leads_of_ok
  rintro past p ⟨crew, chronicle⟩ _ ok
  exact ⟨crew, (leads_dispatch_crew phase).of_ok chronicle ok⟩

/-- A static manager boards, or is destroyed when its key is taken. -/
theorem leads_addStatic (manager : M) :
    (addStatic manager).Leads (Boarding ended) (Boarding ended) fun _ _ => True := by
  apply Action.leads_of_ok
  rintro past p ⟨crew, chronicle⟩ _ ok
  cases adding_addStatic chronicle.holds manager with
  | ignored state trace =>
    rw [state, trace, List.append_nil]
    exact ⟨crew, chronicle⟩
  | refused catalogue holds offered trace =>
    rw [trace]
    exact ⟨crew, chronicle.refuse holds offered
      fun m => by simp [story, Event.befalls, List.filter_cons, eq_comm]⟩
  | panicked panics =>
    obtain ⟨panic, error⟩ := panics
    rw [error] at ok
    cases ok
  | accepted record compiled catalogue key holds offered trace =>
    rw [trace]
    refine ⟨_, chronicle.enrol holds offered ?_ fun m other => ?_⟩
    · simp [story, Event.befalls]
    · simp [story, Event.befalls, Ne.symm other]

/-- A load lets one manager board or nobody; whoever is refused is destroyed. -/
theorem leads_load (site : Site M) (path : Path) :
    (load site path).Leads (Boarding ended) (Boarding ended) fun _ _ => True := by
  apply Action.leads_of_ok
  rintro past p ⟨crew, chronicle⟩ _ ok
  cases loading_load chronicle.holds site path with
  | ignored state trace =>
    rw [state, trace, List.append_nil]
    exact ⟨crew, chronicle⟩
  | failed catalogue holds offered trace =>
    rw [trace]
    exact ⟨crew, chronicle.pass holds offered fun m => by simp [story, Event.befalls]⟩
  | entered entry catalogue holds offered library id e state result trace =>
    have opened : Chronicle _ ended (past ++ [.opened library.id]) crew entry.controller :=
      chronicle.pass holds offered fun m => by simp [story, Event.befalls]
    rw [state, trace, List.append_cons]
    rw [result] at ok
    obtain ⟨registering, offered⟩ := registering_register holds library e
    cases registering with
    | refused catalogue holds trace =>
      rw [trace]
      exact ⟨crew, opened.refuse holds offered
        fun m => by simp [story, Event.befalls, List.filter_cons, eq_comm]⟩
    | panicked panics =>
      obtain ⟨panic, error⟩ := panics
      rw [error] at ok
      cases ok
    | accepted record owner key plugins opened' holds trace =>
      rw [trace]
      refine ⟨_, opened.enrol holds offered ?_ fun m other => ?_⟩
      · simp [story, Event.befalls]
      · simp [story, Event.befalls, Ne.symm other]

theorem story_unloaded (ids : (crew.map (·.id)).Nodup) (covers : Member → Bool) {gone : List ManagerId}
    (perm : gone.Perm ((crew.filter covers).map (·.id))) (libraries : List LibraryId) (m : ManagerId) :
    story m (summons (partings (crew.filter covers)) ++ gone.map .destroyed ++ libraries.map .closed) =
      if m ∈ (crew.filter covers).map (·.id) then parting m else [] := by
  have leaving : ((crew.filter covers).map (·.id)).Nodup := ids.sublist (List.filter_sublist.map _)
  have unheard : story m (libraries.map .closed) = [] := story_of_other (by simp [Event.befalls])
  rw [story_append, story_append, unheard, story_destroyed (perm.nodup_iff.mpr leaving),
    story_partings leaving, List.append_nil]
  simp only [perm.mem_iff]
  split <;> rfl

theorem story_disbanded (ids : (crew.map (·.id)).Nodup) (m : ManagerId) :
    story m (summons (crew.map (·, .release)) ++ summons (crew.map (·, .postRelease)) ++
        (crew.reverse.map (·.id)).map .destroyed) =
      if m ∈ crew.map (·.id) then parting m else [] := by
  have nodup : (crew.reverse.map (·.id)).Nodup := by
    rw [List.map_reverse, List.nodup_reverse]
    exact ids
  rw [story_append, story_append, story_dispatch ids, story_dispatch ids, story_destroyed nodup]
  simp only [List.map_reverse, List.mem_reverse]
  split <;> rfl

/-- Whoever of the crew has come to its end was released before. -/
abbrev Parted (aboard : ManagerId → List Event) (ended : ManagerId → List Event → Prop) (crew : List Member)
    (m : ManagerId) (s : List Event) : Prop :=
  ended m s ∨ m ∈ crew.map (·.id) ∧ s = aboard m ++ parting m

/-- Unloading parts with those its namespace covers and with nobody else. -/
theorem leads_unload (name : String) :
    (unload name : Action (Platform M) _).Leads (fun past p => Chronicle aboard ended past crew p.controller)
      (fun past p => ∃ rest, Chronicle aboard (Parted aboard ended crew) past rest p.controller)
      fun _ _ => True := by
  apply Action.leads_of_ok
  intro past p chronicle _ ok
  cases unloading_unload chronicle.holds name with
  | ignored state trace =>
    rw [state, trace, List.append_nil]
    exact ⟨crew, chronicle.conclude fun m => Or.inl⟩
  | broken catalogue broken =>
    obtain ⟨panic, error⟩ := broken.panics
    rw [show (unload name p).result = _ from error] at ok
    cases ok
  | unloaded record found catalogue holds offered gone perm trace =>
    rw [trace]
    refine ⟨_, chronicle.depart (crew.filter fun x => record.info.ns.covers x.ns) holds offered ?_ ?_ ?_⟩
    · intro x
      by_cases covered : record.info.ns.covers x.ns <;> simp [covered]
    · intro x stays leaves
      obtain ⟨stays, spared⟩ := List.mem_filter.mp stays
      obtain ⟨y, leaves, same⟩ := List.mem_map.mp leaves
      obtain ⟨leaves, covered⟩ := List.mem_filter.mp leaves
      obtain rfl := List.inj_on_of_nodup_map chronicle.holds.ids leaves stays same
      simp [covered] at spared
    · exact story_unloaded chronicle.holds.ids _ perm _

/-- A teardown parts with everybody, and nobody stays aboard. -/
theorem leads_releaseAll :
    (onController releaseAll : Action (Platform M) Unit).Leads
      (fun past p => Chronicle aboard ended past crew p.controller)
      (fun past p => Chronicle aboard (Parted aboard ended crew) past [] p.controller) fun _ _ => True := by
  apply Action.leads_of_ok
  intro past p chronicle _ ok
  rcases releaseAll_spec chronicle.holds with broken | ⟨-, holds, offered, trace⟩
  · obtain ⟨panic, error⟩ := broken.panics
    rw [onController_run, error] at ok
    cases ok
  · rw [onController_run, trace]
    exact chronicle.depart crew holds offered (by simp) nofun (story_disbanded chronicle.holds.ids)

end PluginHost
