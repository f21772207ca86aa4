import PluginHost.Proofs.Runtime.Call

namespace PluginHost.Runtime

open PluginHost.Action

variable {M : Type} {A B C D F : List Event → Platform M → Prop} {r : Runtime M}

/-- What holds of the plugins and managers, and the state and the frame beside it. -/
def Stage (A : List Event → Platform M → Prop) (state : RuntimeState) (frame : UInt64) (past : List Event)
    (r : Runtime M) : Prop :=
  A past r.platform ∧ r.state = state ∧ r.frame = frame

/-- An action on the platform moves neither the state nor the frame counter. -/
theorem stage_onPlatform {α : Type} {x : Action (Platform M) α} (leads : x.Leads A B F)
    (state : RuntimeState) (frame : UInt64) :
    (onPlatform x).Leads (Stage A state frame) (Stage B state frame) fun past r => F past r.platform := by
  rintro past r ⟨start, same⟩
  have next := leads past r.platform start
  have through : (onPlatform x r).result = (x r.platform).result := rfl
  rw [through]
  cases result : (x r.platform).result with
  | ok _ =>
    rw [result] at next
    exact ⟨next, same⟩
  | error _ =>
    rw [result] at next
    exact next

theorem stage_setState (state next : RuntimeState) (frame : UInt64) :
    (setState next : Action (Runtime M) Unit).Leads (Stage A state frame) (Stage A next frame)
      fun past r => F past r.platform :=
  leads_modify fun _ _ stage => ⟨stage.1, rfl, stage.2.2⟩

variable [Manager M] {frame : UInt64}

theorem stage_start (first : (Platform.onController (Controller.dispatch .init)).Leads A B F)
    (second : (Platform.onController (Controller.dispatch .postInit)).Leads B C F) :
    (start : Action (Runtime M) Unit).Leads (Stage A .loaded frame) (Stage C .running frame)
      fun past r => F past r.platform := by
  refine (stage_onPlatform first _ _).bind fun _ => (stage_onPlatform second _ _).bind fun _ => ?_
  exact (stage_setState _ .running _).bind fun _ => leads_get_bind fun _ _ _ => leads_log

theorem stage_preInit {site : Site M} (discovers : (Platform.discover site).Leads A B F) :
    (preInit site).Leads (Stage A .created frame) (Stage B .loaded frame) fun past r => F past r.platform := by
  refine leads_get_bind fun _ r stage => ?_
  rw [if_neg (not_not_intro stage.2.1)]
  refine (stage_onPlatform discovers _ _).bind fun count => ?_
  exact (stage_setState _ .loaded _).bind fun _ => leads_pure count

/-- An opening without discovery before it makes the discovery itself. -/
theorem stage_init_created {site : Site M} (discovers : (Platform.discover site).Leads A B F)
    (first : (Platform.onController (Controller.dispatch .init)).Leads B C F)
    (second : (Platform.onController (Controller.dispatch .postInit)).Leads C D F) :
    (init site).Leads (Stage A .created frame) (Stage D .running frame) fun past r => F past r.platform := by
  refine leads_get_bind fun _ r stage => ?_
  rw [stage.2.1]
  exact (stage_preInit discovers).bind fun _ => stage_start first second

theorem stage_init_loaded {site : Site M}
    (first : (Platform.onController (Controller.dispatch .init)).Leads A B F)
    (second : (Platform.onController (Controller.dispatch .postInit)).Leads B C F) :
    (init site).Leads (Stage A .loaded frame) (Stage C .running frame) fun past r => F past r.platform := by
  refine leads_get_bind fun _ r stage => ?_
  rw [stage.2.1]
  exact stage_start first second

theorem stage_update (first : (Platform.onController (Controller.dispatch .preUpdate)).Leads A B F)
    (second : (Platform.onController (Controller.dispatch .update)).Leads B C F)
    (third : (Platform.onController (Controller.dispatch .postUpdate)).Leads C D F) :
    (update : Action (Runtime M) Unit).Leads (Stage A .running frame) (Stage D .running (frame + 1))
      fun past r => F past r.platform := by
  refine leads_get_bind fun _ r stage => ?_
  rw [if_pos stage.2.1]
  refine (stage_onPlatform first _ _).bind fun _ => (stage_onPlatform second _ _).bind fun _ => ?_
  refine (stage_onPlatform third _ _).bind fun _ => leads_modify fun _ r stage => ?_
  exact ⟨stage.1, stage.2.1, congrArg (· + 1) stage.2.2⟩

theorem stage_unload {name : String} (unloads : (Platform.unload name).Leads A B F) {state : RuntimeState}
    (up : state ≠ .stopped) :
    (unload name).Leads (Stage A state frame) (Stage B state frame) fun past r => F past r.platform := by
  refine leads_get_bind fun _ r stage => ?_
  rw [if_neg (stage.2.1 ▸ up)]
  exact stage_onPlatform unloads _ _

theorem stage_shutdown (releases : (Platform.onController Controller.releaseAll).Leads A B F)
    {state : RuntimeState} (up : state ≠ .stopped) :
    (shutdown : Action (Runtime M) Unit).Leads (Stage A state frame) (Stage B .stopped frame)
      fun past r => F past r.platform := by
  refine leads_get_bind fun _ r stage => ?_
  rw [if_pos (stage.2.1 ▸ up)]
  refine leads_log.bind fun _ => ?_
  exact (stage_onPlatform releases _ _).bind fun _ => stage_setState _ .stopped _

/-- A call that does not fit the state is ignored, beside a record in the log. -/
theorem ignored {call : Call M} (unheeded : call.heeded r = false) (goes : call ≠ .drop) :
    (call.act r).state = r ∧ deeds (call.act r).trace = [] := by
  cases call with
  | addStatic manager => cases unheeded
  | preInit site =>
    have other : r.state ≠ .created := by simpa [Call.heeded] using unheeded
    simp [Call.act, Action.void, preInit, other]
  | init site =>
    cases state : r.state with
    | created | loaded => simp [Call.heeded, state] at unheeded
    | running | stopped => simp [Call.act, Runtime.init, state]
  | update =>
    have other : r.state ≠ .running := by simpa [Call.heeded] using unheeded
    simp [Call.act, update, other]
  | unload name =>
    have stopped : r.state = .stopped := by simpa [Call.heeded] using unheeded
    simp [Call.act, Action.void, unload, stopped]
  | shutdown =>
    have stopped : r.state = .stopped := by simpa [Call.heeded] using unheeded
    simp [Call.act, shutdown, stopped]
  | drop => exact absurd rfl goes

/-- A stopped runtime ends as it is, but for what its controller and its catalogue do at their end. -/
theorem shutdown_stopped (stopped : r.state = .stopped) :
    (shutdown r).state = r ∧ deeds (shutdown r).trace = [] := by
  have unheeded : Call.heeded r .shutdown = false := by simp [Call.heeded, stopped]
  exact ignored unheeded nofun

/-- A stopped runtime stays stopped. -/
theorem stopped_act (stopped : r.state = .stopped) (call : Call M) : (call.act r).state.state = .stopped := by
  by_cases goes : call = .drop
  · subst goes
    change (shutdown r).state.state = .stopped
    rw [(shutdown_stopped stopped).1, stopped]
  · cases call with
    | addStatic manager => exact stopped
    | drop => exact absurd rfl goes
    | preInit | init | update | unload | shutdown =>
      rw [(ignored (by simp [Call.heeded, stopped]) goes).1, stopped]

end PluginHost.Runtime
