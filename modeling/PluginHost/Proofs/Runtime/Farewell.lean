import PluginHost.Proofs.Runtime.Calm
import PluginHost.Proofs.Runtime.Living
import PluginHost.Proofs.Runtime.Turnover

namespace PluginHost.Runtime

open PluginHost.Action

variable {M : Type} {r : Runtime M} {crew : List Member}

/-- How a runtime lets its managers go. -/
def leave (state : RuntimeState) (m : ManagerId) : List Event :=
  if state = .stopped then [.destroyed m] else parting m

theorem leave_up {state : RuntimeState} (up : state ≠ .stopped) : leave state = parting :=
  funext fun _ => if_neg up

theorem leave_stopped : leave .stopped = fun m => [.destroyed m] := rfl

variable [Manager M]

/-- What a call leaves behind. -/
structure Turn (r : Runtime M) (crew : List Member) (call : Call M) (crew' : List Member) : Prop where
  holds : (call.act r).state.controller.Holds crew'
  turnover : Turnover (leave r.state) crew crew' r.controller.offered (call.act r).state.controller.offered
    (deeds (call.act r).trace)
  alone : r.state ≠ .stopped → (call.act r).state.state = .stopped → crew' = []

theorem turn_ignored (holds : r.controller.Holds crew) {call : Call M} (unheeded : call.heeded r = false)
    (goes : call ≠ .drop) : Turn r crew call crew := by
  obtain ⟨same, trace⟩ := ignored unheeded goes
  refine ⟨by rwa [same], ?_, fun up stopped => absurd (same ▸ stopped) up⟩
  rw [same, trace]
  exact .idle le_rfl fun m => rfl

omit [Manager M] in
theorem turned_self (leave : ManagerId → List Event) (holds : r.controller.Holds crew) :
    Turned leave crew r.controller.offered [] r.platform :=
  ⟨crew, holds, .idle le_rfl fun _ => rfl⟩

/-- A call on a runtime that is up, and stays up. -/
theorem turn_of_stage (holds : r.controller.Holds crew) {call : Call M} {state next : RuntimeState}
    {since : UInt64} (turns : call.act.Leads (Stage (Turned parting crew r.controller.offered) state r.frame)
      (Stage (Turned parting crew r.controller.offered) next since) fun _ _ => True)
    (stands : r.state = state) (ok : (call.act r).result = .ok ()) (up : state ≠ .stopped)
    (still : next ≠ .stopped) : ∃ crew', Turn r crew call crew' := by
  obtain ⟨⟨crew', aboard, turnover⟩, ended, -⟩ := turns.of_ok ⟨turned_self parting holds, stands, rfl⟩ ok
  exact ⟨crew', aboard, leave_up (stands ▸ up) ▸ turnover,
    fun _ stopped => absurd (ended.symm.trans stopped) still⟩

/-- Only registration is left to a runtime that is stopped. -/
theorem turn_addStatic (holds : r.controller.Holds crew) (manager : M)
    (ok : ((Call.addStatic manager).act r).result = .ok ()) : ∃ crew', Turn r crew (.addStatic manager) crew' := by
  obtain ⟨⟨crew', aboard, turnover⟩, state, -⟩ :=
    (stage_onPlatform (turns_addStatic manager) r.state r.frame).void.of_ok
      ⟨turned_self (leave r.state) holds, rfl, rfl⟩ ok
  exact ⟨crew', aboard, turnover, fun up stopped => absurd (state.symm.trans stopped) up⟩

theorem turn_shutdown (holds : r.controller.Holds crew) (up : r.state ≠ .stopped)
    (ok : (shutdown r).result = .ok ()) : Turn r crew .shutdown [] := by
  obtain ⟨⟨nobody, turnover⟩, -⟩ :=
    (stage_shutdown turns_releaseAll up).of_ok ⟨turned_self parting holds, rfl, rfl⟩ ok
  exact ⟨nobody, leave_up up ▸ turnover, fun _ _ => rfl⟩

/-- The end of a runtime is a shutdown, or without one that of its controller. -/
theorem turn_drop (holds : r.controller.Holds crew) (ok : (Call.drop.act r).result = .ok ()) :
    Turn r crew .drop [] := by
  by_cases stopped : r.state = .stopped
  · have shut := shutdown_stopped stopped
    have cleared : (drop r).state.controller = (Controller.clear r.controller).state :=
      congrArg (fun r : Runtime M => (Controller.clear r.controller).state) shut.1
    have trace : deeds (drop r).trace = deeds (Controller.clear r.controller).trace := by
      have unfolded : (drop r).trace =
          (shutdown r).trace ++ (Controller.clear (shutdown r).state.controller).trace ++ [] := rfl
      rw [unfolded, List.append_nil, deeds_append, shut.1, shut.2, List.nil_append]
    obtain ⟨nobody, turnover⟩ := turnover_clear holds
    refine ⟨cleared ▸ nobody, ?_, fun _ _ => rfl⟩
    change Turnover _ _ _ _ (drop r).state.controller.offered (deeds (drop r).trace)
    rw [stopped, leave_stopped, cleared, trace]
    exact turnover
  · obtain ⟨nobody, turnover, -⟩ := turn_shutdown holds stopped ok
    obtain ⟨-, -, -, nobody', offered, trace⟩ := drop_run rfl nobody
    refine ⟨nobody', ?_, fun _ _ => rfl⟩
    change Turnover _ _ _ _ (drop r).state.controller.offered (deeds (drop r).trace)
    rw [offered, trace]
    exact turnover

/-- Every call that returns leads from one crew to the next, and those who go leave as the state has it. -/
theorem turn_call (holds : r.controller.Holds crew) (call : Call M) (ok : (call.act r).result = .ok ()) :
    ∃ crew', Turn r crew call crew' := by
  by_cases goes : call = .drop
  · subst goes
    exact ⟨[], turn_drop holds ok⟩
  by_cases heeded : call.heeded r = false
  · exact ⟨crew, turn_ignored holds heeded goes⟩
  cases call with
  | addStatic manager => exact turn_addStatic holds manager ok
  | preInit site =>
    have created : r.state = .created := by simpa [Call.heeded] using heeded
    exact turn_of_stage holds (stage_preInit (Platform.leads_discover (turns_load site))).void created ok
      (by simp) (by simp)
  | init site =>
    by_cases created : r.state = .created
    · exact turn_of_stage holds (stage_init_created (Platform.leads_discover (turns_load site))
        (turns_dispatch fun _ => rfl) (turns_dispatch fun _ => rfl)) created ok (by simp) (by simp)
    · have loaded : r.state = .loaded := by simpa [Call.heeded, created] using heeded
      exact turn_of_stage holds (stage_init_loaded (turns_dispatch fun _ => rfl)
        (turns_dispatch fun _ => rfl)) loaded ok (by simp) (by simp)
  | update =>
    have running : r.state = .running := by simpa [Call.heeded] using heeded
    exact turn_of_stage holds (stage_update (turns_dispatch fun _ => rfl) (turns_dispatch fun _ => rfl)
      (turns_dispatch fun _ => rfl)) running ok (by simp) (by simp)
  | unload name =>
    have up : r.state ≠ .stopped := by simpa [Call.heeded] using heeded
    exact turn_of_stage holds (stage_unload (turns_unload name) up).void rfl ok up up
  | shutdown =>
    have up : r.state ≠ .stopped := by simpa [Call.heeded] using heeded
    exact ⟨[], turn_shutdown holds up ok⟩
  | drop => exact absurd rfl goes

/-- Nothing of a teardown has befallen those who are registered, nor those who are still to come. -/
theorem farewell_before (past : List Event) {calls : List (Call M)} (calm : Calm r calls)
    (holds : r.controller.Holds crew)
    (quiet : ∀ m, m ∈ crew.map (·.id) ∨ r.controller.offered ≤ m.index → farewell m past = []) :
    ∃ crew', (reached Call.act r calls).controller.Holds crew' ∧
      ∀ m ∈ crew'.map (·.id), farewell m (past ++ history Call.act r calls) = [] := by
  induction calls generalizing r crew past with
  | nil => exact ⟨crew, holds, fun m aboard => by simpa [history] using quiet m (.inl aboard)⟩
  | cons call calls ih =>
    obtain ⟨ok, calm⟩ := calm.tail
    obtain ⟨crew', turn⟩ := turn_call holds call ok
    -- a member of the new crew was one of the old, or got a number that was never given before
    obtain ⟨last, holds', silent⟩ := ih (past ++ (call.act r).trace) calm turn.holds fun m stays => by
      rw [farewell_append, ← farewell_deeds m (call.act r).trace]
      by_cases known : m.index < r.controller.offered
      · have aboard : m ∈ crew'.map (·.id) := stays.resolve_right fun late => by
          have := turn.turnover.more
          omega
        rw [quiet m (.inl (turn.turnover.kept m known aboard)), turn.turnover.old m known,
          if_neg fun both => both.2 aboard]
        rfl
      · have late := Nat.le_of_not_lt known
        rw [quiet m (.inr late), turn.turnover.new m late stays]
        rfl
    exact ⟨last, holds', fun m aboard => by simpa [history] using silent m aboard⟩

/-- Whoever was let go of does not come back. -/
theorem farewell_gone {calls : List (Call M)} (calm : Calm r calls) (holds : r.controller.Holds crew)
    {m : ManagerId} (known : m.index < r.controller.offered) (missing : m ∉ crew.map (·.id)) :
    farewell m (history Call.act r calls) = [] := by
  induction calls generalizing r crew with
  | nil => rfl
  | cons call calls ih =>
    obtain ⟨ok, calm⟩ := calm.tail
    obtain ⟨crew', turn⟩ := turn_call holds call ok
    have absent : m ∉ crew'.map (·.id) := fun aboard => missing (turn.turnover.kept m known aboard)
    rw [history, farewell_append, ← farewell_deeds, turn.turnover.old m known,
      if_neg fun both => missing both.1, ih calm turn.holds (known.trans_le turn.turnover.more) absent]
    rfl

/-- A runtime that is stopped stays so, and one that comes to its stop keeps nobody. -/
theorem Turn.leave_eq {call : Call M} {crew' : List Member} (turn : Turn r crew call crew') {m : ManagerId}
    (aboard : m ∈ crew'.map (·.id)) : leave (call.act r).state.state = leave r.state := by
  by_cases stopped : r.state = .stopped
  · rw [stopped, stopped_act stopped call]
  · have still : (call.act r).state.state ≠ .stopped := fun ended => by
      rw [turn.alone stopped ended] at aboard
      exact List.not_mem_nil aboard
    rw [leave_up stopped, leave_up still]

/-- A manager takes leave in the way of the state that its end finds it in. -/
theorem farewell_aboard {calls : List (Call M)} (calm : Calm r (calls ++ [.drop]))
    (holds : r.controller.Holds crew) {m : ManagerId} (aboard : m ∈ crew.map (·.id)) :
    farewell m (history Call.act r (calls ++ [.drop])) = leave r.state m := by
  have known := holds.numbered aboard
  induction calls generalizing r crew with
  | nil =>
    obtain ⟨ok, -⟩ := calm.tail
    have last := (turn_drop holds ok).turnover.old m known
    rw [if_pos ⟨aboard, List.not_mem_nil⟩, farewell_deeds] at last
    simpa [history] using last
  | cons call calls ih =>
    have ok := calm.tail.1
    have calm : Calm (call.act r).state (calls ++ [.drop]) := calm.tail.2
    obtain ⟨crew', turn⟩ := turn_call holds call ok
    have first := turn.turnover.old m known
    have later := known.trans_le turn.turnover.more
    rw [List.cons_append, history, farewell_append, ← farewell_deeds, first]
    -- the teardown lies within this call, or within the calls that follow
    by_cases stays : m ∈ crew'.map (·.id)
    · rw [if_neg fun both => both.2 stays, ih calm turn.holds stays later, turn.leave_eq stays]
      rfl
    · rw [if_pos ⟨aboard, stays⟩, farewell_gone calm turn.holds later stays, List.append_nil]

/-- Every manager that is registered while the runtime is not stopped is released, post-released and
destroyed, once each and in this order. One that is registered later is destroyed without either. -/
theorem released_unless_late (config : RuntimeConfig) (exeDir : Path) (logger : Log.Filter)
    (calls : List (Call M)) (calm : Calm (ofConfig config exeDir logger).1 (calls ++ [.drop])) :
    let start : Runtime M := (ofConfig config exeDir logger).1
    let trace := history Call.act start (calls ++ [.drop])
    ∀ before later, calls = before ++ later → ∀ m, (reached Call.act start before).controller.Employs m →
      farewell m trace =
        if (reached Call.act start before).state = .stopped then [.destroyed m]
        else [.called m (.phase .release), .called m (.phase .postRelease), .destroyed m] := by
  intro start trace before later split m employed
  have parts : calls ++ [.drop] = before ++ (later ++ [.drop]) := by rw [split, List.append_assoc]
  rw [parts] at calm
  obtain ⟨crew, holds, silent⟩ := farewell_before [] calm.of_append (Controller.holds_new _)
    fun m _ => rfl
  have aboard := (holds.employs_iff m).mp employed
  have before_quiet : farewell m (history Call.act start before) = [] := silent m aboard
  have parting_done := farewell_aboard calm.after holds aboard
  have whole : farewell m trace = leave (reached Call.act start before).state m := by
    rw [← parting_done]
    change farewell m (history Call.act start (calls ++ [.drop])) = _
    rw [parts, history_append, farewell_append, before_quiet, List.nil_append]
  rw [whole]
  rfl

/-- A heartbeat hears its release once, although a second shutdown and the drop follow. -/
theorem released_unless_late_heartbeat :
    let start : Runtime Heartbeat := (ofConfig {} ⟨[]⟩ .off).1
    let before : List (Call Heartbeat) := [.addStatic (.ofPeriod 1)]
    let calls : List (Call Heartbeat) := before ++ [.update, .shutdown, .shutdown]
    Calm start (calls ++ [.drop]) ∧ (reached Call.act start before).controller.Employs ⟨0⟩ ∧
      farewell ⟨0⟩ (history Call.act start (calls ++ [.drop])) =
        [.called ⟨0⟩ (.phase .release), .called ⟨0⟩ (.phase .postRelease), .destroyed ⟨0⟩] := by
  intro start before calls
  have calm : Calm start (calls ++ [.drop]) := calm_of_gentle gentle_heartbeat start _
  have employed : (reached Call.act start before).controller.Employs ⟨0⟩ :=
    Controller.employs_of_filed (show Option.map _ _[Heartbeat.key]? = _ by decide +kernel)
  have up : (reached Call.act start before).state ≠ .stopped := by decide +kernel
  have leaves := released_unless_late {} ⟨[]⟩ .off calls calm before _ rfl ⟨0⟩ employed
  exact ⟨calm, employed, leaves.trans (if_neg up)⟩

/-- Not every manager is released before it is destroyed. -/
theorem unreleased_late :
    ¬ ∀ calls : List (Call Heartbeat),
      let start : Runtime Heartbeat := (ofConfig {} ⟨[]⟩ .off).1
      let trace := history Call.act start (calls ++ [.drop])
      Calm start (calls ++ [.drop]) → ∀ m, (reached Call.act start calls).controller.Employs m →
        .called m .attach ∈ trace →
          farewell m trace = [.called m (.phase .release), .called m (.phase .postRelease), .destroyed m] := by
  intro released
  let start : Runtime Heartbeat := (ofConfig {} ⟨[]⟩ .off).1
  let calls : List (Call Heartbeat) := [.shutdown, .addStatic (.ofPeriod 1)]
  have calm : Calm start (calls ++ [.drop]) := calm_of_gentle gentle_heartbeat start _
  have employed : (reached Call.act start calls).controller.Employs ⟨0⟩ :=
    Controller.employs_of_filed (show Option.map _ _[Heartbeat.key]? = _ by decide +kernel)
  have unreleased : farewell ⟨0⟩ (history Call.act start (calls ++ [.drop])) = [.destroyed ⟨0⟩] := by
    decide +kernel
  have late := released calls calm ⟨0⟩ employed (by decide +kernel)
  cases unreleased.symm.trans late

end PluginHost.Runtime
