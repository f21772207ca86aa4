import PluginHost.Manager.Scripted
import PluginHost.Proofs.Runtime.Farewell
import PluginHost.Proofs.Runtime.Parts

namespace PluginHost

open Controller

variable {M : Type} {m : ManagerId} {phase : Phase}

/-- A manager was numbered and is not aboard, and none of its hooks has been called since. -/
def Gone (m : ManagerId) (past : List Event) (p : Platform M) : Prop :=
  (∃ crew, p.controller.Holds crew ∧ m ∉ crew.map (·.id)) ∧ m.index < p.controller.offered ∧
    ∀ phase, .called m (.phase phase) ∉ past

/-- The hook of a phase has not been called on a manager. -/
def Spared (m : ManagerId) (phase : Phase) (past : List Event) (p : Platform M) : Prop :=
  (∃ crew, p.controller.Holds crew) ∧ .called m (.phase phase) ∉ past

variable [Manager M]

/-- A manager that is gone stays gone and is not called again. -/
theorem keeps_gone (call : Platform.Call M) : call.act.Keeps (Gone m) := by
  refine Action.keeps_iff.mpr ?_
  rintro past p ⟨⟨crew, holds, missing⟩, known, quiet⟩
  obtain ⟨crew', aboard, passage⟩ := call.passes p crew holds
  refine ⟨⟨crew', aboard, fun there => ?_⟩, known.trans_le passage.more, fun phase called => ?_⟩
  · obtain ⟨x, member, rfl⟩ := List.mem_map.mp there
    rcases passage.kept x member with old | ⟨late, -⟩
    · exact missing (List.mem_map_of_mem old)
    · omega
  · rcases List.mem_append.mp called with early | late
    · exact quiet phase early
    · exact missing (passage.called m phase late).2

/-- A phase that a call does not run reaches nobody in it. -/
theorem keeps_spared (call : Platform.Call M) (other : phase ∉ call.phases) :
    call.act.Keeps (Spared m phase) := by
  refine Action.keeps_iff.mpr ?_
  rintro past p ⟨⟨crew, holds⟩, quiet⟩
  obtain ⟨crew', aboard, passage⟩ := call.passes p crew holds
  refine ⟨⟨crew', aboard⟩, fun called => ?_⟩
  rcases List.mem_append.mp called with early | late
  · exact quiet early
  · exact other (passage.called m phase late).1

namespace Runtime

open PluginHost.Action

variable {r : Runtime M} {crew : List Member} {calls : List (Call M)}

/-- What calls the hook of no teardown. -/
theorem count_of_spared (holds : r.controller.Holds crew) {call : Call M}
    (other : ∀ part ∈ call.parts, phase ∉ part.phases) :
    (call.act r).trace.count (.called m (.phase phase)) = 0 := by
  have kept := keeps_of_parts (I := Spared m phase) fun part played => keeps_spared part (other part played)
  obtain ⟨-, quiet⟩ := keeps_iff.mp kept [] r ⟨⟨crew, holds⟩, by simp⟩
  rw [List.nil_append] at quiet
  exact List.count_eq_zero.mpr fun called => quiet (mem_deeds.mpr ⟨called, rfl⟩)

/-- Whatever a call does, panics included, the controller holds some crew afterwards. -/
theorem holds_act (holds : r.controller.Holds crew) (call : Call M) :
    ∃ crew', (call.act r).state.controller.Holds crew' := by
  have crewed (part : Platform.Call M) : part.act.Keeps fun _ p => ∃ crew, p.controller.Holds crew := by
    refine keeps_iff.mpr ?_
    rintro past p ⟨crew, holds⟩
    obtain ⟨crew', aboard, -⟩ := part.passes p crew holds
    exact ⟨crew', aboard⟩
  exact keeps_iff.mp (keeps_of_parts fun part _ => crewed part) [] r ⟨crew, holds⟩

theorem deeds_shutdown (up : r.state ≠ .stopped) :
    deeds (shutdown r).trace = deeds (Controller.releaseAll r.controller).trace := by
  have through : onController Controller.releaseAll r = ⟨{ r with platform := { r.platform with
      controller := (Controller.releaseAll r.controller).state } }, (Controller.releaseAll r.controller).trace,
      (Controller.releaseAll r.controller).result⟩ := rfl
  unfold shutdown
  rw [get_bind, if_pos up, log_bind, deeds_cons, if_neg (by simp)]
  rcases result : (Controller.releaseAll r.controller).result with panic | _
  · rw [bind_of_error (by rw [through, result]), through]
  · rw [bind_of_ok (by rw [through, result]), through]
    simp [setState]

theorem count_shutdown_le (holds : r.controller.Holds crew) :
    (shutdown r).trace.count (.called m (.phase .release)) ≤ 1 := by
  rw [← count_deeds rfl]
  by_cases stopped : r.state = .stopped
  · rw [(shutdown_stopped stopped).2]
    exact Nat.zero_le 1
  · rw [deeds_shutdown stopped, count_deeds rfl]
    exact Platform.Drive.releaseAll.count_called_le (p := r.platform) holds m .release

/-- A call releases a manager once at the most. -/
theorem count_released_le (holds : r.controller.Holds crew) (call : Call M) :
    (call.act r).trace.count (.called m (.phase .release)) ≤ 1 := by
  have spared (other : ∀ part ∈ call.parts, Phase.release ∉ part.phases) :
      (call.act r).trace.count (.called m (.phase .release)) ≤ 1 :=
    (count_of_spared holds other).le.trans (Nat.zero_le 1)
  cases call with
  | addStatic manager => exact spared (by simp [Call.parts, Platform.Call.phases])
  | preInit site => exact spared (by simp [Call.parts, Platform.Call.phases])
  | init site => exact spared (by simp [Call.parts, Platform.Call.phases])
  | update => exact spared (by simp [Call.parts, Platform.Call.phases])
  | unload name =>
    by_cases stopped : r.state = .stopped
    · have unheeded : (Call.unload name).heeded r = false := by simp [Call.heeded, stopped]
      have idle := (ignored unheeded (by simp)).2
      rw [← count_deeds rfl, idle]
      exact Nat.zero_le 1
    · have through : ((Call.unload name).act r).trace = (Platform.unload name r.platform).trace := by
        simp only [Call.act, Action.void, unload, get_bind, if_neg stopped]
        rfl
      rw [through]
      exact (Platform.Drive.unload name).count_called_le (p := r.platform) holds m .release
  | shutdown => exact count_shutdown_le holds
  | drop =>
    obtain ⟨crew', aboard⟩ := holds_act holds .shutdown
    have unfolded : (drop r).trace =
        (shutdown r).trace ++ (Controller.clear (shutdown r).state.controller).trace ++ [] := rfl
    have silent : (Controller.clear (shutdown r).state.controller).trace.count (.called m (.phase .release)) = 0 := by
      have trace := (Controller.clear_spec aboard).2.2.2
      rw [← count_deeds rfl]
      change (deeds (Controller.clear (Call.shutdown.act r).state.controller).trace).count _ = 0
      rw [trace]
      exact List.count_eq_zero.mpr (by simp)
    change (drop r).trace.count _ ≤ 1
    rw [unfolded, List.append_nil, List.count_append, silent]
    exact count_shutdown_le holds

/-- A call that returns has let go of everyone it has released. -/
theorem gone_of_released (holds : r.controller.Holds crew) {call : Call M} (ok : (call.act r).result = .ok ())
    (released : .called m (.phase .release) ∈ (call.act r).trace) :
    Gone m [] (call.act r).state.platform := by
  obtain ⟨crew', turn⟩ := turn_call holds call ok
  have parted : farewell m (deeds (call.act r).trace) ≠ [] := by
    rw [farewell_deeds]
    exact List.ne_nil_of_mem (List.mem_filter.mpr ⟨released, by simp [Event.parts]⟩)
  by_cases known : m.index < r.controller.offered
  · have old := turn.turnover.old m known
    by_cases left : m ∈ crew.map (·.id) ∧ m ∉ crew'.map (·.id)
    · exact ⟨⟨crew', turn.holds, left.2⟩, known.trans_le turn.turnover.more, by simp⟩
    · rw [if_neg left] at old
      exact absurd old parted
  · have fresh := turn.turnover.new m (Nat.le_of_not_lt known)
    by_cases stays : m ∈ crew'.map (·.id) ∨ (call.act r).state.controller.offered ≤ m.index
    · exact absurd (fresh stays) parted
    · obtain ⟨missing, numbered⟩ := not_or.mp stays
      exact ⟨⟨crew', turn.holds, missing⟩, Nat.lt_of_not_le numbered, by simp⟩

/-- Nothing calls a manager that is gone, however the run goes on. -/
theorem not_called_of_gone {calls : List (Call M)} (gone : Gone m [] r.platform) (phase : Phase) :
    .called m (.phase phase) ∉ history Call.act r calls := by
  have kept (call : Call M) : call.act.Keeps fun past r => Gone m past r.platform :=
    keeps_of_parts fun part _ => keeps_gone part
  obtain ⟨-, -, quiet⟩ := Keeps.run kept gone calls
  exact fun called => quiet phase (mem_deeds.mpr ⟨called, rfl⟩)

/-- Every runtime reached holds some crew. -/
theorem holds_reached (holds : r.controller.Holds crew) (calls : List (Call M)) :
    ∃ crew', (reached Call.act r calls).controller.Holds crew' := by
  induction calls generalizing r crew with
  | nil => exact ⟨crew, holds⟩
  | cons call calls ih =>
    obtain ⟨crew', aboard⟩ := holds_act holds call
    exact ih aboard

/-- The manager is released in a call. -/
def Call.Releases (call : Call M) (m : ManagerId) (r : Runtime M) : Prop :=
  .called m (.phase .release) ∈ (call.act r).trace

/-- If a call that releases the manager returns, no later call releases it. -/
theorem count_history_le (holds : r.controller.Holds crew)
    (returns : ∀ before call later, calls = before ++ call :: later →
      call.Releases m (reached Call.act r before) → (call.act (reached Call.act r before)).result = .ok ()) :
    (history Call.act r calls).count (.called m (.phase .release)) ≤ 1 := by
  induction calls generalizing r crew with
  | nil => exact Nat.zero_le 1
  | cons call calls ih =>
    rw [history, List.count_append]
    by_cases released : call.Releases m r
    · have gone := gone_of_released holds (returns [] call calls rfl released) released
      rw [List.count_eq_zero.mpr (not_called_of_gone gone .release)]
      exact count_released_le holds call
    · obtain ⟨crew', aboard⟩ := holds_act holds call
      rw [List.count_eq_zero.mpr released, Nat.zero_add]
      exact ih aboard fun before next later split => returns (call :: before) next later (by rw [split]; rfl)

/-- A call releases a manager once at the most, and a manager is released again only where every call that
released it before has panicked. Without a panic in a teardown no manager is released twice. -/
theorem released_again_after_panic (config : RuntimeConfig) (exeDir : Path) (logger : Log.Filter)
    (calls : List (Call M)) (m : ManagerId) :
    let start : Runtime M := (ofConfig config exeDir logger).1
    (∀ before call later, calls = before ++ call :: later →
        (call.act (reached Call.act start before)).trace.count (.called m (.phase .release)) ≤ 1) ∧
      (∀ before first middle second later, calls = before ++ first :: (middle ++ second :: later) →
        first.Releases m (reached Call.act start before) →
        second.Releases m (reached Call.act start (before ++ first :: middle)) →
          ∃ panic, (first.act (reached Call.act start before)).result = .error panic) ∧
      ((∀ before call later, calls = before ++ call :: later → call.Releases m (reached Call.act start before) →
          (call.act (reached Call.act start before)).result = .ok ()) →
        (history Call.act start calls).count (.called m (.phase .release)) ≤ 1) := by
  intro start
  have fresh : start.controller.Holds [] := Controller.holds_new _
  refine ⟨fun before call later _ => ?_, ?_, count_history_le fresh⟩
  · obtain ⟨crew, holds⟩ := holds_reached fresh before
    exact count_released_le holds call
  · intro before first middle second later _ released again
    obtain ⟨crew, holds⟩ := holds_reached fresh before
    rcases result : (first.act (reached Call.act start before)).result with panic | _
    · exact ⟨panic, rfl⟩
    -- the first call has let go of the manager, and the second has nobody to release
    · have gone := gone_of_released holds result released
      have called : .called m (.phase .release) ∈
          history Call.act (first.act (reached Call.act start before)).state (middle ++ [second]) := by
        rw [Call.Releases, reached_append] at again
        rw [history_append, List.mem_append]
        exact .inr (by simpa [history, reached] using again)
      exact absurd called (not_called_of_gone gone .release)

/-- A shutdown and a drop both release the same manager, so the shutdown panicked; a heartbeat, which never
panics, is released once. -/
theorem released_again_after_panic_scripted :
    let cook : Scripted := { key := ⟨"crew::Cook"⟩, label := "cook", script := { panicIn? := some (.phase .release) } }
    let start : Runtime Scripted := (ofConfig {} ⟨[]⟩ .off).1
    let steady : Runtime Heartbeat := (ofConfig {} ⟨[]⟩ .off).1
    (∃ panic, (Call.shutdown.act (reached Call.act start [.addStatic cook])).result = .error panic) ∧
      (history Call.act steady [.addStatic (.ofPeriod 1), .shutdown, .drop]).count
        (.called ⟨0⟩ (.phase .release)) ≤ 1 := by
  intro cook start steady
  have again := (released_again_after_panic {} ⟨[]⟩ .off [.addStatic cook, .shutdown, .drop] ⟨0⟩).2.1
  have first : Call.shutdown.Releases ⟨0⟩ (reached Call.act start [.addStatic cook]) :=
    show Event.called ⟨0⟩ (.phase .release) ∈ _ by decide +kernel
  have second : Call.drop.Releases ⟨0⟩ (reached Call.act start [.addStatic cook, .shutdown]) :=
    show Event.called ⟨0⟩ (.phase .release) ∈ _ by decide +kernel
  have calm : Calm steady [.addStatic (.ofPeriod 1), .shutdown, .drop] := calm_of_gentle gentle_heartbeat steady _
  have once := (released_again_after_panic {} ⟨[]⟩ .off
    [.addStatic (Heartbeat.ofPeriod 1), .shutdown, .drop] ⟨0⟩).2.2
  exact ⟨again [.addStatic cook] .shutdown [] .drop [] rfl first second,
    once fun before call later split _ => calm before call later split⟩

/-- A manager may be released twice. -/
theorem released_twice :
    ¬ ∀ (calls : List (Call Scripted)) (m : ManagerId),
      let start : Runtime Scripted := (ofConfig {} ⟨[]⟩ .off).1
      (history Call.act start calls).count (.called m (.phase .release)) ≤ 1 := by
  intro once
  let cook : Scripted := { key := ⟨"crew::Cook"⟩, label := "cook", script := { panicIn? := some (.phase .release) } }
  have twice : (history Call.act (ofConfig {} ⟨[]⟩ .off).1 [.addStatic cook, .shutdown, .drop]).count
      (.called ⟨0⟩ (.phase .release)) = 2 := by decide +kernel
  have least : (history Call.act (ofConfig {} ⟨[]⟩ .off).1 [.addStatic cook, .shutdown, .drop]).count
      (.called ⟨0⟩ (.phase .release)) ≤ 1 := once _ ⟨0⟩
  omega

end Runtime

end PluginHost
