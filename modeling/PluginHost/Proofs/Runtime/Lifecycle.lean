import PluginHost.Manager.Heartbeat
import PluginHost.Proofs.Runtime.Calm
import PluginHost.Proofs.Runtime.Living

namespace PluginHost.Runtime

open PluginHost.Action

variable {M : Type}

/-- A new runtime has no crew, so nothing has happened to anybody yet. -/
theorem living_fresh (config : RuntimeConfig) (exeDir : Path) (logger : Log.Filter)
    (ended : ManagerId → List Event → Prop) :
    Living ended false 0 [] (ofConfig config exeDir logger : Runtime M × _).1 where
  chronicle := ⟨[], ⟨Controller.holds_new _, nofun, fun _ _ => Or.inl nofun, fun _ _ => rfl⟩, fun _ => rfl⟩
  frame := rfl
  waiting := fun _ => ⟨rfl, rfl⟩
  running := nofun

variable [Manager M] {r : Runtime M} {calls : List (Call M)}

/-- A manager has been through its life, and was let go of in one of the calls. -/
def Ended (r : Runtime M) (calls : List (Call M)) (m : ManagerId) (s : List Event) : Prop :=
  ∃ before teardown later, calls = before ++ teardown :: later ∧
    (reached Call.act r before).controller.Employs m ∧
    .destroyed m ∈ (teardown.act (reached Call.act r before)).trace ∧
    s = aboard (started r before) (updates r before) m ++ parting m

theorem Ended.append {m : ManagerId} {s : List Event} (ended : Ended r calls m s) (later : List (Call M)) :
    Ended r (calls ++ later) m s := by
  obtain ⟨before, teardown, rest, rfl, life⟩ := ended
  exact ⟨before, teardown, rest ++ later, by simp, life⟩

/-- Where a call lets a manager go, its end is in the trace of the call. -/
theorem Departed.ended {past : List Event} {m : ManagerId}
    (living : Living (Ended r calls) (started r calls) (updates r calls) past
      (reached Call.act r calls)) {call : Call M}
    (departed : Departed (Ended r calls) (started r calls) (updates r calls) (reached Call.act r calls) m
      (story m (past ++ deeds (call.act (reached Call.act r calls)).trace))) :
    Ended r (calls ++ [call]) m (story m (past ++ deeds (call.act (reached Call.act r calls)).trace)) := by
  rcases departed with earlier | ⟨employed, whole⟩
  · exact earlier.append [call]
  · refine ⟨calls, call, [], rfl, employed, ?_, whole⟩
    obtain ⟨crew, chronicle, -⟩ := living.chronicle
    obtain ⟨x, member, rfl⟩ := List.mem_map.mp ((chronicle.holds.employs_iff m).mp employed)
    rw [story_append, chronicle.present x member, story_deeds, List.append_cancel_left_eq] at whole
    have last : .destroyed x.id ∈ story x.id (call.act (reached Call.act r calls)).trace := by
      simp [whole, parting]
    exact (List.mem_filter.mp last).1

/-- All calls together carry the life of a runtime on. -/
theorem Living.run (fresh : Living (Ended r []) false 0 [] r) (timely : Timely r calls)
    (calm : Calm r calls) :
    Living (Ended r calls) (started r calls) (updates r calls) (deeds (history Call.act r calls))
      (reached Call.act r calls) := by
  -- who is let go of in a call is employed in the state that the calls before it reach
  induction calls using List.reverseRecOn with
  | nil => exact fresh
  | append_singleton calls call ih =>
    have living := ih timely.of_append calm.of_append
    have next := living.call call
      (fun manager same => timely calls manager [] (by rw [same])) (calm calls call [] rfl)
    have next := next.mono fun m departed => departed.ended living
    simpa [started, updates, history, reached] using next

/-- A call that is not heeded leaves no deed, a drop after the shutdown among them. -/
theorem Living.unheeded {ended : ManagerId → List Event → Prop} {started : Bool} {updates : Nat}
    {past : List Event} (living : Living ended started updates past r) {call : Call M}
    (unheeded : call.heeded r = false) :
    deeds (call.act r).trace = [] := by
  by_cases goes : call = .drop
  · subst goes
    have stopped : r.state = .stopped := by simpa [Call.heeded] using unheeded
    obtain ⟨crew, chronicle, alone⟩ := living.chronicle
    exact deeds_drop_of_stopped stopped (alone stopped ▸ chronicle.holds)
  · exact (ignored unheeded goes).2

/-- In a calm run ended by a drop, what befalls a manager is its attaching, the phases of its life and one
teardown, in this order. Nobody else is called, a call that is not heeded leaves no deed, and the frame
counter counts the updates. -/
theorem lifecycle (config : RuntimeConfig) (exeDir : Path) (logger : Log.Filter) (calls : List (Call M))
    (timely : Timely (ofConfig config exeDir logger).1 (calls ++ [.drop]))
    (calm : Calm (ofConfig config exeDir logger).1 (calls ++ [.drop])) :
    let start : Runtime M := (ofConfig config exeDir logger).1
    let run := calls ++ [.drop]
    let trace := history Call.act start run
    (∀ m, (∃ before later, run = before ++ later ∧ (reached Call.act start before).controller.Employs m) →
        ∃ before teardown later, run = before ++ teardown :: later ∧
          (reached Call.act start before).controller.Employs m ∧
          .destroyed m ∈ (teardown.act (reached Call.act start before)).trace ∧
          story m trace = .called m .attach ::
            hears (lifeline (started start before) (updates start before)) m ++
            (hears [.release, .postRelease] m ++ [.destroyed m])) ∧
      (∀ m hook, .called m hook ∈ trace →
        ∃ before later, run = before ++ later ∧ (reached Call.act start before).controller.Employs m) ∧
      (∀ before call later, run = before ++ call :: later →
        call.heeded (reached Call.act start before) = false →
        deeds (call.act (reached Call.act start before)).trace = []) ∧
      ∀ before later, run = before ++ later →
        (reached Call.act start before).frame = .ofNat (updates start before) := by
  intro start run trace
  have living : ∀ before later, run = before ++ later → Living (Ended start before) (started start before)
      (updates start before) (deeds (history Call.act start before)) (reached Call.act start before) := by
    intro before later split
    have timely : Timely start (before ++ later) := by
      rw [← split]
      exact timely
    have calm : Calm start (before ++ later) := by
      rw [← split]
      exact calm
    exact (living_fresh config exeDir logger _).run timely.of_append calm.of_append
  -- nobody is left when the runtime is gone
  have gone : ∀ m hook, .called m hook ∈ story m (deeds trace) →
      Ended start run m (story m (deeds trace)) := by
    intro m hook called
    obtain ⟨-, stopped⟩ := (living calls [.drop] rfl).drop (calm calls .drop [] rfl)
    obtain ⟨crew, chronicle, alone⟩ := (living run [] (List.append_nil run).symm).chronicle
    rw [reached_append] at alone
    obtain rfl := alone stopped
    exact (chronicle.absent m (by simp)).resolve_left fun unheard => unheard hook called
  refine ⟨?_, ?_, ?_, fun before later split => (living before later split).frame⟩
  · rintro m ⟨before, later, split, employed⟩
    obtain ⟨crew, chronicle, -⟩ := (living before later split).chronicle
    obtain ⟨x, member, rfl⟩ := List.mem_map.mp ((chronicle.holds.employs_iff m).mp employed)
    have attached : .called x.id .attach ∈ story x.id (deeds trace) := by
      have parts : trace = history Call.act start before ++
          history Call.act (reached Call.act start before) later := by
        rw [← history_append, ← split]
      rw [parts, deeds_append, story_append, chronicle.present x member]
      exact List.mem_append_left _ List.mem_cons_self
    obtain ⟨before, teardown, later, split, employed, destroyed, whole⟩ := gone x.id .attach attached
    rw [story_deeds] at whole
    exact ⟨before, teardown, later, split, employed, destroyed, whole⟩
  · intro m hook called
    have befallen : .called m hook ∈ story m (deeds trace) := by
      rw [story_deeds]
      exact List.mem_filter.mpr ⟨called, by simp [Event.befalls]⟩
    obtain ⟨before, teardown, later, split, employed, -⟩ := gone m hook befallen
    exact ⟨before, teardown :: later, split, employed⟩
  · exact fun before call later split unheeded => (living before (call :: later) split).unheeded unheeded

example :
    let start : Runtime Heartbeat := (ofConfig {} ⟨[]⟩ .off).1
    let site : Site Heartbeat := ⟨⟨fun _ => false, fun _ => .error "", fun _ => none⟩, fun _ => .error ""⟩
    let calls : List (Call Heartbeat) := [.update, .addStatic (.ofPeriod 1), .init site, .update, .init site, .drop]
    story ⟨0⟩ (history Call.act start calls) =
      [.called ⟨0⟩ .attach, .called ⟨0⟩ (.phase .init), .called ⟨0⟩ (.phase .postInit),
       .called ⟨0⟩ (.phase .preUpdate), .called ⟨0⟩ (.phase .update), .called ⟨0⟩ (.phase .postUpdate),
       .called ⟨0⟩ (.phase .release), .called ⟨0⟩ (.phase .postRelease), .destroyed ⟨0⟩] := by
  decide +kernel

/-- The life of a heartbeat that is added before the opening and torn down by the shutdown. -/
theorem lifecycle_heartbeat :
    let start : Runtime Heartbeat := (ofConfig {} ⟨[]⟩ .off).1
    let site : Site Heartbeat := ⟨⟨fun _ => false, fun _ => .error "", fun _ => none⟩, fun _ => .error ""⟩
    let calls : List (Call Heartbeat) := [.addStatic (.ofPeriod 1), .init site, .update, .shutdown]
    Timely start (calls ++ [.drop]) ∧ Calm start (calls ++ [.drop]) ∧
      ∃ before teardown later, calls ++ [.drop] = before ++ teardown :: later ∧
        story ⟨0⟩ (history Call.act start (calls ++ [.drop])) =
          .called ⟨0⟩ .attach :: hears (lifeline (started start before) (updates start before)) ⟨0⟩ ++
            (hears [.release, .postRelease] ⟨0⟩ ++ [.destroyed ⟨0⟩]) := by
  intro start site calls
  have timely : Timely start (calls ++ [.drop]) := by
    intro before manager later split
    cases before with
    | nil => exact Or.inl rfl
    | cons call before =>
      have rest : [.init site, .update, .shutdown, .drop] = before ++ .addStatic manager :: later :=
        (List.cons.inj split).2
      have member : .addStatic manager ∈ ([.init site, .update, .shutdown, .drop] : List (Call Heartbeat)) := by
        simp [rest]
      simp at member
  have calm : Calm start (calls ++ [.drop]) := calm_of_gentle gentle_heartbeat start _
  have employed : (reached Call.act start [.addStatic (.ofPeriod 1)]).controller.Employs ⟨0⟩ :=
    Controller.employs_of_filed (show Option.map _ _[Heartbeat.key]? = _ by decide +kernel)
  obtain ⟨lives, -⟩ := lifecycle {} ⟨[]⟩ .off calls timely calm
  obtain ⟨before, teardown, later, split, -, -, life⟩ :=
    lives ⟨0⟩ ⟨[.addStatic (.ofPeriod 1)], _, rfl, employed⟩
  exact ⟨timely, calm, before, teardown, later, split, life⟩

end PluginHost.Runtime
