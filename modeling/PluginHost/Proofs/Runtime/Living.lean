import PluginHost.Proofs.Runtime.Progress
import PluginHost.Proofs.Runtime.Stage

namespace PluginHost

variable {M : Type}

/-- The manager is among those that the controller holds. -/
def Controller.Employs (c : Controller M) (m : ManagerId) : Prop :=
  ∃ (key : TypeKey) (i : Instance M), c.registry.objects[key]? = some i ∧ i.id = m

theorem Controller.employs_of_filed {c : Controller M} {key : TypeKey} {m : ManagerId}
    (filed : c.registry.objects[key]?.map (·.id) = some m) : c.Employs m := by
  obtain ⟨i, found, id⟩ := Option.map_eq_some_iff.mp filed
  exact ⟨key, i, found, id⟩

theorem Controller.Holds.employs_iff {c : Controller M} {crew : List Member} (holds : c.Holds crew)
    (m : ManagerId) : c.Employs m ↔ m ∈ crew.map (·.id) := by
  rw [List.mem_map]
  constructor
  · rintro ⟨key, i, found, rfl⟩
    obtain ⟨ns, member⟩ := holds.member found
    exact ⟨_, member, rfl⟩
  · rintro ⟨x, member, rfl⟩
    obtain ⟨i, found, id⟩ := holds.object member
    exact ⟨x.key, i, found, id⟩

namespace Runtime

/-- The phases that a manager has been through while it is registered. -/
def lifeline (started : Bool) (updates : Nat) : List Phase :=
  if started then
    [.init, .postInit] ++ (List.replicate updates [.preUpdate, .update, .postUpdate]).flatten
  else []

/-- The story of a manager while it is registered. -/
def aboard (started : Bool) (updates : Nat) (m : ManagerId) : List Event :=
  .called m .attach :: hears (lifeline started updates) m

theorem aboard_updated (updates : Nat) (m : ManagerId) :
    aboard true (updates + 1) m =
      aboard true updates m ++ hears [.preUpdate] m ++ hears [.update] m ++ hears [.postUpdate] m := by
  simp [aboard, lifeline, hears, List.replicate_succ']

/-- Where a runtime stands after a trace. -/
structure Living (ended : ManagerId → List Event → Prop) (started : Bool) (updates : Nat) (past : List Event)
    (r : Runtime M) : Prop where
  chronicle : ∃ crew, Chronicle (aboard started updates) ended past crew r.controller ∧
    (r.state = .stopped → crew = [])
  frame : r.frame = .ofNat updates
  waiting : r.state = .created ∨ r.state = .loaded → started = false ∧ updates = 0
  running : r.state = .running → started = true

variable {ended : ManagerId → List Event → Prop} {past : List Event} {r : Runtime M}

/-- Whoever the runtime has let go of in a call has the whole story behind it. -/
def Departed (ended : ManagerId → List Event → Prop) (started : Bool) (updates : Nat) (r : Runtime M)
    (m : ManagerId) (s : List Event) : Prop :=
  ended m s ∨ r.controller.Employs m ∧ s = aboard started updates m ++ parting m

theorem Departed.of_parted {started : Bool} {updates : Nat} {crew : List Member}
    (holds : r.controller.Holds crew) {m : ManagerId} {s : List Event}
    (parted : Parted (aboard started updates) ended crew m s) :
    Departed ended started updates r m s :=
  parted.imp_right (And.imp_left (holds.employs_iff m).mpr)

theorem Living.mono {started : Bool} {updates : Nat} (living : Living ended started updates past r)
    {finished : ManagerId → List Event → Prop}
    (moves : ∀ m, ended m (story m past) → finished m (story m past)) :
    Living finished started updates past r :=
  { living with
    chronicle := by
      obtain ⟨crew, chronicle, alone⟩ := living.chronicle
      exact ⟨crew, chronicle.conclude moves, alone⟩ }

theorem Living.of_boarding (boarding : Boarding ended past r.platform) (frame : r.frame = 0)
    (waiting : r.state = .created ∨ r.state = .loaded) : Living ended false 0 past r where
  chronicle := by
    obtain ⟨crew, chronicle⟩ := boarding
    refine ⟨crew, chronicle, fun stopped => ?_⟩
    rw [stopped] at waiting
    rcases waiting with _ | _ <;> contradiction
  frame := frame
  waiting := fun _ => ⟨rfl, rfl⟩
  running := fun running => by
    rw [running] at waiting
    rcases waiting with _ | _ <;> contradiction

theorem Living.of_running {updates : Nat}
    (chronicle : ∃ crew, Chronicle (aboard true updates) ended past crew r.controller)
    (frame : r.frame = .ofNat updates) (running : r.state = .running) : Living ended true updates past r where
  chronicle := by
    obtain ⟨crew, chronicle⟩ := chronicle
    exact ⟨crew, chronicle, fun stopped => absurd (running.symm.trans stopped) nofun⟩
  frame := frame
  waiting := by
    rw [running]
    rintro (_ | _) <;> contradiction
  running := fun _ => rfl

variable [Manager M]

/-- After the shutdown nobody is left, so the end of the controller and the catalogue adds nothing. -/
theorem drop_run {c : Controller M} (stopped : (shutdown r).state.controller = c) (nobody : c.Holds []) :
    (drop r).result = (shutdown r).result ∧ (drop r).state.state = (shutdown r).state.state ∧
      (drop r).state.frame = (shutdown r).state.frame ∧ (drop r).state.controller.Holds [] ∧
      (drop r).state.controller.offered = c.offered ∧ deeds (drop r).trace = deeds (shutdown r).trace := by
  subst stopped
  obtain ⟨-, holds, offered, trace⟩ := Controller.clear_spec nobody
  refine ⟨rfl, rfl, rfl, holds, offered, ?_⟩
  have unfolded : (drop r).trace =
      (shutdown r).trace ++ (Controller.clear (shutdown r).state.controller).trace ++ [] := rfl
  rw [unfolded, deeds_append, deeds_append, trace]
  simp

/-- The end of a runtime that has been shut down is no news to anyone. -/
theorem deeds_drop_of_stopped (stopped : r.state = .stopped) (nobody : r.controller.Holds []) :
    deeds (drop r).trace = [] := by
  obtain ⟨state, trace⟩ := shutdown_stopped stopped
  obtain ⟨-, -, -, -, -, same⟩ := drop_run (congrArg controller state) nobody
  exact same.trans trace

variable {started : Bool} {updates : Nat}

/-- A shutdown parts with everybody aboard and stops the runtime. -/
theorem Living.shutdown (living : Living ended started updates past r) (ok : (shutdown r).result = .ok ()) :
    Living (Departed ended started updates r) started updates (past ++ deeds (shutdown r).trace)
      (shutdown r).state ∧
      (shutdown r).state.state = .stopped := by
  by_cases stopped : r.state = .stopped
  · obtain ⟨state, trace⟩ := shutdown_stopped stopped
    rw [state, trace, List.append_nil]
    exact ⟨living.mono fun m => Or.inl, stopped⟩
  · obtain ⟨crew, chronicle, -⟩ := living.chronicle
    obtain ⟨last, state, frame⟩ := (stage_shutdown leads_releaseAll stopped).of_ok ⟨chronicle, rfl, rfl⟩ ok
    refine ⟨⟨⟨[], last.conclude fun m => Departed.of_parted chronicle.holds, fun _ => rfl⟩,
      frame.trans living.frame, ?_, ?_⟩, state⟩
    · rw [state]
      rintro (_ | _) <;> contradiction
    · rw [state]
      nofun

/-- A drop ends as a shutdown does, and adds nothing when there has been one. -/
theorem Living.drop (living : Living ended started updates past r) (ok : (drop r).result = .ok ()) :
    Living (Departed ended started updates r) started updates (past ++ deeds (drop r).trace) (drop r).state ∧
      (drop r).state.state = .stopped := by
  obtain ⟨ended, stopped⟩ := living.shutdown ok
  obtain ⟨crew, chronicle, alone⟩ := ended.chronicle
  obtain rfl := alone stopped
  obtain ⟨-, state, frame, holds, offered, trace⟩ := drop_run rfl chronicle.holds
  have last : Chronicle (aboard started updates) _ (_ ++ []) [] (Runtime.drop r).state.controller :=
    chronicle.pass holds offered fun m => rfl
  rw [List.append_nil, ← trace] at last
  refine ⟨⟨⟨[], last, fun _ => rfl⟩, frame.trans ended.frame, ?_, ?_⟩, state.trans stopped⟩
  · rw [state, stopped]
    rintro (_ | _) <;> contradiction
  · rw [state, stopped]
    nofun

/-- A manager that boards in time starts its life; one that is refused is destroyed at once. -/
theorem Living.addStatic (living : Living ended started updates past r) (manager : M)
    (waiting : r.state = .created ∨ r.state = .loaded) {answer : Except PluginError Unit}
    (ok : (addStatic manager r).result = .ok answer) :
    Living ended started updates (past ++ deeds (addStatic manager r).trace) (addStatic manager r).state := by
  obtain ⟨rfl, rfl⟩ := living.waiting waiting
  obtain ⟨crew, chronicle, -⟩ := living.chronicle
  obtain ⟨boarding, state, frame⟩ :=
    (stage_onPlatform (leads_addStatic manager) r.state r.frame).of_ok ⟨⟨crew, chronicle⟩, rfl, rfl⟩ ok
  exact .of_boarding boarding (frame.trans living.frame) (state ▸ waiting)

theorem Living.preInit (living : Living ended started updates past r) (site : Site M)
    (created : r.state = .created) {count : Nat} (ok : (preInit site r).result = .ok count) :
    Living ended started updates (past ++ deeds (preInit site r).trace) (preInit site r).state := by
  obtain ⟨rfl, rfl⟩ := living.waiting (Or.inl created)
  obtain ⟨crew, chronicle, -⟩ := living.chronicle
  obtain ⟨boarding, state, frame⟩ :=
    (stage_preInit (Platform.leads_discover (leads_load site))).of_ok ⟨⟨crew, chronicle⟩, created, living.frame⟩ ok
  exact .of_boarding boarding frame (Or.inr state)

/-- The opening tells everybody aboard the two phases, after discovery if there was none yet. -/
theorem Living.init (living : Living ended started updates past r) (site : Site M)
    (waiting : r.state = .created ∨ r.state = .loaded) (ok : (init site r).result = .ok ()) :
    Living ended true updates (past ++ deeds (init site r).trace) (init site r).state := by
  obtain ⟨rfl, rfl⟩ := living.waiting waiting
  obtain ⟨crew, chronicle, -⟩ := living.chronicle
  rcases waiting with created | loaded
  · obtain ⟨chronicle, state, frame⟩ :=
      (stage_init_created (Platform.leads_discover (leads_load site)) (leads_dispatch .init)
        (leads_dispatch .postInit)).of_ok ⟨⟨crew, chronicle⟩, created, living.frame⟩ ok
    exact .of_running chronicle frame state
  · obtain ⟨chronicle, state, frame⟩ :=
      (stage_init_loaded (leads_dispatch .init) (leads_dispatch .postInit)).of_ok
        ⟨⟨crew, chronicle⟩, loaded, living.frame⟩ ok
    exact .of_running chronicle frame state

/-- An update adds one frame to the life of everybody aboard. -/
theorem Living.update (living : Living ended started updates past r) (running : r.state = .running)
    (ok : (update r).result = .ok ()) :
    Living ended started (updates + 1) (past ++ deeds (update r).trace) (update r).state := by
  obtain rfl := living.running running
  obtain ⟨crew, chronicle, -⟩ := living.chronicle
  obtain ⟨chronicle, state, frame⟩ :=
    (stage_update (leads_dispatch .preUpdate) (leads_dispatch .update) (leads_dispatch .postUpdate)).of_ok
      ⟨⟨crew, chronicle⟩, running, rfl⟩ ok
  have aboard : aboard true (updates + 1) = _ := funext (aboard_updated updates)
  exact .of_running (aboard ▸ chronicle) (by rw [frame, living.frame, UInt64.ofNat_add]; rfl) state

/-- Unloading a plugin parts with its managers and leaves the others where they were. -/
theorem Living.unload (living : Living ended started updates past r) (up : r.state ≠ .stopped) (name : String)
    {answer : Except PluginError Unit} (ok : (unload name r).result = .ok answer) :
    Living (Departed ended started updates r) started updates (past ++ deeds (unload name r).trace)
      (unload name r).state := by
  obtain ⟨crew, chronicle, -⟩ := living.chronicle
  obtain ⟨⟨rest, chronicle'⟩, state, frame⟩ :=
    (stage_unload (leads_unload name) up).of_ok ⟨chronicle, rfl, rfl⟩ ok
  refine ⟨⟨rest, chronicle'.conclude fun m => Departed.of_parted chronicle.holds, ?_⟩,
    frame.trans living.frame, ?_, ?_⟩
  · exact fun stopped => absurd (state.symm.trans stopped) up
  · exact fun waiting => living.waiting (by rwa [state] at waiting)
  · exact fun running => living.running (state.symm.trans running)

theorem Living.idle (living : Living ended started updates past r) {call : Call M} (unheeded : call.heeded r = false)
    (ok : (call.act r).result = .ok ()) :
    Living (Departed ended started updates r) (started || call.starts r) (updates + if call.updates r then 1 else 0)
      (past ++ deeds (call.act r).trace) (call.act r).state := by
  have starts : call.starts r = false := by cases call <;> simp_all [Call.starts]
  have frames : call.updates r = false := by cases call <;> simp_all [Call.updates]
  rw [starts, frames, Bool.or_false]
  by_cases goes : call = .drop
  · subst goes
    exact (living.drop ok).1
  · obtain ⟨state, trace⟩ := ignored unheeded goes
    rw [state, trace, List.append_nil]
    exact living.mono fun m => Or.inl

/-- One call carries the life of a runtime on. -/
theorem Living.call (living : Living ended started updates past r) (call : Call M)
    (timely : ∀ manager, call = .addStatic manager → r.state = .created ∨ r.state = .loaded)
    (ok : (call.act r).result = .ok ()) :
    Living (Departed ended started updates r) (started || call.starts r) (updates + if call.updates r then 1 else 0)
      (past ++ deeds (call.act r).trace) (call.act r).state := by
  cases heeded : call.heeded r with
  | false => exact living.idle heeded ok
  | true =>
    cases call with
    | addStatic manager =>
      obtain ⟨answer, ok⟩ := Action.ok_of_void ok
      change Living _ (started || false) updates _ _
      rw [Bool.or_false]
      exact (living.addStatic manager (timely manager rfl) ok).mono fun m => Or.inl
    | preInit site =>
      have created : r.state = .created := by simpa [Call.heeded] using heeded
      obtain ⟨count, ok⟩ := Action.ok_of_void ok
      change Living _ (started || false) updates _ _
      rw [Bool.or_false]
      exact (living.preInit site created ok).mono fun m => Or.inl
    | init site =>
      have waiting : r.state = .created ∨ r.state = .loaded := by simpa [Call.heeded] using heeded
      change Living _ (started || (Call.init site).heeded r) updates _ _
      rw [heeded, Bool.or_true]
      exact (living.init site waiting ok).mono fun m => Or.inl
    | update =>
      have running : r.state = .running := by simpa [Call.heeded] using heeded
      change Living _ (started || false) (updates + if Call.update.heeded r then 1 else 0) _ _
      rw [heeded, Bool.or_false]
      exact (living.update running ok).mono fun m => Or.inl
    | unload name =>
      have up : r.state ≠ .stopped := by simpa [Call.heeded] using heeded
      obtain ⟨answer, ok⟩ := Action.ok_of_void ok
      change Living _ (started || false) updates _ _
      rw [Bool.or_false]
      exact living.unload up name ok
    | shutdown =>
      change Living _ (started || false) updates _ _
      rw [Bool.or_false]
      exact (living.shutdown ok).1
    | drop =>
      change Living _ (started || false) updates _ _
      rw [Bool.or_false]
      exact (living.drop ok).1

end Runtime

end PluginHost
