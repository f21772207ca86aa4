import PluginHost.Proofs.Runtime.Living

namespace PluginHost

/-- How often a manager hears the hook of a phase. -/
theorem count_hears (phases : List Phase) (m : ManagerId) (phase : Phase) :
    (hears phases m).count (.called m (.phase phase)) = phases.count phase := by
  have apart : Function.Injective fun phase => Event.called m (.phase phase) := by
    intro phase other same
    simpa using same
  exact List.count_map_of_injective phases _ apart phase

theorem count_story {m : ManagerId} {e : Event} (own : e.befalls m) (trace : List Event) :
    (story m trace).count e = trace.count e :=
  List.count_filter own

namespace Runtime

open PluginHost.Action

/-- Whoever is aboard from the start of the frames to the end hears the hooks of a frame once in each of them. -/
theorem count_whole_life {phase : Phase} (framed : phase ∈ [.preUpdate, .update, .postUpdate]) (updates : Nat)
    (m : ManagerId) : (aboard true updates m ++ parting m).count (.called m (.phase phase)) = updates := by
  obtain ⟨before, once, after⟩ : [Phase.init, .postInit].count phase = 0 ∧
      [Phase.preUpdate, .update, .postUpdate].count phase = 1 ∧ [Phase.release, .postRelease].count phase = 0 := by
    simp only [List.mem_cons, List.not_mem_nil, or_false] at framed
    rcases framed with rfl | rfl | rfl <;> decide
  have rounds : (lifeline true updates).count phase = updates := by
    rw [lifeline, if_pos rfl, List.count_append, before, List.count_flatten, List.map_replicate, once]
    simp
  rw [aboard, parting, List.count_append, List.count_append, List.count_cons, count_hears, count_hears, rounds, after]
  simp

variable {M : Type} [Manager M] {past : List Event} {r : Runtime M} {crew : List Member} {updates : Nat}

theorem running_update (running : r.state = .running) (ok : (update r).result = .ok ()) :
    (update r).state.state = .running ∧ (update r).state.frame = r.frame + 1 := by
  have idle (phase : Phase) : (Platform.onController (Controller.dispatch phase) : Action (Platform M) Unit).Leads
      (fun _ _ => True) (fun _ _ => True) fun _ _ => True := leads_of_ok fun _ _ _ _ _ => trivial
  have here : Stage (fun _ _ => True) .running r.frame [] r := ⟨trivial, running, rfl⟩
  exact ((stage_update (idle _) (idle _) (idle _)).of_ok here ok).2

/-- A running runtime heeds every update. -/
theorem effective_updates (running : r.state = .running) {n : Nat} (calm : Calm r (List.replicate n .update)) :
    effective r (List.replicate n .update) = List.replicate n .update := by
  induction n generalizing r with
  | zero => rfl
  | succ n ih =>
    obtain ⟨ok, calm⟩ := calm.tail
    have heeded : Call.update.heeded r := by simp [Call.heeded, running]
    have goes : (Call.update.act r).state.state = .running := (running_update running ok).1
    rw [List.replicate_succ, effective, if_pos heeded, ih goes calm]
    rfl

/-- A running runtime after some frames, and those who have been aboard in all of them. -/
def Abreast (crew : List Member) (updates : Nat) : List Event → Runtime M → Prop :=
  Stage (fun past p => Chronicle (aboard true updates) (fun _ _ => False) past crew p.controller) .running
    (.ofNat updates)

/-- After an update the crew is abreast of one update more. -/
theorem Abreast.step (abreast : Abreast crew updates past r) (ok : (update r).result = .ok ()) :
    Abreast crew (updates + 1) (past ++ deeds (update r).trace) (update r).state := by
  obtain ⟨chronicle, state, frame⟩ :=
    (stage_update (leads_dispatch_crew .preUpdate) (leads_dispatch_crew .update)
      (leads_dispatch_crew .postUpdate)).of_ok abreast ok
  have aboard : aboard true (updates + 1) = _ := funext (aboard_updated updates)
  exact ⟨aboard ▸ chronicle, state, by rw [frame, UInt64.ofNat_add]; rfl⟩

theorem Abreast.run (abreast : Abreast crew updates past r) {n : Nat}
    (calm : Calm r (List.replicate n .update)) :
    Abreast crew (updates + n) (past ++ deeds (history Call.act r (List.replicate n .update)))
      (reached Call.act r (List.replicate n .update)) := by
  induction n generalizing updates past r with
  | zero => simpa [history, reached] using abreast
  | succ n ih =>
    obtain ⟨ok, calm⟩ := calm.tail
    change Abreast crew (updates + (n + 1)) (past ++ deeds ((update r).trace ++ history Call.act (update r).state _)) _
    rw [deeds_append, ← List.append_assoc, ← Nat.add_assoc, Nat.add_right_comm]
    exact ih (abreast.step ok) calm

/-- Where plugins have been looked for and managers have been started, everyone aboard is ready for frames. -/
theorem abreast_started (config : RuntimeConfig) (exeDir : Path) (logger : Log.Filter) (site : Site M)
    (calm : Calm (ofConfig config exeDir logger).1 [.preInit site, .init site]) :
    let fresh : Runtime M := (ofConfig config exeDir logger).1
    let opening := [Call.preInit site, .init site]
    effective fresh opening = opening ∧
      ∃ crew, Abreast crew 0 (deeds (history Call.act fresh opening)) (reached Call.act fresh opening) := by
  intro fresh opening
  obtain ⟨looked, calm⟩ := calm.tail
  obtain ⟨started, -⟩ := calm.tail
  obtain ⟨count, looked⟩ := ok_of_void looked
  have nobody : Boarding (fun _ _ => False) [] fresh.platform :=
    ⟨[], Controller.holds_new _, nofun, fun _ _ => Or.inl nofun, fun _ _ => rfl⟩
  have loaded := (stage_preInit (Platform.leads_discover (leads_load site))).of_ok ⟨nobody, rfl, rfl⟩ looked
  obtain ⟨⟨crew, chronicle⟩, state, frame⟩ :=
    (stage_init_loaded (leads_dispatch .init) (leads_dispatch .postInit)).of_ok loaded started
  have past : deeds (history Call.act fresh opening) =
      [] ++ deeds (preInit site fresh).trace ++ deeds (init site (preInit site fresh).state).trace := by
    simp [opening, history, Call.act, Action.void]
  have heeded : Call.heeded (preInit site fresh).state (.init site) := by simp [Call.heeded, loaded.2.1]
  rw [past]
  refine ⟨?_, crew, chronicle, state, frame⟩
  change [Call.preInit site] ++ ((if Call.heeded (preInit site fresh).state (.init site) then _ else _) ++ []) = _
  rw [if_pos heeded]
  rfl

/-- The shutdown after the last frame ends the story of everyone aboard, and the end of the runtime adds nothing. -/
theorem Abreast.ended (abreast : Abreast crew updates past r) (ok : (shutdown r).result = .ok ()) :
    (shutdown r).state.state = .stopped ∧ deeds (drop (shutdown r).state).trace = [] ∧
      ∀ m, r.controller.Employs m →
        story m (past ++ deeds (shutdown r).trace) = aboard true updates m ++ parting m := by
  have chronicle := abreast.1
  have up : RuntimeState.running ≠ .stopped := nofun
  obtain ⟨last, stopped, -⟩ := (stage_shutdown leads_releaseAll up).of_ok abreast ok
  refine ⟨stopped, deeds_drop_of_stopped stopped last.holds, fun m employed => ?_⟩
  obtain ⟨x, member, rfl⟩ := List.mem_map.mp ((chronicle.holds.employs_iff m).mp employed)
  rcases last.absent x.id (by simp) with unheard | nobody | ⟨-, whole⟩
  · refine absurd ?_ (unheard .attach)
    rw [story_append, chronicle.present x member]
    exact List.mem_append_left _ List.mem_cons_self
  · exact nobody.elim
  · exact whole

end Runtime

end PluginHost
