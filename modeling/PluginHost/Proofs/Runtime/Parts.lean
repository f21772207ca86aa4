import PluginHost.Proofs.Platform.Passage
import PluginHost.Proofs.Runtime.Stage

namespace PluginHost

namespace Action

variable {σ α : Type} {I : List Event → σ → Prop} {x : Action σ α} {y : Action σ Unit}

theorem keeps_void : x.void.Keeps I ↔ x.Keeps I := by
  rw [keeps_iff, keeps_iff]
  rfl

theorem Keeps.andFinally (first : x.Keeps I) (last : y.Keeps I) : (x.andFinally y).Keeps I := by
  rw [keeps_iff] at *
  intro past s start
  have next := last _ _ (first past s start)
  rw [List.append_assoc, ← deeds_append] at next
  exact next

end Action

namespace Runtime

open PluginHost.Action

variable {M : Type} [Manager M] {I : List Event → Platform M → Prop} {r : Runtime M}

/-- The calls on plugins and managers that a call is made of. -/
def Call.parts : Call M → List (Platform.Call M)
  | addStatic manager => [.addStatic manager]
  | preInit site => [.discover site]
  | init site => [.discover site, .dispatch .init, .dispatch .postInit]
  | update => [.dispatch .preUpdate, .dispatch .update, .dispatch .postUpdate]
  | unload name => [.unload name]
  | shutdown => [.releaseAll]
  | drop => [.releaseAll, .dropController, .dropCatalogue]

omit [Manager M] in
theorem keeps_onPlatform {α : Type} {x : Action (Platform M) α} (keeps : x.Keeps I) :
    (onPlatform x).Keeps fun past r => I past r.platform :=
  fun past r start => keeps past r.platform start

omit [Manager M] in
theorem keeps_setState (state : RuntimeState) :
    (setState state : Action (Runtime M) Unit).Keeps fun past r => I past r.platform :=
  leads_modify fun _ _ start => start

theorem keeps_preInit {site : Site M} (discovers : (Platform.discover site).Keeps I) :
    (preInit site).Keeps fun past r => I past r.platform := by
  refine leads_get_bind fun _ r _ => ?_
  split
  · exact leads_log.bind fun _ => leads_pure 0
  · refine (keeps_onPlatform discovers).bind fun count => ?_
    exact (keeps_setState .loaded).bind fun _ => leads_pure count

theorem keeps_start (first : (Platform.onController (Controller.dispatch .init)).Keeps I)
    (second : (Platform.onController (Controller.dispatch .postInit)).Keeps I) :
    (start : Action (Runtime M) Unit).Keeps fun past r => I past r.platform := by
  refine (keeps_onPlatform first).bind fun _ => (keeps_onPlatform second).bind fun _ => ?_
  exact (keeps_setState .running).bind fun _ => leads_get_bind fun _ _ _ => leads_log

theorem keeps_shutdown (releases : (Platform.onController Controller.releaseAll).Keeps I) :
    (shutdown : Action (Runtime M) Unit).Keeps fun past r => I past r.platform := by
  refine leads_get_bind fun _ r _ => ?_
  split
  · refine leads_log.bind fun _ => (keeps_onPlatform releases).bind fun _ => ?_
    exact keeps_setState .stopped
  · exact leads_pure ()

/-- A call of the runtime keeps what each call it makes to the platform keeps. -/
theorem keeps_of_parts {call : Call M} (keeps : ∀ part ∈ call.parts, part.act.Keeps I) :
    call.act.Keeps fun past r => I past r.platform := by
  cases call with
  | addStatic manager =>
    have adds : (Platform.addStatic manager).Keeps I :=
      keeps_void.mp (keeps (.addStatic manager) (by simp [Call.parts]))
    exact keeps_void.mpr (keeps_onPlatform adds)
  | preInit site =>
    have discovers : (Platform.discover site).Keeps I :=
      keeps_void.mp (keeps (.discover site) (by simp [Call.parts]))
    exact keeps_void.mpr (keeps_preInit discovers)
  | init site =>
    have discovers : (Platform.discover site).Keeps I :=
      keeps_void.mp (keeps (.discover site) (by simp [Call.parts]))
    have starts : (start : Action (Runtime M) Unit).Keeps fun past r => I past r.platform :=
      keeps_start (keeps (.dispatch .init) (by simp [Call.parts])) (keeps (.dispatch .postInit) (by simp [Call.parts]))
    refine leads_get_bind fun _ r _ => ?_
    split
    · exact (keeps_preInit discovers).bind fun _ => starts
    · exact starts
    · exact leads_log
    · exact leads_log
  | update =>
    refine leads_get_bind fun _ r _ => ?_
    split
    · refine (keeps_onPlatform (keeps (.dispatch .preUpdate) (by simp [Call.parts]))).bind fun _ => ?_
      refine (keeps_onPlatform (keeps (.dispatch .update) (by simp [Call.parts]))).bind fun _ => ?_
      refine (keeps_onPlatform (keeps (.dispatch .postUpdate) (by simp [Call.parts]))).bind fun _ => ?_
      exact leads_modify fun _ _ start => start
    · exact leads_pure ()
  | unload name =>
    have unloads : (Platform.unload name).Keeps I := keeps_void.mp (keeps (.unload name) (by simp [Call.parts]))
    refine keeps_void.mpr (leads_get_bind fun _ r _ => ?_)
    split
    · exact leads_pure _
    · exact keeps_onPlatform unloads
  | shutdown => exact keeps_shutdown (keeps .releaseAll (by simp [Call.parts]))
  | drop =>
    have clears := keeps_onPlatform (keeps .dropController (by simp [Call.parts]))
    have forgets := keeps_onPlatform (keeps .dropCatalogue (by simp [Call.parts]))
    exact ((keeps_shutdown (keeps .releaseAll (by simp [Call.parts]))).andFinally clears).andFinally forgets

/-- The runtime does not update its managers. -/
def Waits (_ : List Event) (r : Runtime M) : Prop := r.state ≠ .running

omit [Manager M] in
theorem waits_onPlatform {α : Type} (x : Action (Platform M) α) : (onPlatform x).Keeps Waits :=
  leads_always fun _ _ start => start

omit [Manager M] in
theorem waits_setState (state : RuntimeState) (other : state ≠ .running) :
    (setState state : Action (Runtime M) Unit).Keeps Waits :=
  leads_modify fun _ _ _ => other

theorem waits_preInit (site : Site M) : (preInit site).Keeps Waits := by
  refine leads_get_bind fun _ r _ => ?_
  split
  · exact leads_log.bind fun _ => leads_pure 0
  · refine (waits_onPlatform _).bind fun count => ?_
    exact (waits_setState .loaded nofun).bind fun _ => leads_pure count

theorem waits_shutdown : (shutdown : Action (Runtime M) Unit).Keeps Waits := by
  refine leads_get_bind fun _ r _ => ?_
  split
  · exact leads_log.bind fun _ => (waits_onPlatform _).bind fun _ => waits_setState .stopped nofun
  · exact leads_pure ()

/-- A start that panics leaves the runtime where it was. -/
theorem leads_start : (start : Action (Runtime M) Unit).Leads Waits (fun _ _ => True) Waits := by
  refine (waits_onPlatform _).bind fun _ => (waits_onPlatform _).bind fun _ => ?_
  exact (leads_modify fun _ _ _ => trivial : Action.Leads _ (fun _ _ => True) _ _).bind fun _ =>
    leads_get_bind fun _ _ _ => leads_log

theorem leads_init (site : Site M) : (init site).Leads Waits (fun _ _ => True) Waits := by
  refine leads_get_bind fun _ r _ => ?_
  split
  · exact (waits_preInit site).bind fun _ => leads_start
  · exact leads_start
  · exact leads_log.imp (fun _ _ => id) (fun _ _ _ => trivial) fun _ _ => id
  · exact leads_log.imp (fun _ _ => id) (fun _ _ _ => trivial) fun _ _ => id

/-- Only an initialisation that returns takes a runtime to where it updates its managers. -/
theorem running_of_act {call : Call M} (running : (call.act r).state.state = .running) :
    r.state = .running ∨ (∃ site, call = .init site) ∧ (call.act r).result = .ok () := by
  by_cases before : r.state = .running
  · exact .inl before
  have stays (keeps : call.act.Keeps Waits) : False := keeps_iff.mp keeps [] r before running
  cases call with
  | addStatic manager => exact absurd running before
  | preInit site => exact (stays (keeps_void.mpr (waits_preInit site))).elim
  | init site =>
    have next := leads_init site [] r before
    rcases result : (init site r).result with panic | _
    · rw [result] at next
      exact absurd running next
    · exact .inr ⟨⟨site, rfl⟩, result⟩
  | update =>
    have unheeded : Call.heeded r .update = false := by simp [Call.heeded, before]
    rw [(ignored unheeded (by simp)).1] at running
    exact absurd running before
  | unload name =>
    refine (stays (keeps_void.mpr (leads_get_bind fun _ r _ => ?_))).elim
    split
    · exact leads_pure _
    · exact waits_onPlatform _
  | shutdown => exact (stays waits_shutdown).elim
  | drop => exact (stays ((waits_shutdown.andFinally (waits_onPlatform _)).andFinally (waits_onPlatform _))).elim

end Runtime

end PluginHost
