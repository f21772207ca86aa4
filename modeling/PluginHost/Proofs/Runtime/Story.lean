import PluginHost.Proofs.Controller.Release

namespace PluginHost

/-- The event is a hook that the manager hears, or its end. -/
def Event.befalls (m : ManagerId) : Event → Bool
  | .called other _ | .destroyed other => other = m
  | _ => false

/-- What befalls a manager in a trace. -/
def story (m : ManagerId) (trace : List Event) : List Event := trace.filter (·.befalls m)

/-- A manager hears the hooks of some phases. -/
def hears (phases : List Phase) (m : ManagerId) : List Event :=
  phases.map fun phase => .called m (.phase phase)

@[simp]
theorem story_append (m : ManagerId) (first second : List Event) :
    story m (first ++ second) = story m first ++ story m second :=
  List.filter_append ..

theorem story_deeds (m : ManagerId) (trace : List Event) : story m (deeds trace) = story m trace := by
  unfold story deeds
  rw [List.filter_filter]
  apply List.filter_congr
  intro e _
  cases e <;> simp [Event.befalls]

theorem story_of_own {m : ManagerId} {trace : List Event} (own : ∀ e ∈ trace, e.befalls m) :
    story m trace = trace :=
  List.filter_eq_self.mpr own

theorem story_of_other {m : ManagerId} {trace : List Event} (other : ∀ e ∈ trace, e.befalls m = false) :
    story m trace = [] := by
  simpa [story, List.filter_eq_nil_iff] using other

/-- Each of some managers has its own part in a trace. -/
theorem story_flatMap {part : ManagerId → List Event} (own : ∀ m, ∀ e ∈ part m, ∀ n, e.befalls n ↔ m = n)
    {ms : List ManagerId} (nodup : ms.Nodup) (m : ManagerId) :
    story m (ms.flatMap part) = if m ∈ ms then part m else [] := by
  induction ms with
  | nil => rfl
  | cons n ms ih =>
    obtain ⟨once, nodup⟩ := List.nodup_cons.mp nodup
    rw [List.flatMap_cons, story_append, ih nodup]
    by_cases here : n = m
    · subst here
      rw [story_of_own fun e member => (own n e member n).mpr rfl]
      simp [once]
    · rw [story_of_other fun e member => Bool.eq_false_iff.mpr fun befalls =>
        here ((own n e member m).mp befalls)]
      simp [Ne.symm (a := n) here]

theorem befalls_of_hears {phases : List Phase} {m : ManagerId} {e : Event} (heard : e ∈ hears phases m)
    (n : ManagerId) : e.befalls n ↔ m = n := by
  obtain ⟨phase, -, rfl⟩ := List.mem_map.mp heard
  simp [Event.befalls]

variable {crew : List Member}

/-- In a dispatch each member hears the phase once. -/
theorem story_dispatch (ids : (crew.map (·.id)).Nodup) (phase : Phase) (m : ManagerId) :
    story m (Controller.summons (crew.map (·, phase))) =
      if m ∈ crew.map (·.id) then hears [phase] m else [] := by
  have parts : Controller.summons (crew.map (·, phase)) = (crew.map (·.id)).flatMap (hears [phase]) := by
    rw [Controller.summons, List.map_map, List.flatMap_map]
    exact List.map_eq_flatMap
  rw [parts]
  exact story_flatMap (fun m e heard => befalls_of_hears heard) ids m

/-- In a dismissal each member hears the two release phases, one directly after the other. -/
theorem story_partings (ids : (crew.map (·.id)).Nodup) (m : ManagerId) :
    story m (Controller.summons (Controller.partings crew)) =
      if m ∈ crew.map (·.id) then hears [.release, .postRelease] m else [] := by
  have parts : Controller.summons (Controller.partings crew) =
      (crew.map (·.id)).flatMap (hears [.release, .postRelease]) := by
    rw [Controller.summons, Controller.partings, List.map_flatMap, List.flatMap_map]
    rfl
  rw [parts]
  exact story_flatMap (fun m e heard => befalls_of_hears heard) ids m

theorem story_destroyed {gone : List ManagerId} (nodup : gone.Nodup) (m : ManagerId) :
    story m (gone.map .destroyed) = if m ∈ gone then [.destroyed m] else [] := by
  have parts : gone.map Event.destroyed = gone.flatMap fun m => [.destroyed m] := List.map_eq_flatMap
  rw [parts]
  exact story_flatMap (by simp [Event.befalls]) nodup m

end PluginHost
