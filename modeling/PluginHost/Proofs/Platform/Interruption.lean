import PluginHost.Manager.Scripted
import PluginHost.Proofs.Controller.Interruption
import PluginHost.Proofs.Controller.Offer
import PluginHost.Proofs.Platform.Outliving

namespace PluginHost.Platform

open Controller

variable {M : Type} [Manager M] {p : Platform M} {crew : List Member} {adrift : Set LibraryId}

/-- What a host does with plugins and managers, with a manager that it borrows, and with the settings. -/
inductive Move (M : Type) where
  | call (call : Call M)
  | callOne (key : TypeKey) (phase : Phase)
  | change (key : TypeKey) (f : M → M)
  | configure (f : Holder → Holder)
  | setBlacklist (names : List String)

def Move.act : Move M → Action (Platform M) Unit
  | call asked => asked.act
  | callOne key phase => (onController (dispatchOne key phase)).void
  | change key f => onController (.modify fun c => c.change key f)
  | configure f => onController (.modify fun c => { c with holder := f c.holder })
  | setBlacklist names => modifyCatalogue (·.setBlacklist names)

/-- A move keeps the platform afloat, as the calls do that it is made of. -/
theorem Move.keeps (move : Move M) : move.act.Keeps (Afloat adrift) := by
  rw [Action.keeps_iff]
  rintro past p ⟨crew, moored⟩
  cases move with
  | call asked => exact Action.keeps_iff.mp asked.keeps past p ⟨crew, moored⟩
  | callOne key phase =>
    obtain ⟨same, offered, done, heard⟩ := dispatchOne_spec moored.holds key phase
    have trace : deeds ((Move.callOne key phase).act p).trace = summons done := heard
    rw [trace]
    exact ⟨crew, moored.summon done same offered rfl⟩
  | change key f =>
    obtain ⟨same, offered⟩ := holds_change moored.holds key f
    have moved := moored.summon (q := ⟨p.controller.change key f, p.catalogue⟩) [] same offered rfl
    exact ⟨crew, moved⟩
  | configure f =>
    have same : ({ p.controller with holder := f p.controller.holder } : Controller M).Holds crew :=
      moored.holds.of_registry moored.holds.toHolds rfl le_rfl
    exact ⟨crew, moored.summon (q := ⟨_, p.catalogue⟩) [] same rfl rfl⟩
  | setBlacklist names =>
    change Afloat adrift (past ++ []) ⟨p.controller, p.catalogue.setBlacklist names⟩
    rw [List.append_nil]
    exact ⟨crew, moored.unmoor rfl rfl fun name ns library berth => berth⟩

/-- Nothing but the release of its namespace can break the unloading of a plugin off. -/
theorem unload_error {name : String} {record : PluginRecord M}
    (found : p.catalogue.plugins[name]? = some record) (dynamic : record.info.origin ≠ .static) (panic : Panic) :
    ((Controller.releaseNamespace record.info.ns p.controller).result = .error panic →
        (unload name).void p = onController (Controller.releaseNamespace record.info.ns) p) ∧
      (((unload name).void p).result = .error panic →
        (Controller.releaseNamespace record.info.ns p.controller).result = .error panic) := by
  have whole := unload_eq found dynamic
  unfold Action.void
  rw [whole, onController_run]
  cases result : (Controller.releaseNamespace record.info.ns p.controller).result with
  | error other => exact ⟨fun _ => rfl, fun error => error⟩
  | ok _ => exact ⟨nofun, nofun⟩

/-- What takes the managers through hooks. -/
inductive Drive where
  | dispatch (phase : Phase)
  | releaseNamespace (ns : Namespace)
  | releaseAll
  | unload (name : String)

namespace Drive

def call : Drive → Call M
  | dispatch phase => .dispatch phase
  | releaseNamespace ns => .releaseNamespace ns
  | releaseAll => .releaseAll
  | unload name => .unload name

/-- The hooks that are due, in order. A plugin that is compiled in is not unloaded. -/
def plan (p : Platform M) : Drive → List (Member × Phase)
  | dispatch phase => p.controller.crew.map (·, phase)
  | releaseNamespace ns => partings (p.controller.crew.filter fun x => ns.covers x.ns)
  | releaseAll => p.controller.crew.map (·, .release) ++ p.controller.crew.map (·, .postRelease)
  | unload name =>
    match p.catalogue.plugins[name]? with
    | none => []
    | some record =>
      if record.info.origin = .static then []
      else partings (p.controller.crew.filter fun x => record.info.ns.covers x.ns)

omit [Manager M] in
theorem plan_congr {q : Platform M} (crew : q.controller.crew = p.controller.crew)
    (catalogue : q.catalogue = p.catalogue) (drive : Drive) : drive.plan q = drive.plan p := by
  cases drive <;> simp only [plan, crew, catalogue]

/-- A drive breaks off where an operation on the managers does, and leaves what that leaves. -/
theorem follows (holds : p.controller.Holds crew) (drive : Drive) :
    ∃ x : Action (Controller M) Unit, Follows x p.controller crew (drive.plan p) ∧
      (∀ panic, (x p.controller).result = .error panic → drive.call.act p = onController x p) ∧
      ∀ panic, (drive.call.act p).result = .error panic → (x p.controller).result = .error panic := by
  have same := holds.crew_eq
  cases drive with
  | dispatch phase =>
    refine ⟨Controller.dispatch phase, ?_, fun _ _ => rfl, fun _ error => error⟩
    simpa only [plan, same] using follows_dispatch holds phase
  | releaseNamespace ns =>
    refine ⟨Controller.releaseNamespace ns, ?_, fun _ _ => rfl, fun _ error => error⟩
    simpa only [plan, same] using follows_releaseNamespace holds ns
  | releaseAll =>
    refine ⟨Controller.releaseAll, ?_, fun _ _ => rfl, fun _ error => error⟩
    simpa only [plan, same] using follows_releaseAll holds
  | unload name =>
    have nothing : Follows (pure ()) p.controller crew [] := ⟨nofun, pure, rfl, fun _ _ => ⟨(), rfl⟩⟩
    rcases found : p.catalogue.plugins[name]? with _ | record
    · refine ⟨pure (), by simpa only [plan, found] using nothing, nofun, fun panic error => ?_⟩
      simp [call, Call.act, Action.void, Platform.unload, found, Except.map] at error
    · by_cases compiled : record.info.origin = .static
      · refine ⟨pure (), by simpa only [plan, found, compiled, if_true] using nothing, nofun, fun panic error => ?_⟩
        simp [call, Call.act, Action.void, Platform.unload, found, compiled, Except.map] at error
      · have broken := unload_error found compiled
        refine ⟨Controller.releaseNamespace record.info.ns, ?_, fun panic => (broken panic).1,
          fun panic => (broken panic).2⟩
        simpa only [plan, same, found, compiled, if_false] using follows_releaseNamespace holds record.info.ns

variable {panic : Panic}

theorem breaks (holds : p.controller.Holds crew) (drive : Drive)
    (error : (drive.call.act p).result = .error panic) :
    ∃ done step rest, drive.plan p = done ++ step :: rest ∧ p.controller.Breaks done step panic := by
  obtain ⟨x, follows, -, only⟩ := drive.follows holds
  exact follows.breaks holds (only panic error)

/-- A drive is broken off at the first hook of its plan that panics, with everyone where they were. -/
theorem interrupted (holds : p.controller.Holds crew) (drive : Drive) {done rest : List (Member × Phase)}
    {step : Member × Phase} (planned : drive.plan p = done ++ step :: rest)
    (breaks : p.controller.Breaks done step panic) :
    let run := drive.call.act p
    run.result = .error panic ∧ p.controller.Unmoved run.state.controller ∧
      run.state.catalogue = p.catalogue ∧ deeds run.trace = summons (done ++ [step]) := by
  obtain ⟨x, follows, same, -⟩ := drive.follows holds
  rw [planned] at follows
  obtain ⟨error, unmoved, trace⟩ := follows.interrupted holds breaks
  have run := same panic error
  rw [run]
  exact ⟨error, unmoved, rfl, trace⟩

end Drive

/-- After any moves the crew is known. -/
theorem holds_of_moves (holder : Holder) (config : PluginConfig) (pluginDir : Path) (moves : List (Move M)) :
    ∃ crew, (Action.reached Move.act (fresh holder config pluginDir) moves).controller.Holds crew := by
  obtain ⟨crew, moored⟩ := Action.Keeps.run Move.keeps ⟨[], moored_fresh holder config pluginDir⟩ moves
  exact ⟨crew, moored.holds⟩

/-- A phase or a teardown panics only where a hook does. The hooks up to that one have been called then and
nothing else has happened, so everyone is registered as before, every plugin with its library too, and the
same hooks are due if a host asks again. A manager that panics over the holder is destroyed. -/
theorem unchanged_by_panics (holder : Holder) (config : PluginConfig) (pluginDir : Path)
    (moves : List (Move M)) :
    let p := Action.reached Move.act (fresh holder config pluginDir) moves
    (∀ (drive : Drive) panic,
      let run := drive.call.act p
      (run.result = .error panic →
        ∃ done step rest, drive.plan p = done ++ step :: rest ∧ p.controller.Breaks done step panic) ∧
      ∀ done step rest, drive.plan p = done ++ step :: rest → p.controller.Breaks done step panic →
        run.result = .error panic ∧
          deeds run.trace = summons (done ++ [step]) ∧
          run.state.controller.typeKeys = p.controller.typeKeys ∧
          (∀ key, run.state.controller.namespaceOf? key = p.controller.namespaceOf? key) ∧
          run.state.controller.crew = p.controller.crew ∧
          run.state.catalogue = p.catalogue ∧
          ∀ again : Drive, again.plan run.state = again.plan p) ∧
      ∀ key (manager : M) ns library panic, ¬ p.controller.contains key →
        (Manager.hook .attach manager p.controller.holder).panic? = some panic →
          let run := addExt key manager ns library p.controller
          run.result = .error panic ∧
            run.state = { p.controller with
              holder := (Manager.hook .attach manager p.controller.holder).holder
              offered := p.controller.offered + 1 } ∧
            deeds run.trace = [.offered ⟨p.controller.offered⟩ library,
              .called ⟨p.controller.offered⟩ .attach, .destroyed ⟨p.controller.offered⟩] := by
  intro p
  obtain ⟨crew, holds⟩ := holds_of_moves holder config pluginDir moves
  refine ⟨fun drive panic => ⟨drive.breaks holds, fun done step rest planned breaks => ?_⟩, ?_⟩
  · obtain ⟨error, unmoved, catalogue, trace⟩ := drive.interrupted holds planned breaks
    exact ⟨error, trace, unmoved.order, unmoved.namespaceOf?, unmoved.crew_eq, catalogue,
      Drive.plan_congr unmoved.crew_eq catalogue⟩
  · exact fun key manager ns library panic free panics => addExt_of_panic free panics ns library

/-- The second of two hooks panics while a plugin is unloaded. -/
theorem unchanged_by_panics_unload :
    let clerk : Scripted :=
      { key := ⟨"desk::Clerk"⟩, label := "clerk", script := { panicIn? := some (.phase .postRelease) } }
    let files : Files := ⟨fun _ => true, fun _ => .ok "", fun _ => none⟩
    let site : Site Scripted := ⟨files, fun _ => .ok ⟨fun _ => some (enter fun holder => ⟨.ok clerk, holder, []⟩)⟩⟩
    let p := Action.reached Move.act (fresh ⟨.empty, ⟨[]⟩, ⟨[]⟩, .off⟩ {} ⟨[]⟩) [.call (.load site ⟨[98]⟩)]
    let run := (Drive.unload "b").call.act p
    run.result = .error ⟨"clerk#0 post_release"⟩ ∧
      deeds run.trace = [.called ⟨0⟩ (.phase .release), .called ⟨0⟩ (.phase .postRelease)] ∧
      run.state.controller.typeKeys = [clerk.key] ∧ run.state.catalogue = p.catalogue := by
  intro clerk files site p run
  let x : Member := ⟨clerk.key, ⟨0⟩, .plugin 1⟩
  have planned : (Drive.unload "b").plan p = [(x, .release)] ++ (x, .postRelease) :: [] := by decide +kernel
  have breaks : p.controller.Breaks [(x, .release)] (x, .postRelease) ⟨"clerk#0 post_release"⟩ :=
    ⟨by decide +kernel, (call_eq_error_iff x.key .postRelease).mp (by decide +kernel)⟩
  obtain ⟨error, trace, keys, -, -, catalogue, -⟩ :=
    ((unchanged_by_panics ⟨.empty, ⟨[]⟩, ⟨[]⟩, .off⟩ {} ⟨[]⟩ [.call (.load site ⟨[98]⟩)]).1 (.unload "b")
      ⟨"clerk#0 post_release"⟩).2 _ _ _ planned breaks
  exact ⟨error, trace, keys.trans (by decide +kernel), catalogue⟩

end PluginHost.Platform
