import PluginHost.Manager.Heartbeat
import PluginHost.Proofs.Runtime.Parts

namespace PluginHost

namespace Phase

/-- Whether the phase belongs to the updates of a frame. -/
def inFrame : Phase → Bool
  | preUpdate | update | postUpdate => true
  | init | postInit | release | postRelease => false

/-- The phases of an initialisation. -/
def opening : List Phase := [init, postInit]

end Phase

variable {M : Type} {late : ManagerId → Prop} {done more phases : List Phase} {past new : List Event}

/-- A manager has heard the hooks of some phases. -/
def Told (done : List Phase) (m : ManagerId) (past : List Event) : Prop :=
  ∀ phase ∈ done, .called m (.phase phase) ∈ past

theorem Told.later {m : ManagerId} (told : Told done m past) (first : past ⊆ new) : Told done m new :=
  fun phase listed => first (told phase listed)

/-- Nobody who is not late is taken through a frame before the initialisation. -/
def Prompt (late : ManagerId → Prop) (past : List Event) : Prop :=
  ∀ before after m phase, past = before ++ .called m (.phase phase) :: after → phase.inFrame →
    Told Phase.opening m before ∨ late m

theorem prompt_nil : Prompt late [] := by
  intro before after m phase split
  cases before <;> cases split

/-- What follows is prompt when every frame call in it goes to a manager told before or to a latecomer. -/
theorem Prompt.append (prompt : Prompt late past)
    (next : ∀ m phase, .called m (.phase phase) ∈ new → phase.inFrame → Told Phase.opening m past ∨ late m) :
    Prompt late (past ++ new) := by
  intro before after m phase split frame
  rcases List.append_eq_append_iff.mp split with ⟨middle, rfl, here⟩ | ⟨middle, rfl, here⟩
  · have called : .called m (.phase phase) ∈ new := by simp [here]
    exact (next m phase called frame).imp_left fun told => told.later (List.subset_append_left ..)
  · cases middle with
    | nil =>
      have called : .called m (.phase phase) ∈ new := by
        rw [show new = .called m (.phase phase) :: after from here.symm]
        exact List.mem_cons_self
      rw [List.append_nil] at next
      exact next m phase called frame
    | cons e middle =>
      obtain ⟨rfl, -⟩ := List.cons.inj here
      exact prompt before middle m phase rfl frame

theorem prompt_deeds {trace : List Event} (prompt : Prompt late (deeds trace)) : Prompt late trace := by
  rintro before after m phase rfl frame
  have told := prompt (deeds before) (deeds after) m phase (by simp) frame
  exact told.imp_left fun told => told.later (List.filter_subset_self before)

/-- Everyone aboard who is not late has heard the hooks of some phases. -/
structure Ready (late : ManagerId → Prop) (done : List Phase) (past : List Event) (p : Platform M) : Prop where
  prompt : Prompt late past
  crew : ∃ crew, p.controller.Holds crew ∧ ∀ x ∈ crew, Told done x.id past ∨ late x.id

variable {p : Platform M}

theorem Ready.mono (ready : Ready late done past p) (fewer : more ⊆ done) : Ready late more past p := by
  obtain ⟨crew, holds, told⟩ := ready.crew
  refine ⟨ready.prompt, crew, holds, fun x member => (told x member).imp_left fun told phase listed => ?_⟩
  exact told phase (fewer listed)

namespace Platform

open Controller

/-- What calls no hook of a frame, or is done when everyone has been initialised, keeps everyone ready. -/
theorem Passes.ready {α : Type} {x : Action (Platform M) α} (passes : Passes phases x)
    (ready : Ready late done past p)
    (framed : ∀ phase ∈ phases, phase.inFrame → Phase.opening ⊆ done)
    (offers : ∀ m library, .offered m library ∈ (x p).trace → done = [] ∨ late m) :
    Ready late done (past ++ deeds (x p).trace) (x p).state := by
  obtain ⟨crew, holds, told⟩ := ready.crew
  obtain ⟨crew', aboard, passage⟩ := passes p crew holds
  refine ⟨ready.prompt.append fun m phase called frame => ?_, crew', aboard, fun x member => ?_⟩
  · obtain ⟨listed, there⟩ := passage.called m phase called
    obtain ⟨x, member, rfl⟩ := List.mem_map.mp there
    refine (told x member).imp_left fun heard => ?_
    exact fun phase' due => heard phase' (framed phase listed frame due)
  · rcases passage.kept x member with old | ⟨-, library, offered⟩
    · exact (told x old).imp_left fun heard => heard.later (List.subset_append_left ..)
    · refine (offers _ library (mem_deeds.mp offered).1).imp_left ?_
      rintro rfl
      exact nofun

variable [Manager M]

/-- A call to the platform keeps the crew ready when its frame calls come after the opening and nobody boards. -/
theorem keeps_ready (call : Call M) (framed : ∀ phase ∈ call.phases, phase.inFrame → Phase.opening ⊆ done)
    (offers : done = [] ∨ ∀ (p : Platform M) crew, p.controller.Holds crew → ∀ m library,
      .offered m library ∉ (call.act p).trace) : call.act.Keeps (Ready late done) := by
  refine Action.keeps_iff.mpr fun past p ready => call.passes.ready ready framed fun m library offered => ?_
  rcases offers with nothing | nobody
  · exact .inl nothing
  · obtain ⟨crew, holds, -⟩ := ready.crew
    exact absurd offered (nobody p crew holds m library)

theorem keeps_ready_drive (drive : Drive)
    (framed : ∀ phase ∈ drive.phases, phase.inFrame → Phase.opening ⊆ done) :
    (drive.call.act : Action (Platform M) Unit).Keeps (Ready late done) := by
  refine keeps_ready drive.call ?_ (.inr fun p crew holds => drive.offers_nothing holds)
  cases drive <;> exact framed

/-- A phase that returns has been through the whole crew. -/
theorem ready_dispatch {phase : Phase} (opens : phase.inFrame = false) :
    (onController (dispatch phase) : Action (Platform M) Unit).Leads (Ready late done)
      (Ready late (done ++ [phase])) (Ready late []) := by
  intro past p ready
  have kept : Ready late done (past ++ deeds (dispatch phase p.controller).trace)
      { p with controller := (dispatch phase p.controller).state } :=
    Action.keeps_iff.mp (keeps_ready_drive (.dispatch phase) (by simp [Drive.phases, opens])) past p ready
  obtain ⟨crew, holds, told⟩ := ready.crew
  obtain ⟨same, -, called, -, trace, all⟩ := dispatch_spec holds phase
  rw [onController_run]
  dsimp only
  rcases result : (dispatch phase p.controller).result with panic | _
  · exact kept.mono (List.nil_subset _)
  · rw [trace, all result]
    rw [trace, all result] at kept
    refine ⟨kept.prompt, crew, same, fun x member => (told x member).imp_left fun heard step due => ?_⟩
    rcases List.mem_append.mp due with early | last
    · exact List.mem_append_left _ (heard step early)
    · obtain rfl := List.mem_singleton.mp last
      refine List.mem_append_right _ (List.mem_map.mpr ⟨(x, step), ?_, rfl⟩)
      exact List.mem_map_of_mem member

end Platform

namespace Runtime

open PluginHost.Action

/-- What everyone aboard has heard in a state of the runtime. -/
def briefing (state : RuntimeState) : List Phase := if state = .running then Phase.opening else []

theorem briefing_of_ne {state : RuntimeState} (waits : state ≠ .running) : briefing state = [] := if_neg waits

variable [Manager M] {r : Runtime M}

/-- An initialisation that returns has initialised everyone. -/
theorem ready_init {site : Site M} (heeded : (Call.init site).heeded r)
    (ready : Ready late [] past r.platform) (ok : (init site r).result = .ok ()) :
    Ready late Phase.opening (past ++ deeds (init site r).trace) (init site r).state.platform := by
  have first : (Platform.onController (Controller.dispatch .init) : Action (Platform M) Unit).Leads
      (Ready late []) (Ready late [.init]) (Ready late []) := Platform.ready_dispatch rfl
  have second : (Platform.onController (Controller.dispatch .postInit) : Action (Platform M) Unit).Leads
      (Ready late [.init]) (Ready late Phase.opening) (Ready late []) := Platform.ready_dispatch rfl
  by_cases created : r.state = .created
  · have discovers : (Platform.discover site).Keeps (Ready late []) :=
      keeps_void.mp (Platform.keeps_ready (.discover site) nofun (.inl rfl))
    exact ((stage_init_created discovers first second).of_ok ⟨ready, created, rfl⟩ ok).1
  · have loaded : r.state = .loaded := by simpa [Call.heeded, created] using heeded
    exact ((stage_init_loaded first second).of_ok ⟨ready, loaded, rfl⟩ ok).1

/-- No call but a registration lets anyone aboard who has not been told what the others have. -/
theorem keeps_briefing {call : Call M} (heeded : call.heeded r ∨ call = .drop)
    (other : ∀ manager, call ≠ .addStatic manager) :
    ∀ part ∈ call.parts, part.act.Keeps (Ready late (briefing r.state)) := by
  intro part played
  have discovers (site : Site M) (waits : r.state ≠ .running) :
      (Platform.Call.discover site).act.Keeps (Ready late (briefing r.state)) :=
    Platform.keeps_ready (.discover site) nofun (.inl (briefing_of_ne waits))
  have drives (drive : Platform.Drive)
      (framed : ∀ phase ∈ drive.phases, phase.inFrame → Phase.opening ⊆ briefing r.state) :
      (drive.call.act : Action (Platform M) Unit).Keeps (Ready late (briefing r.state)) :=
    Platform.keeps_ready_drive drive framed
  cases call with
  | addStatic manager => exact absurd rfl (other manager)
  | preInit site =>
    have created : r.state = .created := by simpa [Call.heeded] using heeded
    obtain rfl := List.mem_singleton.mp played
    exact discovers site (by simp [created])
  | init site =>
    have waits : r.state ≠ .running := by
      rintro running
      simp [Call.heeded, running] at heeded
    simp only [Call.parts, List.mem_cons, List.not_mem_nil, or_false] at played
    rcases played with rfl | rfl | rfl
    · exact discovers site waits
    · exact drives (.dispatch .init) (by simp [Platform.Drive.phases, Phase.inFrame])
    · exact drives (.dispatch .postInit) (by simp [Platform.Drive.phases, Phase.inFrame])
  | update =>
    have running : r.state = .running := by simpa [Call.heeded] using heeded
    have told : Phase.opening ⊆ briefing r.state := by simp [briefing, running]
    simp only [Call.parts, List.mem_cons, List.not_mem_nil, or_false] at played
    rcases played with rfl | rfl | rfl
    · exact drives (.dispatch .preUpdate) fun _ _ _ => told
    · exact drives (.dispatch .update) fun _ _ _ => told
    · exact drives (.dispatch .postUpdate) fun _ _ _ => told
  | unload name =>
    obtain rfl := List.mem_singleton.mp played
    exact drives (.unload name) (by simp [Platform.Drive.phases, Phase.inFrame])
  | shutdown =>
    obtain rfl := List.mem_singleton.mp played
    exact drives .releaseAll (by simp [Platform.Drive.phases, Phase.inFrame])
  | drop =>
    simp only [Call.parts, List.mem_cons, List.not_mem_nil, or_false] at played
    rcases played with rfl | rfl | rfl
    · exact drives .releaseAll (by simp [Platform.Drive.phases, Phase.inFrame])
    · -- the end of the controller destroys managers, and offers none
      refine Platform.keeps_ready .dropController (by simp [Platform.Call.phases])
        (.inr fun p crew holds m library offered => ?_)
      have deed := mem_deeds.mpr ⟨offered, rfl⟩
      rw [Platform.Call.act, Platform.onController_run, Controller.drop, (Controller.clear_spec holds).2.2.2] at deed
      simp at deed
    · refine Platform.keeps_ready .dropCatalogue (by simp [Platform.Call.phases])
        (.inr fun p crew holds m library offered => ?_)
      cases offered

/-- Everyone aboard a runtime has been told what its state asks for, but for those who are late. -/
def Briefed (late : ManagerId → Prop) (past : List Event) (r : Runtime M) : Prop :=
  Ready late (briefing r.state) past r.platform

/-- Those who are registered while the others are updated are late. -/
theorem Briefed.step (briefed : Briefed late past r) (call : Call M)
    (latecomers : ∀ manager, call = .addStatic manager → r.state = .running →
      ∀ m library, .offered m library ∈ (call.act r).trace → late m) :
    Briefed late (past ++ deeds (call.act r).trace) (call.act r).state := by
  by_cases adds : ∃ manager, call = .addStatic manager
  · obtain ⟨manager, rfl⟩ := adds
    refine (Platform.passes_addStatic manager).ready briefed nofun fun m library offered => ?_
    by_cases running : r.state = .running
    · exact .inr (latecomers manager rfl running m library offered)
    · exact .inl (briefing_of_ne running)
  have other : ∀ manager, call ≠ .addStatic manager := fun manager same => adds ⟨manager, same⟩
  by_cases unheeded : call.heeded r = false ∧ call ≠ .drop
  · obtain ⟨same, trace⟩ := ignored unheeded.1 unheeded.2
    rw [same, trace, List.append_nil]
    exact briefed
  have heeded : call.heeded r ∨ call = .drop := by
    rcases not_and_or.mp unheeded with heeded | goes
    · exact .inl (by simpa using heeded)
    · exact .inr (not_not.mp goes)
  have kept : Ready late (briefing r.state) (past ++ deeds (call.act r).trace) (call.act r).state.platform :=
    keeps_iff.mp (keeps_of_parts (keeps_briefing heeded other)) past r briefed
  by_cases running : (call.act r).state.state = .running
  · rcases running_of_act running with before | ⟨⟨site, rfl⟩, ok⟩
    · rwa [Briefed, running, ← before]
    · have told := ready_init (heeded.resolve_right nofun) (briefed.mono (List.nil_subset _)) ok
      rw [Briefed, running]
      exact told
  · rw [Briefed, briefing_of_ne running]
    exact kept.mono (List.nil_subset _)

/-- Someone who is offered to the runtime while it updates its managers, in the course of some calls. -/
def Late (r : Runtime M) (calls : List (Call M)) (m : ManagerId) : Prop :=
  ∃ before manager later, calls = before ++ .addStatic manager :: later ∧
    (reached Call.act r before).state = .running ∧
    ∃ library, .offered m library ∈ ((Call.addStatic manager).act (reached Call.act r before)).trace

omit [Manager M] in
theorem briefed_fresh (late : ManagerId → Prop) (config : RuntimeConfig) (exeDir : Path) (logger : Log.Filter) :
    Briefed late [] (ofConfig config exeDir logger : Runtime M × List Log.Record).1 :=
  ⟨prompt_nil, [], Controller.holds_new _, nofun⟩

/-- By induction over the calls, every runtime reached is briefed. -/
theorem Briefed.run {calls : List (Call M)} (briefed : Briefed (Late r calls) [] r) {first rest : List (Call M)}
    (split : calls = first ++ rest) :
    Briefed (Late r calls) (deeds (history Call.act r first)) (reached Call.act r first) := by
  induction first using List.reverseRecOn generalizing rest with
  | nil => exact briefed
  | append_singleton first call ih =>
    have here : calls = first ++ call :: rest := by simp [split]
    have next := (ih here).step call fun manager adds running m library offered => by
      subst adds
      exact ⟨first, manager, rest, here, running, library, offered⟩
    simpa [history, reached] using next

/-- Whoever is taken through a frame has been initialised, hook panics or not, unless the runtime took the
manager while it updated the others. -/
theorem updated_after_init (config : RuntimeConfig) (exeDir : Path) (logger : Log.Filter)
    (calls : List (Call M)) :
    let start : Runtime M := (ofConfig config exeDir logger).1
    ∀ before after m phase, history Call.act start calls = before ++ .called m (.phase phase) :: after →
      phase.inFrame →
        (.called m (.phase .init) ∈ before ∧ .called m (.phase .postInit) ∈ before) ∨ Late start calls m := by
  intro start before after m phase split frame
  have briefed := (briefed_fresh (Late start calls) config exeDir logger).run (List.append_nil calls).symm
  refine (prompt_deeds briefed.prompt before after m phase split frame).imp_left fun told => ?_
  exact ⟨told .init (by simp [Phase.opening]), told .postInit (by simp [Phase.opening])⟩

/-- A heartbeat added before the opening hears both opening hooks ahead of its update. -/
theorem updated_after_init_heartbeat :
    let start : Runtime Heartbeat := (ofConfig {} ⟨[]⟩ .off).1
    let site : Site Heartbeat := ⟨⟨fun _ => true, fun _ => .ok "", fun _ => none⟩, fun _ => .error ""⟩
    let trace := history Call.act start [.addStatic (.ofPeriod 1), .init site, .update]
    ∃ before after, trace = before ++ .called ⟨0⟩ (.phase .update) :: after ∧
      .called ⟨0⟩ (.phase .init) ∈ before ∧ .called ⟨0⟩ (.phase .postInit) ∈ before := by
  intro start site trace
  have split : trace = trace.take 11 ++ .called ⟨0⟩ (.phase .update) :: trace.drop 12 := by decide +kernel
  refine ⟨_, _, split, (updated_after_init {} ⟨[]⟩ .off _ _ _ _ _ split rfl).resolve_right ?_⟩
  rintro ⟨first, manager, later, here, running, -⟩
  cases first with
  | nil => cases running
  | cons call first =>
    have member : Call.addStatic manager ∈ [Call.init site, .update] := by
      rw [(List.cons.inj here).2]
      simp
    simp at member

/-- Not everyone who is updated has been initialised. -/
theorem updated_uninitialised :
    ¬ ∀ calls : List (Call Heartbeat),
      let start : Runtime Heartbeat := (ofConfig {} ⟨[]⟩ .off).1
      ∀ before after m phase, history Call.act start calls = before ++ .called m (.phase phase) :: after →
        phase.inFrame → .called m (.phase .init) ∈ before ∧ .called m (.phase .postInit) ∈ before := by
  intro briefed
  let start : Runtime Heartbeat := (ofConfig {} ⟨[]⟩ .off).1
  let site : Site Heartbeat := ⟨⟨fun _ => true, fun _ => .ok "", fun _ => none⟩, fun _ => .error ""⟩
  let calls : List (Call Heartbeat) := [.init site, .addStatic (.ofPeriod 1), .update]
  let trace := history Call.act start calls
  have split : trace = trace.take 7 ++ .called ⟨0⟩ (.phase .preUpdate) :: trace.drop 8 := by decide +kernel
  have told := briefed calls _ _ _ _ split rfl
  have untold : .called ⟨0⟩ (.phase .init) ∉ trace.take 7 := by decide +kernel
  exact untold told.1

end Runtime

end PluginHost
