import Mathlib.Data.Set.Function
import PluginHost.Manager.Scripted
import PluginHost.Proofs.Platform.Pairing
import PluginHost.Proofs.Runtime.Stage

namespace PluginHost.Runtime

variable {M : Type} {blocked : Std.ExtTreeSet String compare} {n : Nat} {r : Runtime M}
variable {crew : List Member}

/-- How many libraries a call finds. Only a runtime that is new looks for any. -/
def Call.finds (r : Runtime M) : Call M → Nat
  | preInit site | init site =>
    if r.state = .created then (Platform.libraries site r.catalogue.pluginDir).length else 0
  | addStatic _ | update | unload _ | shutdown | drop => 0

/-- Up to its end a runtime has its plugins and managers in pairs. -/
def Coupled (blocked : Std.ExtTreeSet String compare) (n : Nat) (r : Runtime M) : Prop :=
  r.state ≠ .stopped → r.platform.Coupled blocked n

theorem Call.finds_of_unheeded {call : Call M} (unheeded : call.heeded r = false) : call.finds r = 0 := by
  cases call <;> simp_all [Call.finds, Call.heeded]

/-- What is shown of the platform by stages holds of the runtime, whether the action returns or panics. -/
theorem coupled_of_stage {α : Type} {x : Action (Runtime M) α} {A : List Event → Platform M → Prop}
    {state next : RuntimeState} {frame since : UInt64}
    (leads : x.Leads (Stage A state frame) (Stage (fun _ p => p.Coupled blocked n) next since)
      fun _ r => r.platform.Coupled blocked n)
    (start : Stage A state frame [] r) : (x r).state.platform.Coupled blocked n :=
  (leads.imp (fun _ _ => id) (fun _ _ => And.left) fun _ _ => id).either [] start

theorem coupled_fresh (config : RuntimeConfig) (exeDir : Path) (logger : Log.Filter) :
    (ofConfig config exeDir logger : Runtime M × _).1.Coupled config.plugins.blacklist 0 :=
  fun _ => ⟨[], Controller.holds_new _, paired_fresh _ _, Nat.le_refl _⟩

/-- The managers of the listed plugins are the managers that the controller holds, one for each plugin. -/
theorem bijOn_of_paired (holds : r.controller.Holds crew) (paired : Paired blocked crew r.catalogue) :
    Set.BijOn (fun name => (r.catalogue.info? name).map (·.manager)) {name | name ∈ r.catalogue.pluginNames}
      (some '' {key | key ∈ r.controller.typeKeys}) := by
  have order : r.controller.typeKeys = crew.map (·.key) := holds.order
  have named := r.catalogue.mem_pluginNames
  refine ⟨?_, ?_, ?_⟩
  · intro name member
    obtain ⟨info, found⟩ := (named name).mp member
    obtain ⟨x, aboard, key, -⟩ := paired.manned found
    exact ⟨info.manager, order ▸ List.mem_map.mpr ⟨x, aboard, key⟩, by simp [found]⟩
  · intro name member other member' alike
    obtain ⟨info, found⟩ := (named name).mp member
    obtain ⟨info', found'⟩ := (named other).mp member'
    exact paired.single found found' (by simpa [found, found'] using alike)
  · rintro _ ⟨key, listed, rfl⟩
    obtain ⟨x, aboard, rfl⟩ := List.mem_map.mp (order ▸ listed)
    obtain ⟨name, info, found, own, -⟩ := paired.listed x aboard
    exact ⟨name, (named name).mpr ⟨info, found⟩, by simp [found, own]⟩

/-- A plugin from a library has a number that is not zero and that no other has, and its name is allowed. -/
theorem loaded_of_paired (paired : Paired blocked crew r.catalogue) {name : String} {info : PluginInfo}
    (found : r.catalogue.info? name = some info) (dynamic : info.origin ≠ .static) :
    info.ns.pluginId ≠ 0 ∧ name ∉ blocked ∧
      ∀ other info', r.catalogue.info? other = some info' → info'.origin ≠ .static →
        info'.ns.pluginId = info.ns.pluginId → other = name := by
  obtain ⟨allowed, id, own, nonzero, -⟩ := paired.loaded found dynamic
  refine ⟨by rwa [own, Namespace.pluginId_plugin], allowed, fun other info' found' dynamic' same => ?_⟩
  obtain ⟨-, id', own', -⟩ := paired.loaded found' dynamic'
  rw [own, own', Namespace.pluginId_plugin, Namespace.pluginId_plugin] at same
  exact paired.apart found' found dynamic' dynamic (own'.trans (same ▸ own.symm))

/-- Plugins and managers stand for each other one to one, in the namespaces that the plugins are listed with.
Plugins from libraries have numbers of their own and names that are allowed. -/
def Mated (blocked : Std.ExtTreeSet String compare) (r : Runtime M) : Prop :=
  Set.BijOn (fun name => (r.catalogue.info? name).map (·.manager)) {name | name ∈ r.catalogue.pluginNames}
      (some '' {key | key ∈ r.controller.typeKeys}) ∧
    ∀ name info, r.catalogue.info? name = some info →
      info.name = name ∧ r.controller.namespaceOf? info.manager = some info.ns ∧
        (info.origin = .static → info.ns = .of 0 0) ∧
        (info.origin ≠ .static → info.ns.pluginId ≠ 0 ∧ name ∉ blocked ∧
          ∀ other info', r.catalogue.info? other = some info' → info'.origin ≠ .static →
            info'.ns.pluginId = info.ns.pluginId → other = name)

/-- Up to the shutdown, crew and catalogue mate. -/
theorem Coupled.mated (coupled : r.Coupled blocked n) (up : r.state ≠ .stopped) : r.Mated blocked := by
  obtain ⟨crew, holds, paired, -⟩ := coupled up
  refine ⟨bijOn_of_paired holds paired, fun name info found => ?_⟩
  obtain ⟨x, aboard, key, ns⟩ := paired.manned found
  have place : r.controller.namespaceOf? x.key = some x.ns := ((holds.mem_iff x).mp aboard).2
  have housed : r.controller.namespaceOf? info.manager = some info.ns := by rw [← key, ← ns, place]
  exact ⟨paired.filed found, housed, paired.compiled found, loaded_of_paired paired found⟩

variable [Manager M]

/-- How many libraries are found in the course of some calls. Without a panic the runtime looks once. -/
def found (r : Runtime M) : List (Call M) → Nat
  | [] => 0
  | call :: rest => call.finds r + found (call.act r).state rest

/-- A runtime that is new after a call was new before, and has looked for nothing. -/
theorem created_of_act {call : Call M} (ok : (call.act r).result = .ok ())
    (still : (call.act r).state.state = .created) : r.state = .created ∧ call.finds r = 0 := by
  have anyhow {α : Type} (x : Action (Platform M) α) :
      x.Leads (fun _ _ => True) (fun _ _ => True) fun _ _ => True := Action.leads_of_ok fun _ _ _ _ _ => trivial
  have elsewhere {A B : List Event → Platform M → Prop} {state next : RuntimeState} {frame since : UInt64}
      (leads : call.act.Leads (Stage A state frame) (Stage B next since) fun _ _ => True)
      (start : Stage A state frame [] r) : next = .created :=
    (leads.of_ok start ok).2.1.symm.trans still
  by_cases goes : call = .drop
  · subst goes
    by_cases stopped : r.state = .stopped
    · rw [stopped_act stopped] at still
      cases still
    · have start : Stage (fun _ _ => True) r.state r.frame [] r := ⟨trivial, rfl, rfl⟩
      cases ((stage_shutdown (anyhow _) stopped).of_ok start ok).2.1.symm.trans still
  by_cases heeded : call.heeded r = false
  · rw [(ignored heeded goes).1] at still
    exact ⟨still, Call.finds_of_unheeded heeded⟩
  -- but for a registration and an unloading, a call that is let through leaves a state other than the new one
  cases call with
  | addStatic manager => exact ⟨still, rfl⟩
  | preInit site =>
    have created : r.state = .created := by simpa [Call.heeded] using heeded
    cases elsewhere (stage_preInit (anyhow _)).void ⟨trivial, created, rfl⟩
  | init site =>
    by_cases created : r.state = .created
    · cases elsewhere (stage_init_created (anyhow _) (anyhow _) (anyhow _)) ⟨trivial, created, rfl⟩
    · have loaded : r.state = .loaded := by simpa [Call.heeded, created] using heeded
      cases elsewhere (stage_init_loaded (anyhow _) (anyhow _)) ⟨trivial, loaded, rfl⟩
  | update =>
    have running : r.state = .running := by simpa [Call.heeded] using heeded
    cases elsewhere (stage_update (anyhow _) (anyhow _) (anyhow _)) ⟨trivial, running, rfl⟩
  | unload name =>
    have up : r.state ≠ .stopped := by simpa [Call.heeded] using heeded
    exact ⟨elsewhere (stage_unload (anyhow _) up).void ⟨trivial, rfl, rfl⟩, rfl⟩
  | shutdown =>
    have up : r.state ≠ .stopped := by simpa [Call.heeded] using heeded
    cases elsewhere (stage_shutdown (anyhow _) up) ⟨trivial, rfl, rfl⟩
  | drop => exact absurd rfl goes

/-- Once discovery has been made, no later call of a calm run looks again. -/
theorem found_eq_zero {calls : List (Call M)} (calm : Calm r calls) (known : r.state ≠ .created) :
    found r calls = 0 := by
  induction calls generalizing r with
  | nil => rfl
  | cons call calls ih =>
    obtain ⟨ok, rest⟩ := calm.tail
    have looks : call.finds r = 0 := by cases call <;> simp [Call.finds, known]
    rw [found, looks, ih rest fun still => known (created_of_act ok still).1]

/-- Without a panic a runtime looks for libraries once, so no more are found than one look finds. -/
theorem found_lt_of_calm {calls : List (Call M)} (calm : Calm r calls) {bound : Nat} (room : 0 < bound)
    (few : ∀ before call later, calls = before ++ call :: later →
      call.finds (Action.reached Call.act r before) < bound) : found r calls < bound := by
  induction calls generalizing r with
  | nil => exact room
  | cons call calls ih =>
    obtain ⟨ok, rest⟩ := calm.tail
    by_cases looks : call.finds r = 0
    · rw [found, looks, Nat.zero_add]
      exact ih rest fun before next later split => few (call :: before) next later (by simp [split])
    · rw [found, found_eq_zero rest fun still => looks (created_of_act ok still).2]
      exact few [] call calls rfl

theorem couples_dispatch (phase : Phase) :
    (Platform.onController (Controller.dispatch phase) : Action (Platform M) Unit).Keeps
      fun _ p => p.Coupled blocked n :=
  Platform.couples_onController fun holds => (Controller.dispatch_spec holds phase).1

/-- A runtime that is not stopped by its shutdown has met a panic, and keeps its pairs. -/
theorem coupled_shutdown (start : r.platform.Coupled blocked n) (up : r.state ≠ .stopped)
    (still : (shutdown r).state.state ≠ .stopped) : (shutdown r).state.platform.Coupled blocked n := by
  have shut := stage_shutdown Platform.couples_releaseAll up [] r ⟨start, rfl, rfl⟩
  split at shut
  · exact absurd shut.2.1 still
  · exact shut

/-- The end of the controller leaves no manager to the pairs, and the end of the catalogue no plugin. -/
theorem coupled_drop (start : r.platform.Coupled blocked n) (up : r.state ≠ .stopped)
    (still : (drop r).state.state ≠ .stopped) : (drop r).state.platform.Coupled blocked n := by
  obtain ⟨crew, holds, paired, bound⟩ := coupled_shutdown start up still
  exact ⟨[], (Controller.clear_spec holds).2.1, paired.forget, bound⟩

/-- A call keeps the platform coupled, with as many more loads as it finds files. -/
theorem Coupled.call (coupled : r.Coupled blocked n) (call : Call M)
    (room : n + call.finds r + 1 < 2 ^ 32) : (call.act r).state.Coupled blocked (n + call.finds r) := by
  intro still
  have up : r.state ≠ .stopped := fun stopped => still (stopped_act stopped call)
  have start := coupled up
  by_cases heeded : call.heeded r = false
  · have goes : call ≠ .drop := by
      rintro rfl
      simp [Call.heeded, up] at heeded
    rw [(ignored heeded goes).1, Call.finds_of_unheeded heeded]
    exact start
  cases call with
  | addStatic manager =>
    exact coupled_of_stage (stage_onPlatform (Platform.couples_addStatic manager) _ _).void ⟨start, rfl, rfl⟩
  | preInit site =>
    have created : r.state = .created := by simpa [Call.heeded] using heeded
    simp only [Call.finds, created, if_true] at room ⊢
    exact coupled_of_stage (stage_preInit (Platform.couples_discover site _ rfl room)).void
      ⟨⟨start, rfl⟩, created, rfl⟩
  | init site =>
    by_cases created : r.state = .created
    · simp only [Call.finds, created, if_true] at room ⊢
      exact coupled_of_stage (stage_init_created (Platform.couples_discover site _ rfl room)
        (couples_dispatch .init) (couples_dispatch .postInit)) ⟨⟨start, rfl⟩, created, rfl⟩
    · have loaded : r.state = .loaded := by simpa [Call.heeded, created] using heeded
      simp only [Call.finds, created, if_false]
      exact coupled_of_stage (stage_init_loaded (couples_dispatch .init) (couples_dispatch .postInit))
        ⟨start, loaded, rfl⟩
  | update =>
    have running : r.state = .running := by simpa [Call.heeded] using heeded
    exact coupled_of_stage (stage_update (couples_dispatch .preUpdate) (couples_dispatch .update)
      (couples_dispatch .postUpdate)) ⟨start, running, rfl⟩
  | unload name => exact coupled_of_stage (stage_unload (Platform.couples_unload name) up).void ⟨start, rfl, rfl⟩
  | shutdown => exact coupled_shutdown start up still
  | drop => exact coupled_drop start up still

/-- By induction over the calls, every runtime reached is coupled. -/
theorem Coupled.run (coupled : r.Coupled blocked n) (calls : List (Call M))
    (room : n + found r calls + 1 < 2 ^ 32) :
    (Action.reached Call.act r calls).Coupled blocked (n + found r calls) := by
  induction calls generalizing r n with
  | nil => exact coupled
  | cons call calls ih =>
    have split : n + found r (call :: calls) = n + call.finds r + found (call.act r).state calls := by
      rw [found]
      omega
    rw [split] at room ⊢
    exact ih (coupled.call call (by omega)) room

/-- In a run without a panic it is enough that no look finds too many libraries: the runtime looks only once. -/
theorem plugins_paired_of_calm (config : RuntimeConfig) (exeDir : Path) (logger : Log.Filter) (calls : List (Call M))
    (calm : Calm (ofConfig config exeDir logger).1 calls)
    (few : ∀ before call later, calls = before ++ call :: later →
      call.finds (Action.reached Call.act (ofConfig config exeDir logger).1 before) < 2 ^ 32 - 1)
    (up : (Action.reached Call.act (ofConfig config exeDir logger).1 calls).state ≠ .stopped) :
    (Action.reached Call.act (ofConfig config exeDir logger).1 calls).Mated config.plugins.blacklist := by
  have total : found (ofConfig config exeDir logger).1 calls < 2 ^ 32 - 1 := found_lt_of_calm calm (by decide) few
  have coupled := (coupled_fresh config exeDir logger).run calls (by omega)
  exact coupled.mated up

/-- Each registered plugin has one registered manager, in the namespace that the plugin is listed with, and
there are no other managers. Plugins from libraries have numbers of their own, and none is one that the
configuration refuses. -/
theorem plugins_paired (config : RuntimeConfig) (exeDir : Path) (logger : Log.Filter) (calls : List (Call M))
    (few : found (ofConfig config exeDir logger).1 calls < 2 ^ 32 - 1)
    (up : (Action.reached Call.act (ofConfig config exeDir logger).1 calls).state ≠ .stopped) :
    let r : Runtime M := Action.reached Call.act (ofConfig config exeDir logger).1 calls
    Set.BijOn (fun name => (r.catalogue.info? name).map (·.manager)) {name | name ∈ r.catalogue.pluginNames}
        (some '' {key | key ∈ r.controller.typeKeys}) ∧
      ∀ name info, r.catalogue.info? name = some info →
        info.name = name ∧ r.controller.namespaceOf? info.manager = some info.ns ∧
          (info.origin = .static → info.ns = .of 0 0) ∧
          (info.origin ≠ .static → info.ns.pluginId ≠ 0 ∧ name ∉ config.plugins.blacklist ∧
            ∀ other info', r.catalogue.info? other = some info' → info'.origin ≠ .static →
              info'.ns.pluginId = info.ns.pluginId → other = name) := by
  intro r
  have coupled := (coupled_fresh config exeDir logger).run calls (by omega)
  exact coupled.mated up

/-- A static manager pairs with its own record, and the manager that a library brings with the record of
that library; the one added while running is refused, for its key is taken. -/
theorem plugins_paired_loaded :
    let cook : Scripted := { key := ⟨"crew::Cook"⟩, label := "cook" }
    let mate : Scripted := { key := ⟨"crew::Mate"⟩, label := "mate" }
    let files : Files := ⟨fun _ => true, fun _ => .ok "", fun _ => some (.ok [⟨⟨[109, 46, 115, 111]⟩, true⟩])⟩
    let site : Site Scripted := ⟨files, fun _ => .ok ⟨fun _ => some (enter fun holder => ⟨.ok mate, holder, []⟩)⟩⟩
    let calls : List (Call Scripted) := [.addStatic cook, .init site, .addStatic mate, .update]
    let start : Runtime Scripted := (ofConfig {} ⟨[]⟩ .off).1
    let r := Action.reached Call.act start calls
    found start calls < 2 ^ 32 - 1 ∧ r.state ≠ .stopped ∧
      Set.BijOn (fun name => (r.catalogue.info? name).map (·.manager)) {"Cook", "m"}
        {some cook.key, some mate.key} ∧
      r.controller.namespaceOf? mate.key = some (.of 1 0) := by
  intro cook mate files site calls start r
  have few : found start calls < 2 ^ 32 - 1 := by decide +kernel
  have up : r.state ≠ .stopped := by decide +kernel
  obtain ⟨pairs, entries⟩ := plugins_paired {} ⟨[]⟩ .off calls few up
  have names : r.catalogue.pluginNames = ["Cook", "m"] := by decide +kernel
  have keys : r.controller.typeKeys = [cook.key, mate.key] := by decide +kernel
  have listed : r.catalogue.info? "m" =
      some ⟨"m", .of 1 0, mate.key, .dynamic ⟨[109, 46, 115, 111]⟩⟩ := by decide +kernel
  have named : {name | name ∈ r.catalogue.pluginNames} = {"Cook", "m"} := by
    rw [names]
    ext name
    simp
  have keyed : some '' {key | key ∈ r.controller.typeKeys} = {some cook.key, some mate.key} := by
    rw [keys]
    ext key
    simp [eq_comm]
  refine ⟨few, up, ?_, (entries "m" _ listed).2.1⟩
  rw [← named, ← keyed]
  exact pairs

end PluginHost.Runtime
