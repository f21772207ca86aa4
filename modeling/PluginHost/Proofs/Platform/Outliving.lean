import PluginHost.Manager.Heartbeat
import PluginHost.Proofs.Platform.Mooring

namespace PluginHost

open Controller

variable {M : Type}

/-- Some crew is aboard. -/
def Afloat (adrift : Set LibraryId) (past : List Event) (p : Platform M) : Prop :=
  ∃ crew, Moored adrift past crew p

variable {adrift : Set LibraryId} {past new : List Event} {crew crew' : List Member} {p q : Platform M}

/-- Hooks are called and members leave. -/
theorem Moored.depart (moored : Moored adrift past crew p) (plan : List (Member × Phase))
    (gone : List ManagerId) (holds : q.controller.Holds crew')
    (offered : q.controller.offered = p.controller.offered) (catalogue : q.catalogue = p.catalogue)
    (known : ∀ m ∈ gone, ∃ x ∈ crew, x.id = m) (left : ∀ x ∈ crew, x ∈ crew' ∨ x.id ∈ gone) :
    Moored adrift (past ++ (summons plan ++ gone.map .destroyed)) crew' q := by
  apply moored.manage holds offered.ge catalogue
  · intro e member
    rcases List.mem_append.mp member with called | destroyed
    · obtain ⟨step, -, rfl⟩ := List.mem_map.mp called
      rfl
    · obtain ⟨m, -, rfl⟩ := List.mem_map.mp destroyed
      rfl
  · intro e member
    rcases List.mem_append.mp member with called | destroyed
    · obtain ⟨step, -, rfl⟩ := List.mem_map.mp called
      trivial
    · obtain ⟨m, leaving, rfl⟩ := List.mem_map.mp destroyed
      obtain ⟨x, aboard, rfl⟩ := known m leaving
      have fresh := moored.holds.fresh x aboard
      rwa [← offered] at fresh
  · intro x member
    exact (left x member).imp_right fun here => List.mem_append_right _ (List.mem_map_of_mem here)

theorem Moored.summon (moored : Moored adrift past crew p) (plan : List (Member × Phase))
    (holds : q.controller.Holds crew) (offered : q.controller.offered = p.controller.offered)
    (catalogue : q.catalogue = p.catalogue) : Moored adrift (past ++ summons plan) crew q := by
  have moored := moored.depart plan [] holds offered catalogue nofun fun x member => Or.inl member
  simpa using moored

theorem Moored.broken (moored : Moored adrift past crew p) {α : Type} {run : Run (Controller M) α}
    (broken : Broken p.controller crew run) :
    Moored adrift (past ++ deeds run.trace) crew { p with controller := run.state } := by
  obtain ⟨plan, trace⟩ := broken.called
  rw [trace]
  exact moored.summon plan broken.holds broken.offered rfl

/-- A scope may be taken down, with the managers in it. -/
theorem Moored.release (moored : Moored adrift past crew p) {scope : Namespace} (plan : List (Member × Phase))
    (holds : q.controller.Holds (crew.filter fun x => !scope.covers x.ns))
    (offered : q.controller.offered = p.controller.offered) (catalogue : q.catalogue = p.catalogue)
    {gone : List ManagerId} (perm : gone.Perm ((crew.filter fun x => scope.covers x.ns).map (·.id))) :
    Moored adrift (past ++ (summons plan ++ gone.map .destroyed))
      (crew.filter fun x => !scope.covers x.ns) q := by
  apply moored.depart plan gone holds offered catalogue
  · intro m leaving
    obtain ⟨x, covered, id⟩ := List.mem_map.mp (perm.mem_iff.mp leaving)
    exact ⟨x, List.mem_of_mem_filter covered, id⟩
  · intro x member
    by_cases covered : scope.covers x.ns
    · exact Or.inr (perm.mem_iff.mpr (List.mem_map_of_mem (List.mem_filter.mpr ⟨member, covered⟩)))
    · exact Or.inl (List.mem_filter.mpr ⟨member, by simpa using covered⟩)

theorem Moored.disband (moored : Moored adrift past crew p) (plan : List (Member × Phase))
    (holds : q.controller.Holds []) (offered : q.controller.offered = p.controller.offered)
    (catalogue : q.catalogue = p.catalogue) :
    Moored adrift (past ++ (summons plan ++ (crew.reverse.map (·.id)).map .destroyed)) [] q :=
  moored.depart plan _ holds offered catalogue (by simp) fun x member =>
    Or.inr (by simpa using ⟨x, member, rfl⟩)

theorem Moored.dropCatalogue (moored : Moored adrift past crew p) :
    Moored adrift past crew (Platform.dropCatalogue p).state :=
  moored.unmoor rfl rfl fun name ns library ⟨record, found, _⟩ => by
    simp [Platform.dropCatalogue, Platform.modifyCatalogue] at found

/-- A library without a berth may be set adrift, for somebody to close it. -/
theorem Moored.loosen (moored : Moored adrift past crew p) {library : LibraryId}
    (loose : Loose past p.catalogue library) :
    Moored (insert library adrift) past crew p :=
  { moored with
    loose := by
      rintro other (rfl | drifting)
      · exact loose
      · exact moored.loose other drifting }

/-- Nothing has happened to the next manager and the next library. -/
theorem Moored.untouched (moored : Moored adrift past crew p) :
    .destroyed ⟨p.controller.offered⟩ ∉ past ∧ .closed ⟨p.catalogue.opened⟩ ∉ past ∧
      (∀ m, .offered m (some ⟨p.catalogue.opened⟩) ∉ past) ∧ ⟨p.catalogue.opened⟩ ∉ adrift ∧
      ∀ name ns, ¬ p.catalogue.Berth name ns ⟨p.catalogue.opened⟩ := by
  have unopened := moored.fresh (e := .opened ⟨p.catalogue.opened⟩) (Nat.lt_irrefl _)
  refine ⟨moored.fresh (Nat.lt_irrefl _), moored.fresh (Nat.lt_irrefl _), fun m => ?_, ?_, ?_⟩
  · exact moored.fresh fun numbered => Nat.lt_irrefl _ numbered.2
  · exact fun drifting => unopened (moored.loose _ drifting).opened
  · exact fun name ns berth => unopened (moored.berthed name ns _ berth).1

/-- A library is opened, and what happens is about no other library. -/
theorem Moored.visit (moored : Moored adrift past crew p) (holds : q.controller.Holds crew')
    (offered : p.controller.offered ≤ q.controller.offered)
    (plugins : q.catalogue.plugins = p.catalogue.plugins)
    (opened : q.catalogue.opened = p.catalogue.opened + 1) (orderly : Orderly past new)
    (numbered : ∀ e ∈ new, e.Numbered q.controller.offered q.catalogue.opened)
    (made : ∀ m library, .offered m (some library) ∈ new → library = ⟨p.catalogue.opened⟩)
    (closed : ∀ library, .closed library ∈ new → library = ⟨p.catalogue.opened⟩)
    (stays : ∀ x ∈ crew, x ∈ crew') : Moored adrift (past ++ new) crew' q := by
  obtain ⟨-, -, -, claimed, unberthed⟩ := moored.untouched
  refine moored.step holds plugins offered (by omega) orderly numbered ?_ ?_ fun x member =>
    Or.inl (stays x member)
  · intro m library member
    obtain rfl := made m library member
    exact unberthed
  · intro library member
    obtain rfl := closed library member
    exact ⟨claimed, unberthed⟩

section

variable [Manager M]

/-- A plugin that is compiled in has no library to be closed. -/
theorem keeps_addStatic (manager : M) : (Platform.addStatic manager).Keeps (Afloat adrift) := by
  rw [Action.keeps_iff]
  rintro past p ⟨crew, moored⟩
  cases Platform.adding_addStatic moored.holds manager with
  | ignored state trace =>
    rw [state, trace, List.append_nil]
    exact ⟨crew, moored⟩
  | refused catalogue holds offered trace =>
    rw [trace]
    exact ⟨crew, moored.manage holds (by omega) catalogue (by simp [Event.internal])
      (by simp [Event.Numbered, offered]) fun x member => Or.inl member⟩
  | panicked panics catalogue holds offered trace =>
    rw [trace]
    exact ⟨crew, moored.manage holds (by omega) catalogue (by simp [Event.internal])
      (by simp [Event.Numbered, offered]) fun x member => Or.inl member⟩
  | accepted record compiled catalogue key holds offered trace =>
    rw [trace]
    have boarded : Moored adrift
        (past ++ [.offered ⟨p.controller.offered⟩ none, .called ⟨p.controller.offered⟩ .attach])
        (crew ++ [⟨key, ⟨p.controller.offered⟩, record.info.ns⟩])
        ⟨(Platform.addStatic manager p).state.controller, p.catalogue⟩ :=
      moored.manage holds (Nat.le_of_lt (by simp [offered])) rfl (by simp [Event.internal])
        (by simp [Event.Numbered, offered]) fun x member => Or.inl (List.mem_append_left _ member)
    refine ⟨_, boarded.unmoor rfl (by rw [catalogue]; rfl) fun name ns library berth => ?_⟩
    rcases berth.of_insert (k := p.catalogue) (by rw [catalogue]; rfl) with old | ⟨-, -, owner⟩
    · exact old
    · simp [compiled] at owner

theorem keeps_addExt (key : TypeKey) (manager : M) (ns : Namespace) :
    (Platform.onController (Controller.addExt key manager ns none)).Keeps (Afloat adrift) := by
  rw [Action.keeps_iff]
  rintro past p ⟨crew, moored⟩
  rw [Platform.onController_run]
  obtain ⟨offer, offered⟩ := offered_addExt moored.holds key manager ns none
  have more : p.controller.offered ≤ (addExt key manager ns none p.controller).state.offered := by omega
  cases offer with
  | refused taken result holds trace =>
    rw [trace]
    exact ⟨crew, moored.manage holds more rfl (by simp [Event.internal])
      (by simp [Event.Numbered, offered]) fun x member => Or.inl member⟩
  | panicked panics holds trace =>
    rw [trace]
    exact ⟨crew, moored.manage holds more rfl (by simp [Event.internal])
      (by simp [Event.Numbered, offered]) fun x member => Or.inl member⟩
  | accepted result holds trace =>
    rw [trace]
    exact ⟨_, moored.manage holds more rfl (by simp [Event.internal])
      (by simp [Event.Numbered, offered]) fun x member => Or.inl (List.mem_append_left _ member)⟩

/-- A library is opened, and closed on each way out on which its plugin is not registered, after its manager. -/
theorem keeps_load (site : Site M) (path : Path) : (Platform.load site path).Keeps (Afloat adrift) := by
  rw [Action.keeps_iff]
  rintro past p ⟨crew, moored⟩
  obtain ⟨undestroyed, unclosed, unused, claimed, unberthed⟩ := moored.untouched
  cases Platform.loading_load moored.holds site path with
  | ignored state trace =>
    rw [state, trace, List.append_nil]
    exact ⟨crew, moored⟩
  | failed catalogue holds offered trace =>
    rw [trace]
    exact ⟨crew, moored.visit holds offered.ge (by rw [catalogue]) (by rw [catalogue])
      (by simp [Allowed, unused]) (by simp [Event.Numbered, catalogue]) (by simp) (by simp) fun x here => here⟩
  | entered entry catalogue holds offered library id e state result trace =>
    obtain ⟨registering, added⟩ := Platform.registering_register holds library e
    have more : p.controller.offered ≤
        (Platform.register library e entry).state.controller.offered := by omega
    rw [state, trace, id]
    cases registering with
    | refused same holds trace =>
      rw [trace, id, offered]
      exact ⟨crew, moored.visit holds more (by rw [same, catalogue]) (by rw [same, catalogue])
        (by simp [Allowed, unused, undestroyed, unclosed])
        (by simp [Event.Numbered, same, catalogue, added, offered]) (by simp) (by simp) fun x here => here⟩
    | panicked panics same holds trace =>
      rw [trace, id, offered]
      exact ⟨crew, moored.visit holds more (by rw [same, catalogue]) (by rw [same, catalogue])
        (by simp [Allowed, unused, undestroyed, unclosed])
        (by simp [Event.Numbered, same, catalogue, added, offered]) (by simp) (by simp) fun x here => here⟩
    | accepted record owner key plugins opened holds trace =>
      rw [trace, id, offered]
      -- the manager is in the namespace of a plugin that is yet to be registered
      have boarded : Moored adrift
          (past ++ [.opened ⟨p.catalogue.opened⟩, .offered ⟨p.controller.offered⟩ (some ⟨p.catalogue.opened⟩),
            .called ⟨p.controller.offered⟩ .attach])
          (crew ++ [⟨key, ⟨entry.controller.offered⟩, record.info.ns⟩])
          ⟨(Platform.register library e entry).state.controller, entry.catalogue⟩ :=
        moored.visit holds more (by rw [catalogue]) (by rw [catalogue])
          (by simp [Allowed, undestroyed, unclosed])
          (by simp [Event.Numbered, catalogue, added, offered]) (by simp) (by simp)
          fun x => List.mem_append_left _
      have apart : ∀ name ns, ¬ entry.catalogue.Berth name ns ⟨p.catalogue.opened⟩ := by
        intro name ns
        rw [Catalogue.berth_congr (by rw [catalogue])]
        exact unberthed name ns
      refine ⟨_, boarded.berthing ⟨by simp, by simpa using unclosed, apart⟩ claimed
        (by rw [owner, Option.map_some, id]) rfl opened plugins fun m made living => ?_⟩
      obtain rfl : m = ⟨entry.controller.offered⟩ := by simpa [unused, offered] using made
      exact ⟨_, List.mem_concat_self, rfl, rfl⟩

/-- A library is closed after the managers in the namespace of its plugin, so after its own. -/
theorem keeps_unload (name : String) :
    (Platform.unload name : Action (Platform M) _).Keeps (Afloat adrift) := by
  rw [Action.keeps_iff]
  rintro past p ⟨crew, moored⟩
  cases Platform.unloading_unload moored.holds name with
  | ignored state trace =>
    rw [state, trace, List.append_nil]
    exact ⟨crew, moored⟩
  | broken catalogue broken =>
    obtain ⟨plan, trace⟩ := broken.called
    rw [trace]
    exact ⟨crew, moored.summon plan broken.holds broken.offered catalogue⟩
  | unloaded record found catalogue holds offered gone perm trace =>
    rw [trace]
    have released := moored.release (q := ⟨(Platform.unload name p).state.controller, p.catalogue⟩)
      (partings (crew.filter fun x => record.info.ns.covers x.ns)) holds offered rfl perm
    have removed := released.unmoor (q := (Platform.unload name p).state) rfl (by rw [catalogue]; rfl)
      fun other ns library berth => by
        rw [catalogue] at berth
        exact berth.of_remove.1
    cases owner : record.library? with
    | none => exact ⟨_, by simpa using removed⟩
    | some library =>
      have berth : p.catalogue.Berth name record.info.ns library.id := ⟨record, found, rfl, by simp [owner]⟩
      obtain ⟨opened, unclosed⟩ := released.berthed name _ _ berth
      have alone : ∀ other ns, ¬ (Platform.unload name p).state.catalogue.Berth other ns library.id := by
        intro other ns berth'
        rw [catalogue] at berth'
        obtain ⟨old, apart⟩ := berth'.of_remove
        exact apart (moored.single _ _ _ _ _ berth old)
      have claimed : library.id ∉ adrift := fun drifting => (moored.loose _ drifting).unberthed _ _ berth
      have closed := removed.closing ⟨opened, unclosed, alone⟩ claimed fun m made => by
        by_contra living
        obtain ⟨x, spared, -, place⟩ := released.aboard _ _ _ berth m made living
        obtain ⟨-, uncovered⟩ := List.mem_filter.mp spared
        simp [place] at uncovered
      exact ⟨_, by simpa using closed⟩

theorem keeps_releaseNamespace (scope : Namespace) :
    (Platform.onController (Controller.releaseNamespace scope) : Action (Platform M) Unit).Keeps
      (Afloat adrift) := by
  rw [Action.keeps_iff]
  rintro past p ⟨crew, moored⟩
  rcases releaseNamespace_spec moored.holds scope with broken | ⟨ok, holds, offered, gone, perm, trace⟩
  · exact ⟨crew, moored.broken broken⟩
  · rw [Platform.onController_run, trace]
    exact ⟨_, moored.release (q := ⟨(releaseNamespace scope p.controller).state, p.catalogue⟩) _
      holds offered rfl perm⟩

theorem keeps_dispatch (phase : Phase) :
    (Platform.onController (Controller.dispatch phase) : Action (Platform M) Unit).Keeps (Afloat adrift) := by
  rw [Action.keeps_iff]
  rintro past p ⟨crew, moored⟩
  obtain ⟨holds, offered, done, -, trace, -⟩ := dispatch_spec moored.holds phase
  rw [Platform.onController_run, trace]
  exact ⟨crew, moored.summon done holds offered rfl⟩

/-- The teardown of everyone closes no library. -/
theorem keeps_releaseAll :
    (Platform.onController Controller.releaseAll : Action (Platform M) Unit).Keeps (Afloat adrift) := by
  rw [Action.keeps_iff]
  rintro past p ⟨crew, moored⟩
  rcases releaseAll_spec moored.holds with broken | ⟨ok, holds, offered, trace⟩
  · exact ⟨crew, moored.broken broken⟩
  · have disbanded := moored.disband (q := ⟨(releaseAll p.controller).state, p.catalogue⟩)
      (crew.map (·, .release) ++ crew.map (·, .postRelease)) holds offered rfl
    rw [Platform.onController_run, trace]
    exact ⟨[], by simpa [summons] using disbanded⟩

theorem keeps_dropController :
    (Platform.onController Controller.drop : Action (Platform M) Unit).Keeps (Afloat adrift) := by
  rw [Action.keeps_iff]
  rintro past p ⟨crew, moored⟩
  obtain ⟨ok, holds, offered, trace⟩ := clear_spec moored.holds
  have disbanded := moored.disband (q := ⟨(clear p.controller).state, p.catalogue⟩) [] holds offered rfl
  rw [Platform.onController_run, drop, trace]
  exact ⟨[], by simpa [summons] using disbanded⟩

end

namespace Platform

/-- No manager and no plugin has been registered. -/
def fresh (holder : Holder) (config : PluginConfig) (pluginDir : Path) : Platform M :=
  { controller := { holder }, catalogue := .ofConfig config pluginDir }

/-- On a new platform nobody has to be moored. -/
theorem moored_fresh (holder : Holder) (config : PluginConfig) (pluginDir : Path) :
    Moored ∅ [] [] (fresh holder config pluginDir : Platform M) where
  holds := Controller.holds_new holder
  orderly := trivial
  numbered := nofun
  berthed := fun name ns library ⟨record, found, _⟩ => by simp [fresh, Catalogue.ofConfig] at found
  single := fun name ns name' ns' library ⟨record, found, _⟩ => by simp [fresh, Catalogue.ofConfig] at found
  aboard := nofun
  loose := nofun

/-- What a host does with plugins and managers. -/
inductive Call (M : Type) where
  | addStatic (manager : M)
  | load (site : Site M) (path : Path)
  | discover (site : Site M)
  | unload (name : String)
  | dropCatalogue
  | addExt (key : TypeKey) (manager : M) (ns : Namespace)
  | dispatch (phase : Phase)
  | releaseNamespace (ns : Namespace)
  | releaseAll
  | dropController

variable [Manager M]

def Call.act : Call M → Action (Platform M) Unit
  | addStatic manager => (Platform.addStatic manager).void
  | load site path => (Platform.load site path).void
  | discover site => (Platform.discover site).void
  | unload name => (Platform.unload name).void
  | dropCatalogue => Platform.dropCatalogue
  | addExt key manager ns => (onController (Controller.addExt key manager ns none)).void
  | dispatch phase => onController (Controller.dispatch phase)
  | releaseNamespace ns => onController (Controller.releaseNamespace ns)
  | releaseAll => onController Controller.releaseAll
  | dropController => onController Controller.drop

/-- The step lemma: any call keeps the platform afloat, by its kind. -/
theorem Call.keeps (call : Call M) : call.act.Keeps (Afloat adrift) := by
  cases call with
  | addStatic manager => exact Action.Leads.void (keeps_addStatic manager)
  | load site path => exact Action.Leads.void (keeps_load site path)
  | discover site => exact Action.Leads.void (leads_discover (keeps_load site))
  | unload name => exact Action.Leads.void (keeps_unload name)
  | dropCatalogue =>
    rw [Action.keeps_iff]
    rintro past p ⟨crew, moored⟩
    change Afloat adrift (past ++ []) _
    rw [List.append_nil]
    exact ⟨crew, moored.dropCatalogue⟩
  | addExt key manager ns => exact Action.Leads.void (keeps_addExt key manager ns)
  | dispatch phase => exact keeps_dispatch phase
  | releaseNamespace ns => exact keeps_releaseNamespace ns
  | releaseAll => exact keeps_releaseAll
  | dropController => exact keeps_dropController

/--
Whenever a manager from a library lives, the library is open. It is closed after everything that it
made is destroyed, and never if its plugin is registered when the catalogue ends.
-/
theorem libraries_outlive_managers (holder : Holder) (config : PluginConfig) (pluginDir : Path)
    (calls : List (Call M)) :
    let start : Platform M := fresh holder config pluginDir
    let trace := Action.history Call.act start calls
    (∀ moment, moment <+: trace → ∀ m library, .offered m (some library) ∈ moment → .destroyed m ∉ moment →
        .opened library ∈ moment ∧ .closed library ∉ moment) ∧
      (∀ before later library, trace = before ++ .closed library :: later →
        ∀ m, .offered m (some library) ∈ trace → .destroyed m ∈ before) ∧
      ∀ (before later : List (Call M)), calls = before ++ .dropCatalogue :: later →
        ∀ (name : String) record (library : Library M),
          (Action.reached Call.act start before).catalogue.plugins[name]? = some record →
          record.library? = some library → .closed library.id ∉ trace := by
  intro start trace
  obtain ⟨crew, moored⟩ := Action.Keeps.run Call.keeps ⟨[], moored_fresh holder config pluginDir⟩ calls
  have orderly : Orderly [] trace := (orderly_deeds [] trace).mp moored.orderly
  refine ⟨fun moment before => orderly.secure before, ?_, ?_⟩
  · intro before later library split m offered
    rw [split] at orderly offered
    exact orderly.destroyed offered
  · rintro before later rfl name record library registered owner closed
    obtain ⟨crew, moored⟩ := Action.Keeps.run Call.keeps ⟨[], moored_fresh holder config pluginDir⟩ before
    have berth : Catalogue.Berth _ name record.info.ns library.id :=
      ⟨record, registered, rfl, by simp [owner]⟩
    obtain ⟨opened, unclosed⟩ := moored.berthed _ _ _ berth
    have loose : Loose _ (dropCatalogue (Action.reached Call.act start before)).state.catalogue library.id :=
      ⟨opened, unclosed, fun name ns ⟨record, found, _⟩ => by simp [dropCatalogue, modifyCatalogue] at found⟩
    -- from here on the library is adrift
    obtain ⟨crew, ended⟩ := Action.Keeps.run Call.keeps ⟨_, moored.dropCatalogue.loosen loose⟩ later
    have parts : deeds trace = deeds (Action.history Call.act start before) ++
        deeds (Action.history Call.act (dropCatalogue
          (Action.reached Call.act start before)).state later) := by
      rw [← deeds_append]
      exact congrArg deeds (Action.history_append ..)
    have still := (ended.loose _ (Set.mem_insert ..)).unclosed
    rw [List.nil_append, ← parts] at still
    exact still (mem_deeds.mpr ⟨closed, rfl⟩)

example :
    let files : Files := ⟨fun _ => true, fun _ => .ok "", fun _ => none⟩
    let site : Site Heartbeat := ⟨files, fun _ => .ok ⟨fun _ => some (enter Heartbeat.build)⟩⟩
    let calls : List (Call Heartbeat) := [.load site ⟨[98]⟩, .dispatch .init, .unload "b"]
    deeds (Action.history Call.act (fresh ⟨.empty, ⟨[]⟩, ⟨[]⟩, .off⟩ {} ⟨[]⟩) calls) =
      [.opened ⟨0⟩, .offered ⟨0⟩ (some ⟨0⟩), .called ⟨0⟩ .attach, .called ⟨0⟩ (.phase .init),
       .called ⟨0⟩ (.phase .release), .called ⟨0⟩ (.phase .postRelease), .destroyed ⟨0⟩, .closed ⟨0⟩] := by
  decide +kernel

end Platform

end PluginHost
