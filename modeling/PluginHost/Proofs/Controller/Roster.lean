import PluginHost.Proofs.Controller.Typed

namespace PluginHost

variable {M : Type}

/-- Whether the manager of a registration is registered still. -/
def Member.serves (x : Member) (c : Controller M) : Bool :=
  (c.registry.get? x.key).map (·.id) = some x.id

namespace Registry

theorem Holds.allNames_perm {r : Registry TypeKey (Instance M)} {crew : List Member} (holds : r.Holds crew) :
    (crew.map (·.key)).Perm r.allNames := by
  rw [allNames, List.perm_ext_iff_of_nodup holds.keys Std.ExtTreeMap.nodup_keys]
  intro key
  rw [holds.mem_keys, Std.ExtTreeMap.mem_keys, contains, Std.ExtTreeMap.mem_iff_contains]

/-- The registry knows the namespace of each member and of nobody else. -/
theorem Holds.namespaceOf?_eq_some {r : Registry TypeKey (Instance M)} {crew : List Member}
    (holds : r.Holds crew) (key : TypeKey) (ns : Namespace) :
    r.namespaceOf? key = some ns ↔ ∃ x ∈ crew, x.key = key ∧ x.ns = ns := by
  constructor
  · intro registered
    have stored : key ∈ r.objects := (holds.exact.objects key).mpr
      (Std.ExtTreeMap.mem_iff_isSome_getElem?.mpr (Option.isSome_iff_exists.mpr ⟨ns, registered⟩))
    obtain ⟨m, found⟩ := Option.isSome_iff_exists.mp (Std.ExtTreeMap.mem_iff_isSome_getElem?.mp stored)
    obtain ⟨given, member⟩ := holds.member found
    have place := ((holds.mem_iff _).mp member).2
    exact ⟨_, member, rfl, Option.some.inj (place.symm.trans registered)⟩
  · rintro ⟨x, member, rfl, rfl⟩
    exact ((holds.mem_iff x).mp member).2

end Registry

namespace Controller

/-- What is asked of a controller. -/
inductive Call (M : Type) where
  | add (manager : M) (ns : Namespace)
  | addExt (key : TypeKey) (manager : M) (ns : Namespace) (library : Option LibraryId)
  | dispatch (phase : Phase)
  | releaseNamespace (ns : Namespace)
  | releaseAll

variable [Manager M] {c : Controller M} {past : List Member}

/-- The one who is registered, if the offer was accepted. -/
def hire (c : Controller M) (key : TypeKey) (ns : Namespace) :
    Except Panic (Option (Instance M)) → List Member
  | .ok none => [⟨key, ⟨c.offered⟩, ns⟩]
  | .ok (some _) | .error _ => []

namespace Call

def act : Call M → Action (Controller M) Unit
  | add manager ns => (Controller.add manager ns).void
  | addExt key manager ns library => (Controller.addExt key manager ns library).void
  | dispatch phase => Controller.dispatch phase
  | releaseNamespace ns => Controller.releaseNamespace ns
  | releaseAll => Controller.releaseAll

/-- A manager is registered under the type that it says it has. -/
def Own : Call M → Prop
  | add manager _ => Manager.claimed manager = Manager.concrete manager
  | addExt key manager _ _ => Manager.claimed manager = key
  | dispatch _ | releaseNamespace _ | releaseAll => True

/-- A manager that is offered stands so to the type that it is to be registered under. -/
def Fits (R : TypeKey → M → Prop) : Call M → Prop
  | add manager _ => R (Manager.concrete manager) manager
  | addExt key manager _ _ => R key manager
  | dispatch _ | releaseNamespace _ | releaseAll => True

theorem Own.fits {call : Call M} (own : call.Own) : call.Fits fun key m => Manager.claimed m = key := by
  cases call <;> exact own

/-- Who is registered in a call. -/
def hires (c : Controller M) : Call M → List Member
  | add manager ns => c.hire (Manager.concrete manager) ns (Controller.add manager ns c).result
  | addExt key manager ns library => c.hire key ns (Controller.addExt key manager ns library c).result
  | dispatch _ | releaseNamespace _ | releaseAll => []

end Call

/-- Who is registered in the course of calls, in order, whether or not they stay. -/
def hired (c : Controller M) : List (Call M) → List Member
  | [] => []
  | call :: rest => call.hires c ++ hired (call.act c).state rest

/-- The crew is what is left of the past registrations. -/
structure Enlisted (c : Controller M) (past : List Member) : Prop where
  crew : ∃ crew, c.Holds crew ∧ crew.Sublist past
  ids : (past.map (·.id)).Nodup
  fresh : ∀ x ∈ past, x.id.index < c.offered

omit [Manager M] in
theorem Enlisted.of_crew (enlisted : c.Enlisted past) {next : Controller M} {crew : List Member}
    (holds : next.Holds crew) (left : crew.Sublist past) (offered : next.offered = c.offered) :
    next.Enlisted past :=
  ⟨⟨crew, holds, left⟩, enlisted.ids, fun x member => (enlisted.fresh x member).trans_eq offered.symm⟩

/-- An offer adds its manager to the past if it is accepted. -/
theorem Enlisted.addExt (enlisted : c.Enlisted past) (key : TypeKey) (manager : M) (ns : Namespace)
    (library : Option LibraryId) :
    (addExt key manager ns library c).state.Enlisted
      (past ++ c.hire key ns (addExt key manager ns library c).result) := by
  obtain ⟨crew, holds, left⟩ := enlisted.crew
  obtain ⟨offer, offered⟩ := offered_addExt holds key manager ns library
  have older : ∀ x ∈ past, x.id.index < c.offered + 1 := fun x member =>
    (enlisted.fresh x member).trans (Nat.lt_succ_self _)
  cases offer with
  | refused taken result holds trace =>
    rw [result, hire, List.append_nil]
    exact ⟨⟨crew, holds, left⟩, enlisted.ids, offered ▸ older⟩
  | panicked panics holds trace =>
    obtain ⟨panic, result⟩ := panics
    rw [result, hire, List.append_nil]
    exact ⟨⟨crew, holds, left⟩, enlisted.ids, offered ▸ older⟩
  | accepted result holds trace =>
    rw [result, hire]
    refine ⟨⟨_, holds, left.append_right _⟩, ?_, ?_⟩
    · have unused : ∀ x ∈ past, x.id ≠ ⟨c.offered⟩ := fun x member same =>
        absurd (enlisted.fresh x member) (by simp [same])
      simpa [List.nodup_append, enlisted.ids] using unused
    · intro x member
      rw [offered]
      obtain old | new := List.mem_append.mp member
      · exact older x old
      · obtain rfl := List.mem_singleton.mp new
        exact Nat.lt_succ_self _

/-- Each call adds to the past whom it hires and keeps the order of those who are there. -/
theorem Enlisted.step (enlisted : c.Enlisted past) (call : Call M) :
    (call.act c).state.Enlisted (past ++ call.hires c) := by
  obtain ⟨crew, holds, left⟩ := enlisted.crew
  cases call with
  | add manager ns => exact enlisted.addExt (Manager.concrete manager) manager ns none
  | addExt key manager ns library => exact enlisted.addExt key manager ns library
  | dispatch phase =>
    obtain ⟨same, offered, -⟩ := dispatch_spec holds phase
    exact (List.append_nil past).symm ▸ enlisted.of_crew same left offered
  | releaseNamespace ns =>
    rw [Call.hires, List.append_nil]
    obtain broken | ⟨-, rest, offered, -⟩ := releaseNamespace_spec holds ns
    · exact enlisted.of_crew broken.holds left broken.offered
    · exact enlisted.of_crew rest (List.filter_sublist.trans left) offered
  | releaseAll =>
    rw [Call.hires, List.append_nil]
    obtain broken | ⟨-, rest, offered, -⟩ := releaseAll_spec holds
    · exact enlisted.of_crew broken.holds left broken.offered
    · exact enlisted.of_crew rest (List.nil_sublist _) offered

/-- After any calls the crew is made of those who were hired, in the order in which they came. -/
theorem Enlisted.run (enlisted : c.Enlisted past) (calls : List (Call M)) :
    (Action.reached Call.act c calls).Enlisted (past ++ hired c calls) := by
  induction calls generalizing c past with
  | nil => simpa [hired, Action.reached] using enlisted
  | cons call calls ih =>
    have rest := ih (enlisted.step call)
    rwa [List.append_assoc] at rest

omit [Manager M] in
/-- The crew is everyone whose registration lasts, in the order of the registrations. -/
theorem Enlisted.holds (enlisted : c.Enlisted past) : c.Holds (past.filter (·.serves c)) := by
  obtain ⟨crew, holds, left⟩ := enlisted.crew
  have nodup : past.Nodup := enlisted.ids.of_map
  have serving : ∀ x, x ∈ crew ↔ x ∈ past.filter (·.serves c) := by
    intro x
    rw [List.mem_filter, Member.serves, decide_eq_true_eq]
    constructor
    · exact fun member => ⟨left.subset member, ((holds.mem_iff x).mp member).1⟩
    · rintro ⟨member, serves⟩
      obtain ⟨m, found, id⟩ := Option.map_eq_some_iff.mp serves
      obtain ⟨ns, aboard⟩ := holds.member found
      have same := List.inj_on_of_nodup_map enlisted.ids member (left.subset aboard) id.symm
      exact same ▸ aboard
  have kept : crew.filter (·.serves c) = crew :=
    List.filter_eq_self.mpr fun x member => (List.mem_filter.mp ((serving x).mp member)).2
  have within : crew.Sublist (past.filter (·.serves c)) := kept ▸ left.filter _
  have perm := (List.perm_ext_iff_of_nodup (nodup.sublist left) (nodup.filter _)).mpr serving
  rwa [← within.eq_of_length perm.length_eq]

/-- A call leaves every manager fit for its type if the managers that it offers are. -/
theorem keepsEach_act {R : TypeKey → M → Prop} (stable : Manager.Stable R) {call : Call M} (fits : call.Fits R) :
    KeepsEach R call.act := by
  cases call with
  | add manager ns => exact Action.Leads.void (keepsEach_addExt stable fits ns none)
  | addExt key manager ns library => exact Action.Leads.void (keepsEach_addExt stable fits ns library)
  | dispatch phase => exact keepsEach_dispatch stable phase
  | releaseNamespace ns => exact keepsEach_releaseNamespace stable ns
  | releaseAll => exact keepsEach_releaseAll stable

/-- Where managers are offered under their own types alone, everyone passes for its type after any calls. -/
theorem typed_reached (steadfast : Manager.Steadfast M) (typed : c.Typed) {calls : List (Call M)}
    (own : ∀ call ∈ calls, call.Own) : (Action.reached Call.act c calls).Typed := by
  induction calls generalizing c with
  | nil => exact typed
  | cons call calls ih =>
    refine ih ?_ fun later member => own later (.tail _ member)
    exact keepsEach_iff.mp (keepsEach_act steadfast.stable (own call (.head _)).fits) c typed

/-- A manager is handed back exactly if its type was taken. -/
theorem isSome_refused_iff (holds : c.Holds past) (key : TypeKey) (manager : M) (ns : Namespace)
    (library : Option LibraryId) :
    (∃ back, (addExt key manager ns library c).result = .ok (some back)) ↔ c.contains key := by
  constructor
  · rintro ⟨back, handed⟩
    cases (offered_addExt holds key manager ns library).1 with
    | refused taken => exact (holds.mem_keys key).mp taken
    | panicked panics =>
      obtain ⟨panic, result⟩ := panics
      cases result.symm.trans handed
    | accepted result => cases result.symm.trans handed
  · exact fun taken => ⟨_, congrArg Run.result (addExt_of_contains taken manager ns library)⟩

/-- The order of registration and the registry tell the same of every manager, after any calls and any
panics. A manager of a registered type changes nothing and comes back as it was. -/
theorem roster_reached (holder : Holder) (calls : List (Call M)) :
    let c := Action.reached Call.act { holder } calls
    let serving := (hired { holder } calls).filter (·.serves c)
    c.typeKeys.Nodup ∧
      c.typeKeys.Perm c.registry.allNames ∧
      c.typeKeys = serving.map (·.key) ∧
      (∀ key, c.contains key ↔ key ∈ c.typeKeys) ∧
      (∀ key ns, c.namespaceOf? key = some ns ↔ ∃ x ∈ serving, x.key = key ∧ x.ns = ns) ∧
      c.size = c.registry.size ∧
      (Manager.Steadfast M → (∀ call ∈ calls, call.Own) → ∀ key,
        (c.get? key).isSome = c.contains key ∧
          ∀ f, c.change key f = if c.contains key then
              { c with registry := c.registry.modify key fun m => { m with manager := f m.manager } }
            else c) ∧
      ∀ key (manager : M) ns library,
        ((∃ back, (addExt key manager ns library c).result = .ok (some back)) ↔ c.contains key) ∧
          (c.contains key → addExt key manager ns library c =
            ⟨{ c with offered := c.offered + 1 },
              [.offered ⟨c.offered⟩ library,
                .logged ⟨.error, target, "Manager '" ++ key.display ++
                  "' is already registered, ignoring registration from " ++ ns.display⟩],
              .ok (some ⟨⟨c.offered⟩, manager⟩)⟩) := by
  intro c serving
  have enlisted : Enlisted ({ holder } : Controller M) [] := ⟨⟨[], holds_new holder, .slnil⟩, .nil, nofun⟩
  have holds : c.Holds serving := (enlisted.run calls).holds
  have order : c.typeKeys = serving.map (·.key) := holds.order
  have perm : c.typeKeys.Perm c.registry.allNames := order ▸ holds.allNames_perm
  refine ⟨order ▸ holds.keys, perm, order, ?_, holds.namespaceOf?_eq_some, ?_, ?_, ?_⟩
  · exact fun key => order ▸ (holds.mem_keys key).symm
  · exact perm.length_eq.trans Std.ExtTreeMap.length_keys
  · intro steadfast own key
    have typed : c.Typed := typed_reached steadfast (fun key m found => by simp [Registry.empty] at found) own
    exact ⟨typed.isSome_get? key, fun f => by rw [change, typed.isSome_get? key]⟩
  · exact fun key manager ns library =>
      ⟨isSome_refused_iff holds key manager ns library, fun taken => addExt_of_contains taken manager ns library⟩

/-- A manager that panics over the holder is not on the roster; its type is free for the next one. -/
theorem roster_reached_panicked :
    let cook : Scripted := { key := ⟨"crew::Cook"⟩, label := "cook" }
    let mate : Scripted := { key := ⟨"crew::Mate"⟩, label := "mate", script := { panicIn? := some (.phase .init) } }
    let calls : List (Call Scripted) :=
      [.add mate (.plugin 1), .addExt cook.key cook .core none, .add mate (.of 2 1), .dispatch .init,
        .releaseNamespace (.plugin 1), .add mate (.of 2 1)]
    let c := Action.reached Call.act { holder := ⟨.empty, ⟨[]⟩, ⟨[]⟩, .off⟩ } calls
    c.typeKeys = [cook.key, mate.key] ∧ c.namespaceOf? mate.key = some (.of 2 1) ∧
      (c.get? mate.key).isSome := by
  intro cook mate calls c
  have own : ∀ call ∈ calls, call.Own := by
    simp [calls, mate, Call.Own, Manager.claimed, Manager.concrete]
  obtain ⟨-, -, order, -, place, -, got, -⟩ := roster_reached ⟨.empty, ⟨[]⟩, ⟨[]⟩, .off⟩ calls
  refine ⟨order.trans (by decide +kernel), (place _ _).mpr (by decide +kernel), ?_⟩
  rw [(got Scripted.steadfast own mate.key).1]
  decide +kernel

end Controller

end PluginHost
