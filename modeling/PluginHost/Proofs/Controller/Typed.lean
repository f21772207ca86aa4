import PluginHost.Manager.Scripted
import PluginHost.Proofs.Controller.Offer
import PluginHost.Proofs.Controller.Release

namespace PluginHost

variable {M : Type} [Manager M]

/-- No hook changes the type that a manager says it has. -/
def Manager.Steadfast (M : Type) [Manager M] : Prop :=
  ∀ hook (m : M) holder, Manager.claimed (Manager.hook hook m holder).manager = Manager.claimed m

/-- A scripted manager says the same of itself whatever it hears. -/
theorem Scripted.steadfast : Manager.Steadfast Scripted := by
  intro hook s holder
  change (s.answer hook holder).manager.key = s.key
  unfold Scripted.answer Scripted.after
  split
  · rfl
  · split <;> rfl

/-- No hook changes how a manager stands to a type. -/
def Manager.Stable (R : TypeKey → M → Prop) : Prop :=
  ∀ key hook m holder, R key m → R key (Manager.hook hook m holder).manager

theorem Manager.Steadfast.stable (steadfast : Manager.Steadfast M) :
    Manager.Stable fun key (m : M) => Manager.claimed m = key :=
  fun _ hook m holder own => (steadfast hook m holder).trans own

namespace Controller

/-- Every registered manager says that it has the type that it is registered under. -/
def Typed (c : Controller M) : Prop :=
  ∀ (key : TypeKey) m, c.registry.objects[key]? = some m → Manager.claimed m.manager = key

variable {c : Controller M}

theorem Typed.get? (typed : c.Typed) (key : TypeKey) :
    c.get? key = (c.registry.get? key).map (·.manager) := by
  unfold Controller.get? Registry.get?
  cases found : c.registry.objects[key]? with
  | none => rfl
  | some m => simp [Manager.downcast?, Manager.passesFor, typed key m found]

theorem Typed.isSome_get? (typed : c.Typed) (key : TypeKey) : (c.get? key).isSome = c.contains key := by
  rw [typed.get?, Option.isSome_map, contains, Registry.contains, Registry.get?,
    Std.ExtTreeMap.contains_eq_isSome_getElem?]

/-- Every registered manager stands so to the type that it is registered under. -/
def Each (R : TypeKey → M → Prop) (c : Controller M) : Prop :=
  ∀ (key : TypeKey) m, c.registry.objects[key]? = some m → R key m.manager

variable {R : TypeKey → M → Prop}

omit [Manager M] in
theorem Each.of_subset (each : c.Each R) {next : Controller M}
    (old : ∀ (key : TypeKey) m, next.registry.objects[key]? = some m → c.registry.objects[key]? = some m) :
    next.Each R :=
  fun key m found => each key m (old key m found)

omit [Manager M] in
theorem Each.modify (each : c.Each R) {key : TypeKey} {f : Instance M → Instance M}
    (fits : ∀ m, R key m.manager → R key (f m).manager) :
    ({ c with registry := c.registry.modify key f } : Controller M).Each R := by
  intro other m stored
  simp only [Registry.modify, Std.ExtTreeMap.getElem?_modify] at stored
  split at stored
  · rename_i here
    obtain rfl := Std.LawfulEqOrd.eq_of_compare here
    obtain ⟨old, there, rfl⟩ := Option.map_eq_some_iff.mp stored
    exact fits old (each key old there)
  · exact each other m stored

/-- An operation after which every manager stands so to its type if every one did before. -/
abbrev KeepsEach (R : TypeKey → M → Prop) {α : Type} (x : Action (Controller M) α) : Prop :=
  x.Keeps fun _ c => c.Each R

omit [Manager M] in
theorem keepsEach_iff {α : Type} {x : Action (Controller M) α} :
    KeepsEach R x ↔ ∀ c, c.Each R → (x c).state.Each R :=
  Action.keeps_iff.trans ⟨fun keeps c each => keeps [] c each, fun keeps _ c each => keeps c each⟩

omit [Manager M] in
theorem keepsEach_modify {g : Controller M → Controller M}
    (old : ∀ c (key : TypeKey) m,
      (g c).registry.objects[key]? = some m → c.registry.objects[key]? = some m) :
    KeepsEach R (Action.modify g) :=
  Action.leads_modify fun _ c each => each.of_subset (old c)

/-- The step lemma: one hook of one manager leaves every manager fit for its type. -/
theorem keepsEach_call (stable : Manager.Stable R) (key : TypeKey) (phase : Phase) :
    KeepsEach R (call key phase) := by
  rw [keepsEach_iff]
  intro c each
  cases found : c.registry.get? key with
  | none => simpa [call, found] using each
  | some m =>
    have changed : ((call key phase c).state.registry) = c.registry.modify key fun m' =>
        { m' with manager := (Manager.hook (.phase phase) m.manager c.holder).manager } := by
      simp only [call, found]
      split <;> rfl
    have after : R key (Manager.hook (.phase phase) m.manager c.holder).manager :=
      stable key _ _ _ (each key m found)
    intro other m' stored
    rw [changed] at stored
    exact each.modify (fun _ _ => after) other m' stored

theorem keepsEach_play (stable : Manager.Stable R) (plan : List (TypeKey × Phase)) : KeepsEach R (play plan) :=
  Action.leads_forEach (fun (key, phase) => keepsEach_call stable key phase) plan

theorem keepsEach_dispatch (stable : Manager.Stable R) (phase : Phase) : KeepsEach R (dispatch phase) :=
  Action.leads_get_bind fun _ _ _ => keepsEach_play stable _

theorem keepsEach_dispatchOne (stable : Manager.Stable R) (key : TypeKey) (phase : Phase) :
    KeepsEach R (dispatchOne key phase) := by
  refine Action.leads_get_bind fun _ c _ => ?_
  split
  · exact (keepsEach_call stable key phase).bind fun _ => Action.leads_pure _
  · exact Action.leads_pure _

theorem keepsEach_destroyAll (ms : List (Instance M)) : KeepsEach R (destroyAll ms) := by
  rw [keepsEach_iff]
  intro c each
  rwa [destroyAll_run]

theorem keepsEach_clearNamespace (scope : Namespace) : KeepsEach R (clearNamespace scope) := by
  rw [keepsEach_iff]
  intro c each
  refine each.of_subset fun key m found => ?_
  have state : (clearNamespace scope c).state = { c with registry := (c.registry.clearNamespace scope).2 } := by
    simp [clearNamespace, destroyAll_run]
  rw [state, Registry.objects_clearNamespace, Registry.getElem?_foldl_erase] at found
  exact found.2

/-- The teardown of a namespace leaves everyone fit who stays. -/
theorem keepsEach_releaseNamespace (stable : Manager.Stable R) (scope : Namespace) :
    KeepsEach R (releaseNamespace scope) := by
  refine Action.leads_get_bind fun _ c _ => ?_
  refine (keepsEach_play stable _).bind fun _ => ?_
  refine Action.Leads.bind (keepsEach_modify ?_) fun _ => ?_
  · exact fun c key m found => found
  refine (keepsEach_clearNamespace scope).bind fun _ => ?_
  split
  · exact Action.leads_log
  · exact Action.leads_pure ()

theorem keepsEach_discard (key : TypeKey) : KeepsEach R (discard key) := by
  rw [keepsEach_iff]
  intro c each
  rw [discard_run]
  refine each.of_subset fun other m found => ?_
  obtain ⟨same, -⟩ | ⟨-, rest, -⟩ := c.registry.remove_eq key
  · simpa [same] using found
  · simp only [rest, Std.ExtTreeMap.getElem?_erase] at found
    split at found
    · cases found
    · exact found

/-- The teardown of everyone, by its parts: two phases and the destruction of all. -/
theorem keepsEach_releaseAll (stable : Manager.Stable R) : KeepsEach R releaseAll := by
  refine (keepsEach_dispatch stable .release).bind fun _ => ?_
  refine (keepsEach_dispatch stable .postRelease).bind fun _ => ?_
  refine Action.leads_get_bind fun _ c _ => ?_
  refine Action.Leads.bind (keepsEach_modify ?_) fun _ => ?_
  · exact fun c key m found => found
  refine (Action.leads_forEach keepsEach_discard _).bind fun _ => ?_
  refine Action.leads_get_bind fun _ c _ => ?_
  refine (Action.leads_modify fun _ c each key m found => ?_).bind fun _ => keepsEach_destroyAll _
  simp [Registry.empty] at found

/-- What is registered is the manager as it was when it had taken the holder. -/
theorem registry_addExt (c : Controller M) (key : TypeKey) (manager : M) (ns : Namespace)
    (library : Option LibraryId) :
    (addExt key manager ns library c).state.registry = c.registry ∨
      ∃ id, (addExt key manager ns library c).state.registry =
        c.registry.file ⟨id, (Manager.hook .attach manager c.holder).manager⟩ key ns := by
  by_cases taken : c.contains key
  · rw [addExt_of_contains taken]
    exact .inl rfl
  · cases panics : (Manager.hook .attach manager c.holder).panic? with
    | none =>
      obtain ⟨-, accepted⟩ := addExt_of_calm taken panics ns library
      exact .inr ⟨⟨c.offered⟩, by rw [accepted]⟩
    | some panic =>
      obtain ⟨-, same, -⟩ := addExt_of_panic taken panics ns library
      exact .inl (by rw [same])

/-- An offer leaves everyone fit if the manager that is offered is. -/
theorem keepsEach_addExt (stable : Manager.Stable R) {key : TypeKey} {manager : M} (fits : R key manager)
    (ns : Namespace) (library : Option LibraryId) : KeepsEach R (addExt key manager ns library) := by
  rw [keepsEach_iff]
  intro c each other m found
  obtain same | ⟨id, filed⟩ := registry_addExt c key manager ns library
  · exact each other m (same ▸ found)
  · rw [filed, Registry.objects_file, Std.ExtTreeMap.getElem?_insert] at found
    split at found
    · rename_i here
      obtain rfl := Std.LawfulEqOrd.eq_of_compare here
      cases found
      exact stable key _ _ _ fits
    · exact each other m found

end Controller

end PluginHost
