import PluginHost.Proofs.Platform.Loading
import PluginHost.Proofs.Platform.Order

namespace PluginHost

/-- A plugin is registered that keeps a library open for a namespace. -/
def Catalogue.Berth {M : Type} (k : Catalogue M) (name : String) (ns : Namespace)
    (library : LibraryId) : Prop :=
  ∃ record, k.plugins[name]? = some record ∧ record.info.ns = ns ∧ record.library?.map (·.id) = some library

/-- The managers and the libraries of an event have been numbered. -/
def Event.Numbered (managers libraries : Nat) : Event → Prop
  | .offered m (some library) => m.index < managers ∧ library.index < libraries
  | .offered m none | .destroyed m => m.index < managers
  | .opened library | .closed library => library.index < libraries
  | _ => True

theorem Event.Numbered.mono {e : Event} {managers libraries managers' libraries' : Nat}
    (numbered : e.Numbered managers libraries) (more : managers ≤ managers')
    (others : libraries ≤ libraries') :
    e.Numbered managers' libraries' := by
  unfold Numbered at numbered ⊢
  split <;> simp only at numbered ⊢ <;> omega

/-- The event is about no library. -/
def Event.internal : Event → Bool
  | .called _ _ | .destroyed _ | .offered _ none => true
  | _ => false

/-- Events of managers that come from no library break no order. -/
theorem orderly_internal {past new : List Event} (internal : ∀ e ∈ new, e.internal) : Orderly past new := by
  induction new generalizing past with
  | nil => trivial
  | cons e new ih =>
    refine ⟨?_, ih fun e later => internal e (List.mem_cons_of_mem _ later)⟩
    have here := internal e List.mem_cons_self
    unfold Event.internal at here
    unfold Allowed
    split <;> simp_all

/-- An open library that no registered plugin stands for. -/
structure Loose {M : Type} (past : List Event) (k : Catalogue M) (library : LibraryId) : Prop where
  opened : .opened library ∈ past
  unclosed : .closed library ∉ past
  unberthed : ∀ name ns, ¬ k.Berth name ns library

/-- The state of affairs after a trace, with some libraries adrift that nothing will ever close. -/
structure Moored {M : Type} (adrift : Set LibraryId) (past : List Event) (crew : List Member)
    (p : Platform M) : Prop where
  holds : p.controller.Holds crew
  orderly : Orderly [] past
  numbered : ∀ e ∈ past, e.Numbered p.controller.offered p.catalogue.opened
  berthed : ∀ name ns library, p.catalogue.Berth name ns library →
    .opened library ∈ past ∧ .closed library ∉ past
  single : ∀ name ns name' ns' library,
    p.catalogue.Berth name ns library → p.catalogue.Berth name' ns' library → name = name'
  aboard : ∀ name ns library, p.catalogue.Berth name ns library → ∀ m, .offered m (some library) ∈ past →
    .destroyed m ∉ past → ∃ x ∈ crew, x.id = m ∧ x.ns = ns
  loose : ∀ library ∈ adrift, Loose past p.catalogue library

variable {M : Type} {adrift : Set LibraryId} {past new : List Event} {crew crew' : List Member}
  {p q : Platform M}

namespace Catalogue

variable {k l : Catalogue M}

theorem berth_congr (same : k.plugins = l.plugins) {name : String} {ns : Namespace} {library : LibraryId} :
    k.Berth name ns library ↔ l.Berth name ns library := by
  rw [Berth, Berth, same]

/-- A berth is an old one or that of the record which is entered. -/
theorem Berth.of_insert {record : PluginRecord M} {name : String} {ns : Namespace} {library : LibraryId}
    (berth : l.Berth name ns library) (plugins : l.plugins = k.plugins.insert record.info.name record) :
    k.Berth name ns library ∨
      record.info.name = name ∧ record.info.ns = ns ∧ record.library?.map (·.id) = some library := by
  obtain ⟨other, found, place, owner⟩ := berth
  rw [plugins, Std.ExtTreeMap.getElem?_insert] at found
  by_cases here : record.info.name = name
  · simp only [here, Std.ReflCmp.compare_self, if_true, Option.some.injEq] at found
    exact Or.inr ⟨here, found ▸ place, found ▸ owner⟩
  · have apart : compare record.info.name name ≠ .eq := fun same => here (Std.LawfulEqOrd.eq_of_compare same)
    simp only [apart, if_false] at found
    exact Or.inl ⟨other, found, place, owner⟩

/-- A berth that is left is of another plugin. -/
theorem Berth.of_remove {name gone : String} {ns : Namespace} {library : LibraryId}
    (berth : (k.remove gone).Berth name ns library) : k.Berth name ns library ∧ gone ≠ name := by
  obtain ⟨record, found, place⟩ := berth
  rw [remove, Std.ExtTreeMap.getElem?_erase] at found
  split at found
  · cases found
  · rename_i apart
    exact ⟨⟨record, found, place⟩, by rintro rfl; simp at apart⟩

end Catalogue

/--
What goes on beside the registered plugins leaves them moored, if no plugin stands for a library that
makes a manager or is closed, and whoever leaves the crew is destroyed.
-/
theorem Moored.step (moored : Moored adrift past crew p) (holds : q.controller.Holds crew')
    (plugins : q.catalogue.plugins = p.catalogue.plugins)
    (offered : p.controller.offered ≤ q.controller.offered) (opened : p.catalogue.opened ≤ q.catalogue.opened)
    (orderly : Orderly past new) (numbered : ∀ e ∈ new, e.Numbered q.controller.offered q.catalogue.opened)
    (made : ∀ m library, .offered m (some library) ∈ new → ∀ name ns, ¬ p.catalogue.Berth name ns library)
    (closed : ∀ library, .closed library ∈ new → library ∉ adrift ∧
      ∀ name ns, ¬ p.catalogue.Berth name ns library)
    (left : ∀ x ∈ crew, x ∈ crew' ∨ .destroyed x.id ∈ new) : Moored adrift (past ++ new) crew' q where
  holds := holds
  orderly := (orderly_append ..).mpr ⟨moored.orderly, orderly⟩
  numbered := by
    intro e member
    rcases List.mem_append.mp member with old | fresh
    · exact (moored.numbered e old).mono offered opened
    · exact numbered e fresh
  berthed := by
    intro name ns library berth
    rw [Catalogue.berth_congr plugins] at berth
    obtain ⟨before, unclosed⟩ := moored.berthed name ns library berth
    refine ⟨List.mem_append_left _ before, fun shut => ?_⟩
    rcases List.mem_append.mp shut with old | fresh
    · exact unclosed old
    · exact (closed library fresh).2 name ns berth
  single := by
    intro name ns name' ns' library berth berth'
    rw [Catalogue.berth_congr plugins] at berth berth'
    exact moored.single name ns name' ns' library berth berth'
  aboard := by
    intro name ns library berth m offered living
    rw [Catalogue.berth_congr plugins] at berth
    obtain ⟨early, late⟩ := not_or.mp (List.mem_append.not.mp living)
    rcases List.mem_append.mp offered with old | fresh
    · obtain ⟨x, member, rfl, place⟩ := moored.aboard name ns library berth m old early
      exact ⟨x, (left x member).resolve_right late, rfl, place⟩
    · exact absurd berth (made m library fresh name ns)
  loose := by
    intro library drifting
    obtain ⟨before, unclosed, unberthed⟩ := moored.loose library drifting
    refine ⟨List.mem_append_left _ before, fun shut => ?_, fun name ns berth => ?_⟩
    · rcases List.mem_append.mp shut with old | fresh
      · exact unclosed old
      · exact (closed library fresh).1 drifting
    · rw [Catalogue.berth_congr plugins] at berth
      exact unberthed name ns berth

/-- Hooks are called, and managers come from the host and go. -/
theorem Moored.manage (moored : Moored adrift past crew p) (holds : q.controller.Holds crew')
    (offered : p.controller.offered ≤ q.controller.offered) (catalogue : q.catalogue = p.catalogue)
    (internal : ∀ e ∈ new, e.internal)
    (numbered : ∀ e ∈ new, e.Numbered q.controller.offered q.catalogue.opened)
    (left : ∀ x ∈ crew, x ∈ crew' ∨ .destroyed x.id ∈ new) : Moored adrift (past ++ new) crew' q := by
  refine moored.step holds (by rw [catalogue]) offered (by rw [catalogue])
    (orderly_internal internal) numbered ?_ ?_ left
  · exact fun m library made => absurd (internal _ made) nofun
  · exact fun library closed => absurd (internal _ closed) nofun

/-- A library that no plugin stands for is closed once its managers are gone. -/
theorem Moored.closing (moored : Moored adrift past crew p) {library : LibraryId}
    (loose : Loose past p.catalogue library) (claimed : library ∉ adrift)
    (gone : ∀ m, .offered m (some library) ∈ past → .destroyed m ∈ past) :
    Moored adrift (past ++ [.closed library]) crew p := by
  have early : library.index < p.catalogue.opened := moored.numbered _ loose.opened
  refine moored.step moored.holds rfl le_rfl le_rfl ⟨gone, trivial⟩ ?_ ?_ ?_ fun x member => Or.inl member
  · simpa [Event.Numbered] using early
  · simp
  · simpa using ⟨claimed, loose.unberthed⟩

/-- What nothing has happened to. -/
theorem Moored.fresh (moored : Moored adrift past crew p) {e : Event}
    (late : ¬ e.Numbered p.controller.offered p.catalogue.opened) : e ∉ past :=
  fun member => late (moored.numbered e member)

/-- Plugins go, or plugins without a library come. -/
theorem Moored.unmoor (moored : Moored adrift past crew p) (controller : q.controller = p.controller)
    (opened : q.catalogue.opened = p.catalogue.opened)
    (fewer : ∀ name ns library, q.catalogue.Berth name ns library → p.catalogue.Berth name ns library) :
    Moored adrift past crew q where
  holds := controller ▸ moored.holds
  orderly := moored.orderly
  numbered := by
    rw [controller, opened]
    exact moored.numbered
  berthed := fun name ns library berth => moored.berthed name ns library (fewer _ _ _ berth)
  single := fun name ns name' ns' library berth berth' =>
    moored.single name ns name' ns' library (fewer _ _ _ berth) (fewer _ _ _ berth')
  aboard := fun name ns library berth => moored.aboard name ns library (fewer _ _ _ berth)
  loose := by
    intro library drifting
    obtain ⟨opened, unclosed, unberthed⟩ := moored.loose library drifting
    exact ⟨opened, unclosed, fun name ns berth => unberthed name ns (fewer _ _ _ berth)⟩

/-- A plugin comes to stand for a library whose managers are all in the plugin's namespace. -/
theorem Moored.berthing (moored : Moored adrift past crew p) {library : LibraryId}
    (loose : Loose past p.catalogue library)
    (claimed : library ∉ adrift) {record : PluginRecord M} (owner : record.library?.map (·.id) = some library)
    (controller : q.controller = p.controller) (opened : q.catalogue.opened = p.catalogue.opened)
    (plugins : q.catalogue.plugins = p.catalogue.plugins.insert record.info.name record)
    (aboard : ∀ m, .offered m (some library) ∈ past → .destroyed m ∉ past → ∃ x ∈ crew, x.id = m ∧
      x.ns = record.info.ns) :
    Moored adrift past crew q where
  holds := controller ▸ moored.holds
  orderly := moored.orderly
  numbered := by
    rw [controller, opened]
    exact moored.numbered
  berthed := by
    intro name ns other berth
    rcases berth.of_insert plugins with old | ⟨-, -, same⟩
    · exact moored.berthed name ns other old
    · obtain rfl := Option.some.inj (owner.symm.trans same)
      exact ⟨loose.opened, loose.unclosed⟩
  single := by
    intro name ns name' ns' other berth berth'
    rcases berth.of_insert plugins with old | ⟨here, -, same⟩ <;>
      rcases berth'.of_insert plugins with old' | ⟨here', -, same'⟩
    · exact moored.single name ns name' ns' other old old'
    · obtain rfl := Option.some.inj (owner.symm.trans same')
      exact absurd old (loose.unberthed name ns)
    · obtain rfl := Option.some.inj (owner.symm.trans same)
      exact absurd old' (loose.unberthed name' ns')
    · exact here.symm.trans here'
  aboard := by
    intro name ns other berth m made living
    rcases berth.of_insert plugins with old | ⟨-, rfl, same⟩
    · exact moored.aboard name ns other old m made living
    · obtain rfl := Option.some.inj (owner.symm.trans same)
      exact aboard m made living
  loose := by
    intro other drifting
    obtain ⟨opened, unclosed, unberthed⟩ := moored.loose other drifting
    refine ⟨opened, unclosed, fun name ns berth => ?_⟩
    rcases berth.of_insert plugins with old | ⟨-, -, same⟩
    · exact unberthed name ns old
    · obtain rfl := Option.some.inj (owner.symm.trans same)
      exact claimed drifting

end PluginHost
