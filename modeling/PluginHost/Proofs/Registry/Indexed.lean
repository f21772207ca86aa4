import PluginHost.Proofs.Namespace
import PluginHost.Proofs.Registry.Clearing

namespace PluginHost.Registry

variable {N T : Type} [Ord N] [Std.TransOrd N] {r : Registry N T} {R : N → Namespace → Prop}

/-- The three indices list, each in its way, which names are registered where. -/
structure Indexed (r : Registry N T) (R : N → Namespace → Prop) : Prop where
  pluginNames : r.pluginNames.Lists fun plugin name => R name (.plugin plugin)
  addinNames : r.addinNames.Lists fun ns name => ns.isAddin ∧ R name ns
  pluginAddins : r.pluginAddins.Lists fun plugin ns => ns.isAddin ∧ ns.pluginId = plugin ∧ ∃ name, R name ns

theorem Indexed.congr {S : N → Namespace → Prop} (indexed : r.Indexed R)
    (same : ∀ name ns, R name ns ↔ S name ns) :
    r.Indexed S := by
  have equal : R = S := funext fun name => funext fun ns => propext (same name ns)
  exact equal ▸ indexed

/-- The names of a scope are those recorded in some namespace that the scope covers. -/
theorem Indexed.mem_names (indexed : r.Indexed R) (scope : Namespace) (name : N) [Std.LawfulEqOrd N] :
    name ∈ r.names scope ↔ ∃ ns, R name ns ∧ scope.covers ns := by
  rw [names_eq]
  split
  · rename_i addin
    simp [indexed.addinNames.mem_members, Namespace.covers_of_isAddin addin, addin]
  · rename_i whole
    simp only [namesOf, namesUnder, List.mem_append, Std.ExtTreeSet.mem_toList, List.mem_flatMap,
      indexed.pluginNames.mem_members, indexed.addinNames.mem_members, indexed.pluginAddins.mem_members,
      Namespace.covers_of_plugin whole]
    constructor
    · rintro (direct | ⟨ns, ⟨_, plugin, _⟩, _, registered⟩)
      · exact ⟨_, direct, Namespace.pluginId_plugin _⟩
      · exact ⟨ns, registered, plugin⟩
    · rintro ⟨ns, registered, plugin⟩
      by_cases addin : ns.isAddin
      · exact Or.inr ⟨ns, ⟨addin, plugin, name, registered⟩, addin, registered⟩
      · rw [← plugin, Namespace.plugin_pluginId (by simpa using addin)]
        exact Or.inl registered

/-- Clearing an add-in takes its own rows out of both indices. -/
theorem Indexed.clearAddin (indexed : r.Indexed R) {ns : Namespace} (addin : ns.isAddin) :
    (r.clearAddin ns).2.Indexed fun n a => a ≠ ns ∧ R n a := by
  rw [clearAddin_snd, takeNames_eq]
  exact {
    pluginNames := indexed.pluginNames.congr fun plugin n => by grind [Namespace.eq_plugin_iff]
    addinNames := (indexed.addinNames.erase ns).congr fun a n => by grind
    pluginAddins := (indexed.pluginAddins.discard ns.pluginId ns).congr fun plugin a => by grind }

/-- The addins are forgotten with their plugin, so none of them is left to be forgotten on its own. -/
theorem Indexed.clearPlugin (indexed : r.Indexed R) (plugin : PluginId) :
    (r.clearPlugin plugin).2.Indexed fun n a => a.pluginId ≠ plugin ∧ R n a := by
  have members : ∀ a, a ∈ (r.pluginAddins.members plugin).toList ↔
      a.isAddin ∧ a.pluginId = plugin ∧ ∃ n, R n a := by
    intro a
    rw [Std.ExtTreeSet.mem_toList]
    exact indexed.pluginAddins.mem_members plugin a
  rw [clearPlugin_snd, takeNames_eq]
  exact {
    pluginNames := (indexed.pluginNames.erase plugin).congr fun p n => by simp [eq_comm]
    addinNames := (indexed.addinNames.eraseAll _).congr fun a n => by grind
    pluginAddins := ((indexed.pluginAddins.erase plugin).discardAll Namespace.pluginId _).congr
      fun p a => by grind }

/-- Clearing a scope unlists exactly the rows whose namespace it covers. -/
theorem Indexed.clearNamespace (indexed : r.Indexed R) (scope : Namespace) :
    (r.clearNamespace scope).2.Indexed fun n a => ¬ scope.covers a ∧ R n a := by
  unfold Registry.clearNamespace
  split
  · rename_i addin
    exact (indexed.clearAddin addin).congr fun n a => by rw [Namespace.covers_of_isAddin addin]
  · rename_i whole
    exact (indexed.clearPlugin scope.pluginId).congr fun n a => by rw [Namespace.covers_of_plugin whole]

variable [Std.LawfulEqOrd N]

/-- Filing an object lists its name under its namespace beside all the others. -/
theorem Indexed.file (indexed : r.Indexed R) (object : T) (name : N) (ns : Namespace) :
    (r.file object name ns).Indexed fun n a => name = n ∧ ns = a ∨ R n a := by
  unfold Registry.file
  split
  · rename_i addin
    exact {
      pluginNames := indexed.pluginNames.congr fun plugin n => by simp [Namespace.eq_plugin_iff, addin]
      addinNames := (indexed.addinNames.add ns name).congr fun a n => by grind
      pluginAddins := (indexed.pluginAddins.add ns.pluginId ns).congr fun plugin a => by grind }
  · rename_i whole
    exact {
      pluginNames := (indexed.pluginNames.add ns.pluginId name).congr fun plugin n => by
        simp [Namespace.eq_plugin_iff, whole, and_comm]
      addinNames := indexed.addinNames.congr fun a n => by grind
      pluginAddins := indexed.pluginAddins.congr fun plugin a => by grind }

theorem Indexed.ungroup (indexed : r.Indexed R) {name : N} {ns : Namespace} (only : ∀ a, R name a ↔ ns = a) :
    (r.ungroup name ns).Indexed fun n a => name ≠ n ∧ R n a := by
  unfold Registry.ungroup
  split
  · rename_i addin
    have pluginNames : r.pluginNames.Lists fun plugin n => name ≠ n ∧ R n (.plugin plugin) :=
      indexed.pluginNames.congr fun plugin n => by grind [Namespace.eq_plugin_iff]
    have addinNames : (r.addinNames.discard ns name).Lists fun a n => a.isAddin ∧ name ≠ n ∧ R n a :=
      (indexed.addinNames.discard ns name).congr fun a n => by grind
    dsimp only
    split
    · rename_i more
      have more : ∃ n, ns.isAddin ∧ name ≠ n ∧ R n ns := (addinNames ns).1.mp more
      exact ⟨pluginNames, addinNames, indexed.pluginAddins.congr fun plugin a => by grind⟩
    · rename_i last
      have last : ¬ ∃ n, ns.isAddin ∧ name ≠ n ∧ R n ns := fun more => last ((addinNames ns).1.mpr more)
      exact ⟨pluginNames, addinNames,
        (indexed.pluginAddins.discard ns.pluginId ns).congr fun plugin a => by grind⟩
  · rename_i whole
    exact {
      pluginNames := (indexed.pluginNames.discard ns.pluginId name).congr fun plugin n => by
        grind [Namespace.eq_plugin_iff]
      addinNames := indexed.addinNames.congr fun a n => by grind
      pluginAddins := indexed.pluginAddins.congr fun plugin a => by grind }

end PluginHost.Registry
