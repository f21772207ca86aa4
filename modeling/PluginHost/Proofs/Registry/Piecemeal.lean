import PluginHost.Proofs.Registry.Contents

namespace PluginHost.Registry

variable {N T : Type} [Ord N] [Std.TransOrd N] {r : Registry N T}

/-- Takes the objects of some names out, one name after the other. -/
def removeAll (r : Registry N T) : List N → List T × Registry N T
  | [] => ([], r)
  | name :: rest =>
    let (taken, next) := r.remove name
    let (more, last) := next.removeAll rest
    (taken.toList ++ more, last)

/-- Takes out what some plugins registered, themselves or through addins, one plugin after the other. -/
def clearPlugins (r : Registry N T) : List PluginId → List T × Registry N T
  | [] => ([], r)
  | plugin :: rest =>
    let (taken, next) := r.clearNamespace (.plugin plugin)
    let (more, last) := next.clearPlugins rest
    (taken ++ more, last)

theorem allObjects_empty : (empty : Registry N T).allObjects = [] := by
  have none : (∅ : Std.ExtTreeMap N T compare).toList = [] := by simp
  exact congrArg (List.map (·.2)) none

variable [Std.LawfulEqOrd N]

/-- The canonical form of a registry: its two maps say everything. -/
theorem Exact.ext {s : Registry N T} (exact : r.Exact) (other : s.Exact) (objects : r.objects = s.objects)
    (namespaces : r.namespaces = s.namespaces) : r = s := by
  have plugins : r.pluginNames = s.pluginNames :=
    exact.pluginNames.unique (other.pluginNames.congr fun plugin name => by rw [namespaces])
  have addins : r.addinNames = s.addinNames :=
    exact.addinNames.unique (other.addinNames.congr fun ns name => by rw [namespaces])
  have side : r.pluginAddins = s.pluginAddins :=
    exact.pluginAddins.unique (other.pluginAddins.congr fun plugin ns => by rw [namespaces])
  cases r
  cases s
  simp only at objects namespaces plugins addins side
  rw [objects, namespaces, plugins, addins, side]

/-- One by one, the same objects come out as when the names are taken out at one go, and both maps are left
without the names. -/
theorem Exact.removeAll (exact : r.Exact) (names : List N) :
    (r.removeAll names).2.Exact ∧ (r.removeAll names).1 = (r.takeNames names).1 ∧
      (r.removeAll names).2.objects = names.foldl (·.erase ·) r.objects ∧
      (r.removeAll names).2.namespaces = names.foldl (·.erase ·) r.namespaces := by
  induction names generalizing r with
  | nil => exact ⟨exact, rfl, rfl, rfl⟩
  | cons name names ih =>
    obtain ⟨taken, objects, namespaces⟩ := exact.remove_eq name
    obtain ⟨last, more, rest, places⟩ := ih (exact.remove name)
    refine ⟨last, ?_, rest.trans (by rw [objects]; rfl), places.trans (by rw [namespaces]; rfl)⟩
    have later : ((r.remove name).2.removeAll names).1 = (({ r with
        objects := r.objects.erase name
        namespaces := r.namespaces.erase name } : Registry N T).takeNames names).1 :=
      more.trans (takeNames_fst_congr objects names)
    simp only [Registry.removeAll, takeNames, taken, later]

/-- Erasing several keys leaves the same map in whatever order they are erased. -/
theorem foldl_erase_perm {V : Type} (t : Std.ExtTreeMap N V compare) {first second : List N}
    (perm : first.Perm second) : first.foldl (·.erase ·) t = second.foldl (·.erase ·) t := by
  apply Std.ExtTreeMap.ext_getElem?
  intro name
  ext value
  rw [getElem?_foldl_erase, getElem?_foldl_erase, perm.mem_iff]

/-- In whichever order the names of a scope are removed, the clearance of the scope takes out the same and
leaves the same. -/
theorem Exact.removeAll_names (exact : r.Exact) {scope : Namespace} {order : List N}
    (perm : order.Perm (r.names scope)) :
    (r.removeAll order).2 = (r.clearNamespace scope).2 ∧
      (r.removeAll order).1.Perm (r.clearNamespace scope).1 := by
  obtain ⟨last, taken, objects, namespaces⟩ := exact.removeAll order
  constructor
  · apply last.ext (exact.clearNamespace scope)
    · rw [objects, objects_clearNamespace, foldl_erase_perm r.objects perm]
    · rw [namespaces, namespaces_clearNamespace, foldl_erase_perm r.namespaces perm]
  · have listed := exact.nodup_names scope
    rw [taken, clearNamespace_fst, takeNames_fst r (perm.nodup_iff.mpr listed), takeNames_fst r listed]
    exact perm.filterMap _

/-- What the clearances of plugins leave was there before, and none of it belongs to one of the plugins. -/
theorem Exact.clearPlugins (exact : r.Exact) (plugins : List PluginId) :
    (r.clearPlugins plugins).2.Exact ∧
      r.allObjects.Perm ((r.clearPlugins plugins).1 ++ (r.clearPlugins plugins).2.allObjects) ∧
      ∀ (name : N) ns, (r.clearPlugins plugins).2.namespaces[name]? = some ns →
        r.namespaces[name]? = some ns ∧ ns.pluginId ∉ plugins := by
  induction plugins generalizing r with
  | nil => exact ⟨exact, .refl _, fun name ns found => ⟨found, List.not_mem_nil⟩⟩
  | cons plugin plugins ih =>
    obtain ⟨last, balance, left⟩ := ih (exact.clearNamespace (.plugin plugin))
    refine ⟨last, ?_, fun name ns found => ?_⟩
    · have first := clearNamespace_perm r (.plugin plugin)
      simp only [Registry.clearPlugins, List.append_assoc]
      exact first.trans (balance.append_left _)
    · obtain ⟨earlier, others⟩ := left name ns found
      rw [namespaces_clearNamespace, getElem?_foldl_erase] at earlier
      obtain ⟨unlisted, registered⟩ := earlier
      refine ⟨registered, fun member => ?_⟩
      obtain here | later := List.mem_cons.mp member
      · apply unlisted
        rw [exact.mem_names_of_getElem? registered, Namespace.covers_of_plugin (by simp)]
        rw [here, Namespace.pluginId_plugin]
      · exact others later

/-- Clearing every plugin that has an object, in any order, empties the registry. -/
theorem Exact.clearPlugins_all (exact : r.Exact) {plugins : List PluginId}
    (all : ∀ (name : N) ns, r.namespaces[name]? = some ns → ns.pluginId ∈ plugins) :
    (r.clearPlugins plugins).2 = empty ∧ (r.clearPlugins plugins).1.Perm r.allObjects := by
  obtain ⟨last, balance, left⟩ := exact.clearPlugins plugins
  have nothing : (r.clearPlugins plugins).2 = empty := by
    apply last.eq_empty
    intro name stored
    rw [contains, ← Std.ExtTreeMap.mem_iff_contains, last.objects,
      Std.ExtTreeMap.mem_iff_isSome_getElem?] at stored
    obtain ⟨ns, found⟩ := Option.isSome_iff_exists.mp stored
    obtain ⟨registered, others⟩ := left name ns found
    exact others (all name ns registered)
  rw [nothing, allObjects_empty, List.append_nil] at balance
  exact ⟨nothing, balance.symm⟩

/-- To clear a namespace is to remove its names one by one, in any order, and to clear the registry is to
clear its plugins one by one, in any order: the same objects are taken out, and the same registry is left,
indices and all. -/
theorem clearances_piecemeal (requests : List (Request N T)) :
    let r := reached requests
    (∀ scope order, order.Perm (r.names scope) →
      (r.removeAll order).2 = (r.clearNamespace scope).2 ∧
        (r.removeAll order).1.Perm (r.clearNamespace scope).1) ∧
      ∀ plugins : List PluginId,
        (∀ plugin, plugin ∈ plugins ↔ ∃ name ns, r.namespaceOf? name = some ns ∧ ns.pluginId = plugin) →
        (r.clearPlugins plugins).2 = r.clear.2 ∧ (r.clearPlugins plugins).1.Perm r.clear.1 := by
  intro r
  have exact : r.Exact := exact_reached requests
  refine ⟨fun scope order perm => exact.removeAll_names perm, fun plugins present => ?_⟩
  exact exact.clearPlugins_all fun name ns found => (present _).mpr ⟨name, ns, found, rfl⟩

/-- A name of an add-in is removed ahead of the name of its plugin, and the two plugins are cleared
highest first. -/
theorem clearances_piecemeal_addin :
    let r : Registry String Nat := reached
      [.add 1 "a" (.plugin 4), .add 2 "b" (.of 4 1), .add 3 "c" (.plugin 9), .add 4 "d" (.of 4 1), .remove "d"]
    ["b", "a"].Perm (r.names (.plugin 4)) ∧
      (r.removeAll ["b", "a"]).2 = (r.clearNamespace (.plugin 4)).2 ∧
      (r.clearPlugins [9, 4]).2 = r.clear.2 ∧ (r.clearPlugins [9, 4]).1.Perm [1, 2, 3] := by
  intro r
  obtain ⟨scopes, plugins⟩ := clearances_piecemeal
    [.add 1 "a" (.plugin 4), .add 2 "b" (.of 4 1), .add 3 "c" (.plugin 9), .add 4 "d" (.of 4 1), .remove "d"]
  have order : ["b", "a"].Perm (r.names (.plugin 4)) := by decide +kernel
  have places : r.namespaces.toList = [("a", .plugin 4), ("b", .of 4 1), ("c", .plugin 9)] := by decide +kernel
  have listed : ∀ (name : String) ns, r.namespaceOf? name = some ns ↔ (name, ns) ∈ r.namespaces.toList :=
    fun name ns => Std.ExtTreeMap.mem_toList_iff_getElem?_eq_some.symm
  have present : ∀ plugin, plugin ∈ [(9 : PluginId), 4] ↔
      ∃ (name : String) (ns : Namespace), r.namespaceOf? name = some ns ∧ ns.pluginId = plugin := by
    intro plugin
    simp only [listed, places, List.mem_cons, List.not_mem_nil, or_false, Prod.mk.injEq]
    constructor
    · rintro (rfl | rfl)
      · exact ⟨"c", .plugin 9, by simp, Namespace.pluginId_plugin 9⟩
      · exact ⟨"a", .plugin 4, by simp, Namespace.pluginId_plugin 4⟩
    · rintro ⟨name, ns, ⟨-, rfl⟩ | ⟨-, rfl⟩ | ⟨-, rfl⟩, rfl⟩ <;> simp
  have objects : r.clear.1 = [1, 2, 3] := by decide +kernel
  obtain ⟨emptied, taken⟩ := plugins [9, 4] present
  exact ⟨order, (scopes _ _ order).1, emptied, objects ▸ taken⟩

end PluginHost.Registry
