import PluginHost.Proofs.Registry.Indexed
import PluginHost.Proofs.Registry.Request
import PluginHost.Registry.Report

namespace PluginHost.Registry

variable {N T : Type} [Ord N] [Std.TransOrd N] {r : Registry N T}

/-- The names have a namespace exactly if they have an object, and the indices list the namespaces. -/
structure Exact (r : Registry N T) : Prop extends r.Indexed fun name ns => r.namespaces[name]? = some ns where
  objects : ∀ name, name ∈ r.objects ↔ name ∈ r.namespaces

theorem exact_empty : (empty : Registry N T).Exact where
  pluginNames := Index.lists_empty.congr fun plugin name => by simp [empty]
  addinNames := Index.lists_empty.congr fun ns name => by simp [empty]
  pluginAddins := Index.lists_empty.congr fun plugin ns => by simp [empty]
  objects := fun name => by simp [empty]

theorem namespaces_file (r : Registry N T) (object : T) (name : N) (ns : Namespace) :
    (r.file object name ns).namespaces = r.namespaces.insert name ns := by
  unfold Registry.file
  split <;> rfl

theorem namespaces_ungroup (r : Registry N T) (name : N) (ns : Namespace) :
    (r.ungroup name ns).namespaces = r.namespaces := by
  unfold ungroup
  split
  · dsimp only
    split <;> rfl
  · rfl

theorem Exact.none_iff (exact : r.Exact) (name : N) :
    r.objects[name]? = none ↔ r.namespaces[name]? = none := by
  rw [← not_iff_not, ← ne_eq, ← ne_eq, ← Option.isSome_iff_ne_none, ← Option.isSome_iff_ne_none,
    ← Std.ExtTreeMap.mem_iff_isSome_getElem?, ← Std.ExtTreeMap.mem_iff_isSome_getElem?]
  exact exact.objects name

/-- Without an object a registry has nothing in its indices either. -/
theorem Exact.eq_empty (exact : r.Exact) (none : ∀ name, ¬ r.contains name) : r = empty := by
  have objects : r.objects = ∅ :=
    Std.ExtTreeMap.eq_empty_iff_forall_not_mem.mpr fun name => by
      simpa [contains] using none name
  have namespaces : r.namespaces = ∅ :=
    Std.ExtTreeMap.eq_empty_iff_forall_not_mem.mpr fun name => by
      rw [← exact.objects, objects]
      simp
  have nowhere : ∀ (name : N) ns, r.namespaces[name]? ≠ some ns := by simp [namespaces]
  have direct := exact.pluginNames.eq_empty fun plugin name => nowhere name _
  have under := exact.addinNames.eq_empty fun ns name registered => nowhere name ns registered.2
  have addins := exact.pluginAddins.eq_empty fun plugin ns => by
    rintro ⟨-, -, name, registered⟩
    exact nowhere name ns registered
  obtain ⟨_, _, _, _, _⟩ := r
  simp only at objects namespaces direct under addins
  rw [objects, namespaces, direct, under, addins]
  rfl

theorem Exact.modify (exact : r.Exact) (name : N) (f : T → T) : (r.modify name f).Exact where
  pluginNames := exact.pluginNames
  addinNames := exact.addinNames
  pluginAddins := exact.pluginAddins
  objects := fun n => by simp [Registry.modify, Std.ExtTreeMap.mem_modify, exact.objects]

variable [Std.LawfulEqOrd N]

/-- An object that is filed under a free name is listed under it. -/
theorem Exact.file (exact : r.Exact) {name : N} (free : r.objects[name]? = none) (object : T)
    (ns : Namespace) :
    (r.file object name ns).Exact := by
  have unused : r.namespaces[name]? = none := (exact.none_iff name).mp free
  constructor
  · refine (exact.toIndexed.file object name ns).congr fun n a => ?_
    rw [namespaces_file, Std.ExtTreeMap.getElem?_insert]
    by_cases same : name = n
    · subst same
      simp [unused]
    · simp [same]
  · intro n
    simp [namespaces_file, exact.objects]

theorem erase_of_none {V : Type} {t : Std.ExtTreeMap N V compare} {name : N} (absent : t[name]? = none) :
    t.erase name = t := by
  apply Std.ExtTreeMap.ext_getElem?
  intro n
  by_cases same : name = n
  · subst same
    simp [absent]
  · simp [Std.ExtTreeMap.getElem?_erase, same]

theorem erase_insert {V : Type} (t : Std.ExtTreeMap N V compare) (name : N) (value : V) :
    (t.insert name value).erase name = t.erase name := by
  apply Std.ExtTreeMap.ext_getElem?
  intro n
  by_cases same : name = n <;> simp [Std.ExtTreeMap.getElem?_erase, Std.ExtTreeMap.getElem?_insert, same]

/-- A removal takes the name out of both maps, whether or not it is there. -/
theorem Exact.remove_eq (exact : r.Exact) (name : N) :
    (r.remove name).1 = r.objects[name]? ∧ (r.remove name).2.objects = r.objects.erase name ∧
      (r.remove name).2.namespaces = r.namespaces.erase name := by
  unfold Registry.remove
  cases found : r.namespaces[name]? with
  | some ns => simp [namespaces_ungroup]
  | none =>
    have absent := (exact.none_iff name).mpr found
    simp [absent, erase_of_none absent, erase_of_none found]

/-- A name that is removed is listed no more. -/
theorem Exact.remove (exact : r.Exact) (name : N) : (r.remove name).2.Exact := by
  obtain ⟨-, objects, namespaces⟩ := exact.remove_eq name
  constructor
  · rw [namespaces]
    unfold Registry.remove
    cases found : r.namespaces[name]? with
    | none =>
      rw [erase_of_none found]
      exact exact.toIndexed
    | some ns =>
      have bare : Indexed { r with namespaces := r.namespaces.erase name } fun n a =>
          r.namespaces[n]? = some a :=
        ⟨exact.pluginNames, exact.addinNames, exact.pluginAddins⟩
      have only : ∀ a, r.namespaces[name]? = some a ↔ ns = a := fun a => by simp [found]
      have rest := (bare.ungroup only).congr
        (S := fun n a => (r.namespaces.erase name)[n]? = some a) fun n a => by
        rw [Std.ExtTreeMap.getElem?_erase]
        by_cases same : name = n <;> simp [same]
      exact ⟨rest.pluginNames, rest.addinNames, rest.pluginAddins⟩
  · intro n
    simp [objects, namespaces, exact.objects]

/-- No name is listed twice in a scope. -/
theorem Exact.nodup_names (exact : r.Exact) (scope : Namespace) : (r.names scope).Nodup := by
  have under : ∀ {ns name}, name ∈ (r.addinNames.members ns).toList → r.namespaces[name]? = some ns := by
    intro ns name member
    rw [Std.ExtTreeSet.mem_toList, exact.addinNames.mem_members] at member
    exact member.2
  rw [names_eq]
  split
  · exact nodup_toList _
  · rename_i whole
    rw [namesOf, List.nodup_append]
    refine ⟨nodup_toList _, ?_, ?_⟩
    · rw [namesUnder, List.nodup_flatMap]
      refine ⟨fun ns _ => nodup_toList _, (nodup_toList _).imp fun differ name first second => differ ?_⟩
      exact Option.some.inj ((under first).symm.trans (under second))
    · rintro name direct _ addins rfl
      obtain ⟨ns, addin, member⟩ := List.mem_flatMap.mp addins
      rw [Std.ExtTreeSet.mem_toList, exact.pluginNames.mem_members] at direct
      rw [Std.ExtTreeSet.mem_toList, exact.pluginAddins.mem_members] at addin
      have same := Option.some.inj ((under member).symm.trans direct)
      simp [same] at addin

/-- A name is listed in the scopes that cover its namespace. -/
theorem Exact.mem_names_of_getElem? (exact : r.Exact) {name : N} {ns : Namespace}
    (registered : r.namespaces[name]? = some ns) (scope : Namespace) :
    name ∈ r.names scope ↔ scope.covers ns := by
  rw [exact.mem_names]
  constructor
  · rintro ⟨other, found, covered⟩
    rwa [← Option.some.inj (found.symm.trans registered)]
  · exact fun covered => ⟨ns, registered, covered⟩

theorem Exact.contains_of_mem_names (exact : r.Exact) {scope : Namespace} {name : N}
    (member : name ∈ r.names scope) : r.contains name := by
  obtain ⟨ns, registered, -⟩ := (exact.mem_names scope name).mp member
  rw [contains, ← Std.ExtTreeMap.mem_iff_contains, exact.objects,
    Std.ExtTreeMap.mem_iff_isSome_getElem?, registered]
  rfl

theorem contains_clearNamespace (r : Registry N T) (scope : Namespace) (name : N) :
    (r.clearNamespace scope).2.contains name ↔ name ∉ r.names scope ∧ r.contains name := by
  simp only [contains, Std.ExtTreeMap.contains_eq_isSome_getElem?, Option.isSome_iff_exists,
    objects_clearNamespace, getElem?_foldl_erase, exists_and_left]

/-- What is listed under a namespace is what is cleared with it. -/
theorem Exact.mem_names_iff_cleared (exact : r.Exact) (scope : Namespace) (name : N) :
    name ∈ r.names scope ↔ r.contains name ∧ ¬ (r.clearNamespace scope).2.contains name := by
  rw [contains_clearNamespace, not_and]
  constructor
  · exact fun member => ⟨exact.contains_of_mem_names member, fun free => absurd member free⟩
  · exact fun ⟨stored, cleared⟩ => by_contra fun free => cleared free stored

/-- A scope that is cleared leaves the others listed. -/
theorem Exact.clearNamespace (exact : r.Exact) (scope : Namespace) : (r.clearNamespace scope).2.Exact := by
  constructor
  · refine (exact.toIndexed.clearNamespace scope).congr fun n a => ?_
    rw [namespaces_clearNamespace, getElem?_foldl_erase]
    exact and_congr_left fun registered => not_congr (exact.mem_names_of_getElem? registered scope).symm
  · intro n
    have objects := getElem?_foldl_erase r.objects (r.names scope) n
    have namespaces := getElem?_foldl_erase r.namespaces (r.names scope) n
    rw [objects_clearNamespace, namespaces_clearNamespace, Std.ExtTreeMap.mem_iff_isSome_getElem?,
      Std.ExtTreeMap.mem_iff_isSome_getElem?, Option.isSome_iff_exists, Option.isSome_iff_exists]
    simp only [objects, namespaces, exists_and_left, ← Option.isSome_iff_exists,
      ← Std.ExtTreeMap.mem_iff_isSome_getElem?, exact.objects]

theorem Exact.enrol (exact : r.Exact) (object : T) (name : N) (ns : Namespace) :
    (r.enrol object name ns).2.Exact := by
  unfold Registry.enrol Registry.add
  by_cases used : r.contains name
  · simpa [used] using exact
  · have free : r.objects[name]? = none := by simpa [contains] using used
    simpa [used] using exact.file free object ns

/-- The step lemma: every request leaves a registry exact. -/
theorem Exact.serve (exact : r.Exact) (request : Request N T) : (r.serve request).2.Exact := by
  cases request with
  | add object name ns => exact exact.enrol object name ns
  | addCore object name => exact exact.enrol object name .core
  | write name f => exact exact.modify name f
  | remove name => exact exact.remove name
  | clear => exact exact_empty
  | clearNamespace ns => exact exact.clearNamespace ns
  | get | has | namespaceOf | names | allNames | size | isEmpty => exact exact

/-- The run lemma: so do any requests, by induction on them. -/
theorem Exact.after (exact : r.Exact) (requests : List (Request N T)) :
    (Request.after Registry.serve r requests).Exact := by
  induction requests generalizing r with
  | nil => exact exact
  | cons request requests ih => exact ih (exact.serve request)

/-- Every registry that can be reached is exact. -/
theorem exact_reached (requests : List (Request N T)) : (reached requests).Exact :=
  exact_empty.after requests

/-- The numbers in the diagnostic text count objects, plugins with names of their own, and addins with names. -/
theorem Exact.debug_eq (exact : r.Exact) :
    r.debug = Text.fields "NamespaceNamedStorage"
      [("objects", toString {name | name ∈ r.objects}.ncard),
       ("plugins",
         toString {plugin | ∃ name : N, r.namespaces[name]? = some (Namespace.plugin plugin)}.ncard),
       ("addins",
         toString {ns : Namespace | ∃ name : N, ns.isAddin ∧ r.namespaces[name]? = some ns}.ncard)] := by
  rw [debug, Index.size_eq_ncard r.objects, exact.pluginNames.size_eq, exact.addinNames.size_eq]

/-- Every index entry stands for something registered and is all of it, after any requests. -/
theorem indices_of_reached (requests : List (Request N T)) :
    let r := reached requests
    (∀ name, name ∈ r.objects ↔ name ∈ r.namespaces) ∧
      (∀ plugin, (plugin ∈ r.pluginNames ↔ ∃ name : N, r.namespaces[name]? = some (.plugin plugin)) ∧
        ∀ names, r.pluginNames[plugin]? = some names →
          ∀ name, name ∈ names ↔ r.namespaces[name]? = some (.plugin plugin)) ∧
      (∀ ns, (ns ∈ r.addinNames ↔ ∃ name : N, ns.isAddin ∧ r.namespaces[name]? = some ns) ∧
        ∀ names, r.addinNames[ns]? = some names →
          ∀ name, name ∈ names ↔ ns.isAddin ∧ r.namespaces[name]? = some ns) ∧
      (∀ plugin,
        (plugin ∈ r.pluginAddins ↔
          ∃ ns, ns.isAddin ∧ ns.pluginId = plugin ∧ ∃ name : N, r.namespaces[name]? = some ns) ∧
        ∀ addins, r.pluginAddins[plugin]? = some addins →
          ∀ ns, ns ∈ addins ↔ ns.isAddin ∧ ns.pluginId = plugin ∧ ∃ name : N, r.namespaces[name]? = some ns) ∧
      r.debug = Text.fields "NamespaceNamedStorage"
        [("objects", toString {name | name ∈ r.objects}.ncard),
         ("plugins",
           toString {plugin | ∃ name : N, r.namespaces[name]? = some (Namespace.plugin plugin)}.ncard),
         ("addins",
           toString {ns : Namespace | ∃ name : N, ns.isAddin ∧ r.namespaces[name]? = some ns}.ncard)] := by
  have exact := exact_reached requests
  exact ⟨exact.objects, exact.pluginNames, exact.addinNames, exact.pluginAddins, exact.debug_eq⟩

/-- A name that was removed and is registered again in another namespace. -/
theorem indices_of_reached_moved :
    let requests : List (Request String Nat) :=
      [.add 1 "a" (.plugin 4), .add 2 "b" (.of 4 1), .remove "b", .add 3 "b" (.plugin 9),
        .clearNamespace (.plugin 4)]
    Namespace.of 4 1 ∉ (reached requests).addinNames ∧ 9 ∈ (reached requests).pluginNames := by
  intro requests
  have namespaces : (reached requests).namespaces = .insert ∅ "b" (.plugin 9) := by decide +kernel
  obtain ⟨-, direct, addins, -⟩ := indices_of_reached requests
  rw [(addins _).1, (direct _).1, namespaces]
  refine ⟨?_, "b", by simp⟩
  rintro ⟨name, -, found⟩
  by_cases same : "b" = name
  · subst same
    simp at found
    revert found
    decide
  · simp [same] at found

end PluginHost.Registry
