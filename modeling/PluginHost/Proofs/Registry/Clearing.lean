import PluginHost.Proofs.Registry.Index
import PluginHost.Registry.Basic

namespace PluginHost.Registry

variable {N T : Type} [Ord N] [Std.TransOrd N]

theorem takeNames_append (r : Registry N T) (xs ys : List N) :
    r.takeNames (xs ++ ys) = ((r.takeNames xs).1 ++ ((r.takeNames xs).2.takeNames ys).1,
      ((r.takeNames xs).2.takeNames ys).2) := by
  induction xs generalizing r with
  | nil => simp [takeNames]
  | cons name xs ih => simp [takeNames, ih]

/-- Taking names out empties no group: the groups are left to the caller. -/
theorem takeNames_eq (r : Registry N T) (names : List N) :
    (r.takeNames names).2 = { r with
      objects := names.foldl (·.erase ·) r.objects
      namespaces := names.foldl (·.erase ·) r.namespaces } := by
  induction names generalizing r with
  | nil => rfl
  | cons name names ih => simp [takeNames, ih]

/-- What is taken, the objects decide and no index. -/
theorem takeNames_fst_congr {r s : Registry N T} (same : r.objects = s.objects) (names : List N) :
    (r.takeNames names).1 = (s.takeNames names).1 := by
  induction names generalizing r s with
  | nil => rfl
  | cons name names ih =>
    simp only [takeNames, same]
    exact congrArg _ (ih rfl)

/-- The names under the addins of a list. -/
def namesUnder (r : Registry N T) (addins : List Namespace) : List N :=
  addins.flatMap fun addin => (r.addinNames.members addin).toList

/-- To clear addins is to take the names under them and to drop their sets, by induction on the addins. -/
theorem clearAddins_eq (r : Registry N T) {addins : List Namespace} (nodup : addins.Nodup) :
    r.clearAddins addins = ((r.takeNames (r.namesUnder addins)).1,
      { (r.takeNames (r.namesUnder addins)).2 with
        addinNames := addins.foldl (·.erase ·) r.addinNames
        pluginAddins := addins.foldl (fun index addin => index.discard addin.pluginId addin)
          r.pluginAddins }) := by
  induction addins generalizing r with
  | nil => rfl
  | cons addin addins ih =>
    obtain ⟨fresh, nodup⟩ := List.nodup_cons.mp nodup
    -- the other addins keep their names, since the addins are distinct
    have under : (r.clearAddin addin).2.namesUnder addins = r.namesUnder addins := by
      unfold namesUnder
      apply List.flatMap_congr
      intro other member
      have differ : addin ≠ other := fun same => fresh (same ▸ member)
      simp [clearAddin, forgetAddin, takeNames_eq, Index.members, Std.ExtTreeMap.getElem?_erase, differ]
    have here : (r.clearAddin addin).1 = (r.takeNames (r.addinNames.members addin).toList).1 := by
      simp only [clearAddin]
      exact takeNames_fst_congr (by rfl) _
    have later : ((r.clearAddin addin).2.takeNames (r.namesUnder addins)).1 =
        ((r.takeNames (r.addinNames.members addin).toList).2.takeNames (r.namesUnder addins)).1 := by
      apply takeNames_fst_congr
      simp [clearAddin, forgetAddin, takeNames_eq]
    have whole : r.namesUnder (addin :: addins) =
        (r.addinNames.members addin).toList ++ r.namesUnder addins := rfl
    rw [whole, takeNames_append]
    simp only [clearAddins, ih _ nodup, under, here, later, takeNames_eq]
    simp only [clearAddin, forgetAddin, takeNames_eq, List.foldl_cons]

theorem clearAddin_snd (r : Registry N T) (ns : Namespace) :
    (r.clearAddin ns).2 = { (r.takeNames (r.addinNames.members ns).toList).2 with
      addinNames := r.addinNames.erase ns
      pluginAddins := r.pluginAddins.discard ns.pluginId ns } := by
  simp [clearAddin, forgetAddin, takeNames_eq]

/-- The names that go with a plugin: its own, then those of its addins. -/
def namesOf (r : Registry N T) (plugin : PluginId) : List N :=
  (r.pluginNames.members plugin).toList ++ r.namesUnder (r.pluginAddins.members plugin).toList

theorem nodup_toList {K : Type} [Ord K] [Std.TransOrd K] (set : Std.ExtTreeSet K compare) :
    set.toList.Nodup :=
  set.distinct_toList.imp fun differ same => differ (by simp [same])

theorem clearPlugin_fst (r : Registry N T) (plugin : PluginId) :
    (r.clearPlugin plugin).1 = (r.takeNames (r.namesOf plugin)).1 := by
  simp only [clearPlugin, clearAddins_eq _ (nodup_toList _), namesOf, takeNames_append]
  exact congrArg₂ _ (takeNames_fst_congr (by rfl) _) (by
    simp only [takeNames_eq]
    exact takeNames_fst_congr (by rfl) _)

theorem clearPlugin_snd (r : Registry N T) (plugin : PluginId) :
    (r.clearPlugin plugin).2 = { (r.takeNames (r.namesOf plugin)).2 with
      pluginNames := r.pluginNames.erase plugin
      addinNames := (r.pluginAddins.members plugin).toList.foldl (·.erase ·) r.addinNames
      pluginAddins := (r.pluginAddins.members plugin).toList.foldl
        (fun index addin => index.discard addin.pluginId addin) (r.pluginAddins.erase plugin) } := by
  simp only [clearPlugin, clearAddins_eq _ (nodup_toList _), namesOf, takeNames_append, takeNames_eq]
  rfl

theorem names_eq (r : Registry N T) (scope : Namespace) :
    r.names scope =
      if scope.isAddin then (r.addinNames.members scope).toList else r.namesOf scope.pluginId := rfl

/-- What is cleared with a scope is what is under the names that are listed in it. -/
theorem clearNamespace_fst (r : Registry N T) (scope : Namespace) :
    (r.clearNamespace scope).1 = (r.takeNames (r.names scope)).1 := by
  unfold clearNamespace
  rw [names_eq]
  split
  · simp only [clearAddin]
    exact takeNames_fst_congr (by rfl) _
  · exact clearPlugin_fst r _

/-- What is left are the objects under the other names. -/
theorem objects_clearNamespace (r : Registry N T) (scope : Namespace) :
    (r.clearNamespace scope).2.objects = (r.names scope).foldl (·.erase ·) r.objects := by
  unfold clearNamespace
  rw [names_eq]
  split
  · simp [clearAddin_snd, takeNames_eq]
  · simp [clearPlugin_snd, takeNames_eq]

/-- What is left are the namespaces of the other names. -/
theorem namespaces_clearNamespace (r : Registry N T) (scope : Namespace) :
    (r.clearNamespace scope).2.namespaces = (r.names scope).foldl (·.erase ·) r.namespaces := by
  unfold clearNamespace
  rw [names_eq]
  split
  · simp [clearAddin_snd, takeNames_eq]
  · simp [clearPlugin_snd, takeNames_eq]

variable [Std.LawfulEqOrd N]

/-- What is found after erasures was there and was not erased. -/
theorem getElem?_foldl_erase {V : Type} (t : Std.ExtTreeMap N V compare) (names : List N) (n : N) (v : V) :
    (names.foldl (·.erase ·) t)[n]? = some v ↔ n ∉ names ∧ t[n]? = some v := by
  induction names generalizing t with
  | nil => simp
  | cons name names ih =>
    rw [List.foldl_cons, ih, Std.ExtTreeMap.getElem?_erase]
    by_cases same : name = n
    · simp [same]
    · simp [same, Ne.symm (a := name) same]

/-- The objects are taken out in the order of their names. -/
theorem takeNames_fst (r : Registry N T) {names : List N} (nodup : names.Nodup) :
    (r.takeNames names).1 = names.filterMap fun name => r.objects[name]? := by
  induction names generalizing r with
  | nil => rfl
  | cons name names ih =>
    obtain ⟨fresh, nodup⟩ := List.nodup_cons.mp nodup
    have rest : names.filterMap (fun n => (r.objects.erase name)[n]?) =
        names.filterMap fun n => r.objects[n]? := by
      apply List.filterMap_congr
      intro n member
      have differ : name ≠ n := fun same => fresh (same ▸ member)
      simp [Std.ExtTreeMap.getElem?_erase, differ]
    simp only [takeNames, ih _ nodup, rest]
    cases found : r.objects[name]? <;> simp [found]

end PluginHost.Registry
