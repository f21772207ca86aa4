import PluginHost.Proofs.Registry.Exact
import PluginHost.Registry.Parcel

namespace PluginHost.Registry

section Balance

variable {N T : Type} [Ord N] [Std.TransOrd N] [Std.LawfulEqOrd N]

theorem values_perm_erase (t : Std.ExtTreeMap N T compare) (name : N) :
    (t.toList.map (·.2)).Perm (t[name]?.toList ++ (t.erase name).toList.map (·.2)) := by
  cases found : t[name]? with
  | none => simp [erase_of_none found]
  | some object => exact (toList_perm_erase found).map (·.2)

theorem remove_perm (r : Registry N T) (name : N) :
    r.allObjects.Perm ((r.remove name).1.toList ++ (r.remove name).2.allObjects) := by
  obtain ⟨same, -⟩ | ⟨taken, rest, -⟩ := r.remove_eq name
  · simp [same]
  · simpa only [allObjects, taken, rest] using values_perm_erase r.objects name

/-- The same for several names, by induction on them. -/
theorem takeNames_perm (r : Registry N T) (names : List N) :
    r.allObjects.Perm ((r.takeNames names).1 ++ (r.takeNames names).2.allObjects) := by
  induction names generalizing r with
  | nil => exact .refl _
  | cons name names ih =>
    have first := values_perm_erase r.objects name
    have rest := ih { r with objects := r.objects.erase name, namespaces := r.namespaces.erase name }
    simp only [takeNames, List.append_assoc]
    exact first.trans (rest.append_left _)

theorem clearNamespace_perm (r : Registry N T) (scope : Namespace) :
    r.allObjects.Perm ((r.clearNamespace scope).1 ++ (r.clearNamespace scope).2.allObjects) := by
  have taken := takeNames_perm r (r.names scope)
  rwa [takeNames_eq, ← clearNamespace_fst, allObjects, ← objects_clearNamespace] at taken

/-- What is added comes to what was there. -/
theorem add_perm {r next : Registry N T} {object : T} {name : N} {ns : Namespace}
    (accepted : r.add object name ns = .ok next) : next.allObjects.Perm (object :: r.allObjects) := by
  unfold Registry.add at accepted
  split at accepted
  · cases accepted
  · rename_i free
    cases accepted
    have absent : r.objects[name]? = none := by simpa [contains] using free
    have whole := values_perm_erase (r.objects.insert name object) name
    rw [erase_insert, erase_of_none absent] at whole
    simpa [allObjects] using whole

end Balance

section View

variable {N T S : Type} [Ord N] [Std.TransOrd N]

/-- The registry with its objects seen in another way. Names and namespaces are as before. -/
def mapObjects (g : T → S) (r : Registry N T) : Registry N S :=
  { r with objects := r.objects.map fun _ object => g object }

variable (g : T → S) (r : Registry N T)

theorem allObjects_mapObjects : (r.mapObjects g).allObjects = r.allObjects.map g := by
  simp [mapObjects, allObjects, Function.comp_def]

theorem ungroup_mapObjects (name : N) (ns : Namespace) :
    (r.mapObjects g).ungroup name ns = (r.ungroup name ns).mapObjects g := by
  unfold ungroup
  split
  · dsimp only [mapObjects]
    split <;> rfl
  · rfl

variable [Std.LawfulEqOrd N]

theorem file_mapObjects (object : T) (name : N) (ns : Namespace) :
    (r.mapObjects g).file (g object) name ns = (r.file object name ns).mapObjects g := by
  have objects : (r.objects.map fun _ object => g object).insert name (g object) =
      (r.objects.insert name object).map fun _ object => g object := by
    apply Std.ExtTreeMap.ext_getElem?
    intro n
    by_cases same : name = n <;> simp [Std.ExtTreeMap.getElem?_insert, same]
  unfold file
  split <;> simp only [mapObjects, objects]

/-- To add does the same whatever the objects are. -/
theorem add_mapObjects (object : T) (name : N) (ns : Namespace) :
    (r.mapObjects g).add (g object) name ns =
      ((r.add object name ns).mapError g).map (·.mapObjects g) := by
  have same : (r.mapObjects g).contains name = r.contains name := by simp [mapObjects, contains]
  unfold add
  rw [same]
  split
  · rfl
  · exact congrArg Except.ok (file_mapObjects g r object name ns)

theorem modify_mapObjects {f : S → S} {h : T → T} (same : ∀ object, f (g object) = g (h object)) (name : N) :
    (r.mapObjects g).modify name f = (r.modify name h).mapObjects g := by
  have objects : (r.objects.map fun _ object => g object).modify name f =
      (r.objects.modify name h).map fun _ object => g object := by
    apply Std.ExtTreeMap.ext_getElem?
    intro n
    by_cases here : name = n <;> simp [Std.ExtTreeMap.getElem?_modify, here, Function.comp_def, same]
  simp only [modify, mapObjects, objects]

theorem map_erase (t : Std.ExtTreeMap N T compare) (name : N) :
    (t.map fun _ object => g object).erase name = (t.erase name).map fun _ object => g object := by
  apply Std.ExtTreeMap.ext_getElem?
  intro n
  by_cases same : name = n <;> simp [Std.ExtTreeMap.getElem?_erase, same]

/-- So does to remove. -/
theorem remove_mapObjects (name : N) :
    (r.mapObjects g).remove name = ((r.remove name).1.map g, (r.remove name).2.mapObjects g) := by
  have namespaces : (r.mapObjects g).namespaces = r.namespaces := rfl
  unfold remove
  rw [namespaces]
  split
  · rfl
  · rename_i ns _
    have grouped := ungroup_mapObjects g { r with namespaces := r.namespaces.erase name } name ns
    dsimp only [mapObjects] at grouped ⊢
    rw [grouped]
    simp [map_erase]

theorem takeNames_mapObjects (names : List N) :
    (r.mapObjects g).takeNames names =
      ((r.takeNames names).1.map g, (r.takeNames names).2.mapObjects g) := by
  induction names generalizing r with
  | nil => rfl
  | cons name names ih =>
    have rest := ih { r with objects := r.objects.erase name, namespaces := r.namespaces.erase name }
    dsimp only [mapObjects] at rest
    simp only [takeNames, mapObjects, map_erase, rest]
    cases found : r.objects[name]? <;> simp [found]

theorem map_foldl_erase (t : Std.ExtTreeMap N T compare) (names : List N) :
    names.foldl (·.erase ·) (t.map fun _ object => g object) =
      (names.foldl (·.erase ·) t).map fun _ object => g object := by
  induction names generalizing t with
  | nil => rfl
  | cons name names ih => rw [List.foldl_cons, map_erase, ih, List.foldl_cons]

/-- So does to clear. -/
theorem clearNamespace_mapObjects (scope : Namespace) :
    (r.mapObjects g).clearNamespace scope =
      ((r.clearNamespace scope).1.map g, (r.clearNamespace scope).2.mapObjects g) := by
  have names : (r.mapObjects g).names scope = r.names scope := rfl
  apply Prod.ext
  · rw [clearNamespace_fst, clearNamespace_fst, names, takeNames_mapObjects]
  · unfold clearNamespace
    split
    · simp only [clearAddin_snd, takeNames_eq, mapObjects, map_foldl_erase]
    · simp only [clearPlugin_snd, takeNames_eq, mapObjects, map_foldl_erase]
      rfl

end View

end PluginHost.Registry
