import PluginHost.Controller
import PluginHost.Proofs.Registry.Exact

namespace PluginHost

/-- A registered manager, whatever it is at the moment. -/
structure Member where
  key : TypeKey
  id : ManagerId
  ns : Namespace
  deriving DecidableEq, Repr

variable {M : Type} {r : Registry TypeKey (Instance M)} {crew : List Member}

namespace Registry

/-- The registry holds the members of a crew and nobody else. -/
structure Holds (r : Registry TypeKey (Instance M)) (crew : List Member) : Prop where
  exact : r.Exact
  keys : (crew.map (·.key)).Nodup
  mem_iff : ∀ x, x ∈ crew ↔ r.objects[x.key]?.map (·.id) = some x.id ∧ r.namespaces[x.key]? = some x.ns

theorem holds_empty : (empty : Registry TypeKey (Instance M)).Holds [] where
  exact := exact_empty
  keys := List.nodup_nil
  mem_iff := fun x => by simp [empty]

theorem Holds.object (holds : r.Holds crew) {x : Member} (member : x ∈ crew) :
    ∃ m, r.objects[x.key]? = some m ∧ m.id = x.id :=
  Option.map_eq_some_iff.mp ((holds.mem_iff x).mp member).1

/-- Whoever is stored is a member. -/
theorem Holds.member (holds : r.Holds crew) {key : TypeKey} {m : Instance M}
    (found : r.objects[key]? = some m) :
    ∃ ns, ⟨key, m.id, ns⟩ ∈ crew := by
  have listed : key ∈ r.namespaces :=
    (holds.exact.objects key).mp (by simp [Std.ExtTreeMap.mem_iff_isSome_getElem?, found])
  obtain ⟨ns, registered⟩ := Option.isSome_iff_exists.mp (Std.ExtTreeMap.mem_iff_isSome_getElem?.mp listed)
  exact ⟨ns, (holds.mem_iff _).mpr ⟨by simp [found], registered⟩⟩

/-- The types of the crew are those that are taken. -/
theorem Holds.mem_keys (holds : r.Holds crew) (key : TypeKey) : key ∈ crew.map (·.key) ↔ r.contains key := by
  rw [contains, Std.ExtTreeMap.contains_eq_isSome_getElem?, Option.isSome_iff_exists, List.mem_map]
  constructor
  · rintro ⟨x, member, rfl⟩
    obtain ⟨m, found, -⟩ := holds.object member
    exact ⟨m, found⟩
  · rintro ⟨m, found⟩
    obtain ⟨ns, member⟩ := holds.member found
    exact ⟨_, member, rfl⟩

/-- To change managers changes nothing about who is in the crew. -/
theorem Holds.modify (holds : r.Holds crew) (key : TypeKey) {f : Instance M → Instance M}
    (same : ∀ m, (f m).id = m.id) : (r.modify key f).Holds crew where
  exact := holds.exact.modify key f
  keys := holds.keys
  mem_iff := by
    intro x
    rw [holds.mem_iff]
    have ids : (r.objects.modify key f)[x.key]?.map (·.id) = r.objects[x.key]?.map (·.id) := by
      rw [Std.ExtTreeMap.getElem?_modify]
      split
      · rename_i here
        rw [Std.LawfulEqOrd.eq_of_compare here]
        simp [Function.comp_def, same]
      · rfl
    simp only [Registry.modify, ids]

/-- Who registers under a free type is the last of the crew. -/
theorem Holds.file (holds : r.Holds crew) {key : TypeKey} (free : ¬ r.contains key) (m : Instance M)
    (ns : Namespace) :
    (r.file m key ns).Holds (crew ++ [⟨key, m.id, ns⟩]) := by
  have absent : r.objects[key]? = none := by simpa [contains] using free
  have unlisted : key ∉ crew.map (·.key) := fun listed => free ((holds.mem_keys key).mp listed)
  refine ⟨holds.exact.file absent m ns, ?_, ?_⟩
  · simpa [List.nodup_append, holds.keys] using unlisted
  · intro x
    simp only [List.mem_append, List.mem_singleton, objects_file, namespaces_file,
      Std.ExtTreeMap.getElem?_insert]
    by_cases here : key = x.key
    · have other : x ∉ crew := fun member => unlisted (here ▸ List.mem_map_of_mem member)
      obtain ⟨_, id, ns'⟩ := x
      subst here
      simp [other, eq_comm]
    · have differ : x ≠ ⟨key, m.id, ns⟩ := fun same => here (by simp [same])
      simp [here, differ, holds.mem_iff]

/-- The last member is taken out. -/
theorem Holds.remove {x : Member} (holds : r.Holds (crew ++ [x])) :
    (r.remove x.key).1.map (·.id) = some x.id ∧ (r.remove x.key).2.Holds crew := by
  obtain ⟨taken, objects, namespaces⟩ := holds.exact.remove_eq x.key
  obtain ⟨keys, -, alone⟩ := List.nodup_append.mp (List.map_append ▸ holds.keys)
  refine ⟨by rw [taken]; exact ((holds.mem_iff x).mp (by simp)).1, holds.exact.remove x.key, keys, ?_⟩
  intro y
  have member := holds.mem_iff y
  rw [objects, namespaces, Std.ExtTreeMap.getElem?_erase, Std.ExtTreeMap.getElem?_erase]
  by_cases here : x.key = y.key
  · have other : y ∉ crew := fun member => alone _ (List.mem_map_of_mem member) _ (by simp) here.symm
    simp [here, other]
  · have differ : y ≠ x := fun same => here (by rw [same])
    simpa [here, differ] using member

theorem Holds.mem_names (holds : r.Holds crew) {x : Member} (member : x ∈ crew) (scope : Namespace) :
    x.key ∈ r.names scope ↔ scope.covers x.ns :=
  holds.exact.mem_names_of_getElem? ((holds.mem_iff x).mp member).2 scope

/-- The covered members are listed by their names, in an order of the names' own. -/
theorem Holds.names_perm (holds : r.Holds crew) (scope : Namespace) :
    (r.names scope).Perm ((crew.filter fun x => scope.covers x.ns).map (·.key)) := by
  have keys : ((crew.filter fun x => scope.covers x.ns).map (·.key)).Nodup :=
    holds.keys.sublist (List.filter_sublist.map _)
  rw [List.perm_ext_iff_of_nodup (holds.exact.nodup_names scope) keys]
  intro key
  rw [List.mem_map]
  constructor
  · intro listed
    obtain ⟨x, member, rfl⟩ :=
      List.mem_map.mp ((holds.mem_keys key).mpr (holds.exact.contains_of_mem_names listed))
    exact ⟨x, List.mem_filter.mpr ⟨member, (holds.mem_names member scope).mp listed⟩, rfl⟩
  · rintro ⟨x, member, rfl⟩
    obtain ⟨member, covered⟩ := List.mem_filter.mp member
    exact (holds.mem_names member scope).mpr covered

/-- Clearing a scope takes out the members that it covers, in some order. -/
theorem Holds.taken_perm (holds : r.Holds crew) (scope : Namespace) :
    ((r.clearNamespace scope).1.map (·.id)).Perm ((crew.filter fun x => scope.covers x.ns).map (·.id)) := by
  have ids : ((crew.filter fun x => scope.covers x.ns).map (·.key)).filterMap
      (fun key => r.objects[key]?.map (·.id)) =
      (crew.filter fun x => scope.covers x.ns).map (·.id) := by
    rw [List.filterMap_map, ← List.filterMap_eq_map]
    apply List.filterMap_congr
    intro x member
    exact ((holds.mem_iff x).mp (List.mem_of_mem_filter member)).1
  rw [clearNamespace_fst, takeNames_fst r (holds.exact.nodup_names scope), List.map_filterMap, ← ids]
  exact (holds.names_perm scope).filterMap _

/-- Clearing a scope leaves the members that it does not cover, in their order. -/
theorem Holds.clearNamespace (holds : r.Holds crew) (scope : Namespace) :
    (r.clearNamespace scope).2.Holds (crew.filter fun x => !scope.covers x.ns) where
  exact := holds.exact.clearNamespace scope
  keys := holds.keys.sublist (List.filter_sublist.map _)
  mem_iff := by
    intro x
    have objects := getElem?_foldl_erase r.objects (r.names scope) x.key
    have namespaces := getElem?_foldl_erase r.namespaces (r.names scope) x.key
    simp only [objects_clearNamespace, namespaces_clearNamespace, Option.map_eq_some_iff, objects, namespaces,
      List.mem_filter]
    constructor
    · rintro ⟨member, spared⟩
      have unlisted : x.key ∉ r.names scope := by
        rw [holds.mem_names member]
        simpa using spared
      obtain ⟨m, found, id⟩ := holds.object member
      exact ⟨⟨m, ⟨unlisted, found⟩, id⟩, unlisted, ((holds.mem_iff x).mp member).2⟩
    · rintro ⟨⟨m, ⟨unlisted, found⟩, id⟩, -, registered⟩
      have member : x ∈ crew := (holds.mem_iff x).mpr ⟨by simp [found, id], registered⟩
      rw [holds.mem_names member] at unlisted
      exact ⟨member, by simpa using unlisted⟩

theorem Holds.objects_eq_empty (holds : r.Holds []) : r.objects = ∅ := by
  apply Std.ExtTreeMap.ext_getElem?
  intro key
  cases found : r.objects[key]? with
  | none => simp
  | some m =>
    obtain ⟨ns, member⟩ := holds.member found
    cases member

end Registry

end PluginHost
