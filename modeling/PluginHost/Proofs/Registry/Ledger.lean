import PluginHost.Proofs.Registry.Exact

namespace PluginHost

/-- What is registered, by name. -/
abbrev Ledger (N T : Type) [Ord N] := Std.ExtTreeMap N (Namespace × T) compare

namespace Ledger

variable {N T : Type} [Ord N] [Std.TransOrd N]

/-- The entries that a scope covers, in the order of their names. -/
def within (l : Ledger N T) (scope : Namespace) : List (N × Namespace × T) :=
  l.toList.filter fun entry => scope.covers entry.2.1

/-- A name is entered once. -/
def enrol (l : Ledger N T) (object : T) (name : N) (ns : Namespace) : Answer N T × Ledger N T :=
  if l.contains name then (.refused object, l) else (.accepted, l.insert name (ns, object))

/-- The answer to a request, and what is left. -/
def serve (l : Ledger N T) : Request N T → Answer N T × Ledger N T
  | .add object name ns => l.enrol object name ns
  | .addCore object name => l.enrol object name .core
  | .get name => (.object (l[name]?.map (·.2)), l)
  | .write name f => (.object (l[name]?.map (·.2)), l.modify name fun entry => (entry.1, f entry.2))
  | .has name => (.flag (l.contains name), l)
  | .namespaceOf name => (.scope (l[name]?.map (·.1)), l)
  | .remove name => (.object (l[name]?.map (·.2)), l.erase name)
  | .clear => (.destroyed (l.toList.map (·.2.2)), ∅)
  | .clearNamespace ns =>
    (.destroyed ((l.within ns).map (·.2.2)), l.filter fun _ entry => !ns.covers entry.1)
  | .names ns => (.names ((l.within ns).map (·.1)), l)
  | .allNames => (.names l.keys, l)
  | .size => (.count l.size, l)
  | .isEmpty => (.flag l.isEmpty, l)

end Ledger

namespace Registry

variable {N T : Type} [Ord N] [Std.TransOrd N] {r : Registry N T} {l : Ledger N T}

/-- A registry with exact indices records what stands in a ledger. -/
structure Records (r : Registry N T) (l : Ledger N T) : Prop where
  exact : r.Exact
  objects : ∀ name : N, r.objects[name]? = l[name]?.map (·.2)
  namespaces : ∀ name : N, r.namespaces[name]? = l[name]?.map (·.1)

theorem records_empty : (empty : Registry N T).Records ∅ where
  exact := exact_empty
  objects := fun name => by simp [empty]
  namespaces := fun name => by simp [empty]

theorem nodup_within (l : Ledger N T) (scope : Namespace) : ((l.within scope).map (·.1)).Nodup := by
  refine List.Nodup.sublist (List.filter_sublist.map _) ?_
  rw [Std.ExtTreeMap.map_fst_toList_eq_keys]
  exact Std.ExtTreeMap.nodup_keys

variable [Std.LawfulEqOrd N]

theorem Records.objects_eq (records : r.Records l) : r.objects = l.map fun _ entry => entry.2 := by
  apply Std.ExtTreeMap.ext_getElem?
  intro name
  simp [records.objects]

theorem Records.contains_eq (records : r.Records l) (name : N) : r.contains name = l.contains name := by
  simp [contains, records.objects_eq]

/-- An object is accepted or refused by the registry just as by the ledger, which is then recorded again. -/
theorem Records.enrol (records : r.Records l) (object : T) (name : N) (ns : Namespace) :
    (r.enrol object name ns).1 = (l.enrol object name ns).1 ∧
      (r.enrol object name ns).2.Records (l.enrol object name ns).2 := by
  have exact := records.exact.enrol object name ns
  have same := records.contains_eq name
  unfold Registry.enrol Ledger.enrol Registry.add at *
  rw [← same]
  by_cases used : r.contains name
  · simpa [used] using records
  · simp only [used] at exact ⊢
    refine ⟨rfl, exact, fun n => ?_, fun n => ?_⟩
    · by_cases here : name = n <;> simp [Std.ExtTreeMap.getElem?_insert, here, records.objects]
    · by_cases here : name = n <;>
        simp [namespaces_file, Std.ExtTreeMap.getElem?_insert, here, records.namespaces]

/-- A stored object changed in place is changed in the ledger too; neither moves it between namespaces. -/
theorem Records.write (records : r.Records l) (name : N) (f : T → T) :
    (r.modify name f).Records (l.modify name fun entry => (entry.1, f entry.2)) where
  exact := records.exact.modify name f
  objects := fun n => by
    by_cases here : name = n <;>
      simp [Registry.modify, Std.ExtTreeMap.getElem?_modify, here, records.objects, Function.comp_def]
  namespaces := fun n => by
    by_cases here : name = n <;>
      simp [Registry.modify, Std.ExtTreeMap.getElem?_modify, here, records.namespaces, Function.comp_def]

/-- Removing a name erases its entry in the ledger. -/
theorem Records.remove (records : r.Records l) (name : N) : (r.remove name).2.Records (l.erase name) := by
  obtain ⟨-, objects, namespaces⟩ := records.exact.remove_eq name
  refine ⟨records.exact.remove name, fun n => ?_, fun n => ?_⟩
  · rw [objects]
    by_cases here : name = n <;> simp [Std.ExtTreeMap.getElem?_erase, here, records.objects]
  · rw [namespaces]
    by_cases here : name = n <;> simp [Std.ExtTreeMap.getElem?_erase, here, records.namespaces]

/-- A scope covers the same names in a registry as in its ledger, each once. -/
theorem Records.names_perm (records : r.Records l) (scope : Namespace) :
    (r.names scope).Perm ((l.within scope).map (·.1)) := by
  rw [List.perm_ext_iff_of_nodup (records.exact.nodup_names scope) (nodup_within l scope)]
  intro name
  simp [records.exact.mem_names, records.namespaces, Ledger.within]

/-- What a clearance takes out is what the ledger has within the scope, in some order. -/
theorem Records.taken_perm (records : r.Records l) (scope : Namespace) :
    (r.clearNamespace scope).1.Perm ((l.within scope).map (·.2.2)) := by
  have objects : ((l.within scope).map (·.1)).filterMap (fun name => r.objects[name]?) =
      (l.within scope).map (·.2.2) := by
    rw [List.filterMap_map, ← List.filterMap_eq_map]
    apply List.filterMap_congr
    intro entry member
    have stored := Std.ExtTreeMap.mem_toList_iff_getElem?_eq_some.mp (List.mem_of_mem_filter member)
    simp [records.objects, stored]
  rw [clearNamespace_fst, takeNames_fst r (records.exact.nodup_names scope), ← objects]
  exact (records.names_perm scope).filterMap _

theorem Records.getElem?_kept (records : r.Records l) {V : Type} {t : Std.ExtTreeMap N V compare}
    {part : Namespace × T → V} (same : ∀ name : N, t[name]? = l[name]?.map part) (scope : Namespace)
    (name : N) :
    ((r.names scope).foldl (·.erase ·) t)[name]? =
      (l.filter fun _ entry => !scope.covers entry.1)[name]?.map part := by
  ext v
  simp only [getElem?_foldl_erase, records.exact.mem_names, records.namespaces, same,
    Std.ExtTreeMap.getElem?_filter']
  cases l[name]? with
  | none => simp
  | some entry => cases covered : scope.covers entry.1 <;> simp [Option.filter, covered]

/-- A clearance keeps exactly the ledger entries that the scope does not cover. -/
theorem Records.clearNamespace (records : r.Records l) (scope : Namespace) :
    (r.clearNamespace scope).2.Records (l.filter fun _ entry => !scope.covers entry.1) where
  exact := records.exact.clearNamespace scope
  objects := fun name => by
    rw [objects_clearNamespace]
    exact records.getElem?_kept records.objects scope name
  namespaces := fun name => by
    rw [namespaces_clearNamespace]
    exact records.getElem?_kept records.namespaces scope name

/-- Every request is answered as the ledger answers it, and leads to a registry that records the ledger again. -/
theorem Records.serve (records : r.Records l) (request : Request N T) :
    (r.serve request).1 = (l.serve request).1 ∧ (r.serve request).2.Records (l.serve request).2 := by
  cases request with
  | add object name ns => exact records.enrol object name ns
  | addCore object name => exact records.enrol object name .core
  | get name => exact ⟨congrArg Answer.object (records.objects name), records⟩
  | write name f => exact ⟨congrArg Answer.object (records.objects name), records.write name f⟩
  | has name => exact ⟨congrArg Answer.flag (records.contains_eq name), records⟩
  | namespaceOf name => exact ⟨congrArg Answer.scope (records.namespaces name), records⟩
  | remove name =>
    have taken := (records.exact.remove_eq name).1.trans (records.objects name)
    exact ⟨congrArg Answer.object taken, records.remove name⟩
  | clear =>
    refine ⟨?_, records_empty⟩
    simp [Registry.serve, Ledger.serve, Registry.clear, allObjects, records.objects_eq, Function.comp_def]
  | clearNamespace ns =>
    exact ⟨congrArg Answer.destroyed (Multiset.coe_eq_coe.mpr (records.taken_perm ns)),
      records.clearNamespace ns⟩
  | names ns => exact ⟨congrArg Answer.names (Multiset.coe_eq_coe.mpr (records.names_perm ns)), records⟩
  | allNames =>
    refine ⟨?_, records⟩
    simp [Registry.serve, Ledger.serve, Registry.allNames, records.objects_eq]
  | size =>
    refine ⟨?_, records⟩
    simp [Registry.serve, Ledger.serve, Registry.size, records.objects_eq]
  | isEmpty =>
    refine ⟨?_, records⟩
    simp [Registry.serve, Ledger.serve, Registry.isEmpty, records.objects_eq,
      Std.ExtTreeMap.isEmpty_eq_size_beq_zero]

/-- By induction over the requests, whole lists of requests are answered alike. -/
theorem Records.after (records : r.Records l) (requests : List (Request N T)) :
    Request.answers Registry.serve r requests = Request.answers Ledger.serve l requests ∧
      (Request.after Registry.serve r requests).Records (Request.after Ledger.serve l requests) := by
  induction requests generalizing r l with
  | nil => exact ⟨rfl, records⟩
  | cons request requests ih =>
    obtain ⟨answer, next⟩ := records.serve request
    obtain ⟨answers, last⟩ := ih next
    exact ⟨congrArg₂ List.cons answer answers, last⟩

/-- Every request is answered from the names, their namespaces and their objects alone: the indices save
time and change no answer. What is listed under a namespace is what is cleared with it. -/
theorem answers_eq_ledger (requests : List (Request N T)) :
    Request.answers Registry.serve empty requests = Request.answers Ledger.serve (∅ : Ledger N T) requests ∧
      ∀ scope, ((reached requests).names scope).Nodup ∧
        ∀ name, name ∈ (reached requests).names scope ↔
          (reached requests).contains name ∧ ¬ ((reached requests).clearNamespace scope).2.contains name :=
  ⟨(records_empty.after requests).1, fun scope =>
    ⟨(exact_reached requests).nodup_names scope, (exact_reached requests).mem_names_iff_cleared scope⟩⟩

/-- Clearing a plugin also empties its add-ins; the object refused before stays with its caller. -/
theorem answers_eq_ledger_cascade :
    Request.answers Registry.serve empty [.add 1 "a" (.plugin 4), .add 2 "b" (.of 4 1), .add 3 "a" (.of 4 2),
      .clearNamespace (.plugin 4), .size] =
        [.accepted, .accepted, .refused 3, .destroyed {1, 2}, .count 0] := by
  rw [(answers_eq_ledger _).1]
  decide +kernel

end Registry

end PluginHost
