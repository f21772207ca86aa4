import PluginHost.Registry.Index
import Mathlib.Data.Set.Card

namespace PluginHost.Index

variable {K N : Type} [Ord K] [Ord N] [Std.TransOrd K] [Std.TransOrd N] {index : Index K N}
  {R : K → N → Prop}

/-- The index lists a relation: a key is present exactly if it is related to something, and its set
is then what it is related to. -/
def Lists (index : Index K N) (R : K → N → Prop) : Prop :=
  ∀ key, (key ∈ index ↔ ∃ x, R key x) ∧ ∀ set, index[key]? = some set → ∀ x, x ∈ set ↔ R key x

theorem lists_empty : Lists (∅ : Index K N) fun _ _ => False := by
  intro key
  simp

theorem Lists.congr {S : K → N → Prop} (lists : index.Lists R) (same : ∀ key x, R key x ↔ S key x) :
    index.Lists S := by
  have equal : R = S := funext fun key => funext fun x => propext (same key x)
  exact equal ▸ lists

theorem Lists.not_of_none (lists : index.Lists R) {key : K} (absent : index[key]? = none) (x : N) :
    ¬ R key x := by
  intro related
  have present := (lists key).1.mpr ⟨x, related⟩
  rw [Std.ExtTreeMap.mem_iff_isSome_getElem?, absent] at present
  cases present

theorem Lists.mem_members (lists : index.Lists R) (key : K) (x : N) :
    x ∈ index.members key ↔ R key x := by
  unfold members
  cases found : index[key]? with
  | some set => exact (lists key).2 set found x
  | none => simpa using lists.not_of_none found x

/-- An index that lists nothing has no keys: no key with an empty set is ever left behind. -/
theorem Lists.eq_empty (lists : index.Lists R) (none : ∀ key x, ¬ R key x) : index = ∅ := by
  rw [Std.ExtTreeMap.eq_empty_iff_forall_not_mem]
  intro key present
  obtain ⟨x, related⟩ := (lists key).1.mp present
  exact none key x related

variable [Std.LawfulEqOrd K]

/-- An index holds no empty set and nothing that it does not list, so the relation decides it. -/
theorem Lists.unique [Std.LawfulEqOrd N] {other : Index K N} (lists : index.Lists R) (same : other.Lists R) :
    index = other := by
  apply Std.ExtTreeMap.ext_getElem?
  intro key
  have presence : key ∈ index ↔ key ∈ other := (lists key).1.trans (same key).1.symm
  rw [Std.ExtTreeMap.mem_iff_isSome_getElem?, Std.ExtTreeMap.mem_iff_isSome_getElem?] at presence
  cases here : index[key]? with
  | none => simpa [here] using presence
  | some set =>
    cases there : other[key]? with
    | none => simp [here, there] at presence
    | some twin =>
      refine congrArg some (Std.ExtTreeSet.ext_mem fun x => ?_)
      exact ((lists key).2 set here x).trans ((same key).2 twin there x).symm

theorem size_eq_ncard {V : Type} (t : Std.ExtTreeMap K V compare) : t.size = {key | key ∈ t}.ncard := by
  classical
  have same : {key | key ∈ t} = (t.keys.toFinset : Set K) := by
    ext key
    simp
  rw [same, Set.ncard_coe_finset, List.toFinset_card_of_nodup Std.ExtTreeMap.nodup_keys,
    Std.ExtTreeMap.length_keys]

theorem Lists.size_eq (lists : index.Lists R) : index.size = {key | ∃ x, R key x}.ncard := by
  simp only [size_eq_ncard, lists _]

/-- Erasing a key takes away what was listed under it and nothing else. -/
theorem Lists.erase (lists : index.Lists R) (key : K) :
    Lists (index.erase key) fun k x => key ≠ k ∧ R k x := by
  intro k
  by_cases same : key = k
  · subst same
    simp
  · simpa [Std.ExtTreeMap.getElem?_erase, same] using lists k

theorem Lists.eraseAll (lists : index.Lists R) (keys : List K) :
    Lists (keys.foldl (·.erase ·) index) fun k x => k ∉ keys ∧ R k x := by
  induction keys generalizing index R with
  | nil => exact lists.congr fun k x => by simp
  | cons key keys ih =>
    refine (ih (lists.erase key)).congr fun k x => ?_
    simp only [List.mem_cons, not_or, ne_eq, eq_comm (a := k), and_left_comm, and_assoc]

/-- Giving a key a set that is not empty changes what is listed under this key alone. -/
theorem Lists.put (lists : index.Lists R) (key : K) {set : Std.ExtTreeSet N compare} {S : N → Prop}
    (exactly : ∀ x, x ∈ set ↔ S x) (nonempty : ∃ x, S x) :
    Lists (index.insert key set) fun k x => key = k ∧ S x ∨ key ≠ k ∧ R k x := by
  intro k
  by_cases same : key = k
  · subst same
    simpa [exactly] using nonempty
  · simpa [Std.ExtTreeMap.getElem?_insert, same] using lists k

variable [Std.LawfulEqOrd N]

/-- Adding a member lists it under its key beside everything listed before. -/
theorem Lists.add (lists : index.Lists R) (key : K) (x : N) :
    (index.add key x).Lists fun k y => key = k ∧ x = y ∨ R k y := by
  have exactly : ∀ y, y ∈ (index.members key).insert x ↔ x = y ∨ R key y := by
    simp [lists.mem_members]
  refine (lists.put key exactly ⟨x, Or.inl rfl⟩).congr fun k y => ?_
  by_cases same : key = k
  · subst same
    simp
  · simp [same]

/-- A key goes with its last member. -/
theorem Lists.discard (lists : index.Lists R) (key : K) (x : N) :
    (index.discard key x).Lists fun k y => ¬ (key = k ∧ x = y) ∧ R k y := by
  unfold Index.discard
  cases found : index[key]? with
  | none =>
    refine lists.congr fun k y => ⟨fun related => ⟨?_, related⟩, And.right⟩
    rintro ⟨same, -⟩
    exact lists.not_of_none found y (same ▸ related)
  | some set =>
    have exactly : ∀ y, y ∈ set.erase x ↔ x ≠ y ∧ R key y := by
      simp [(lists key).2 set found]
    dsimp only
    split
    · rename_i last
      have none_left : ∀ y, ¬ (x ≠ y ∧ R key y) := fun y left =>
        Std.ExtTreeSet.eq_empty_iff_forall_not_mem.mp (Std.ExtTreeSet.isEmpty_iff.mp last) y
          ((exactly y).mpr left)
      refine (lists.erase key).congr fun k y => ?_
      by_cases same : key = k
      · subst same
        simpa using none_left y
      · simp [same]
    · rename_i more
      have nonempty : ∃ y, x ≠ y ∧ R key y := by
        by_contra none_left
        apply more
        rw [Std.ExtTreeSet.isEmpty_iff, Std.ExtTreeSet.eq_empty_iff_forall_not_mem]
        exact fun y member => none_left ⟨y, (exactly y).mp member⟩
      refine (lists.put key exactly nonempty).congr fun k y => ?_
      by_cases same : key = k
      · subst same
        simp
      · simp [same]

/-- Discarding several members, each under its own key, unlists exactly those. -/
theorem Lists.discardAll (lists : index.Lists R) (keyOf : N → K) (members : List N) :
    Lists (members.foldl (fun index x => index.discard (keyOf x) x) index) fun k x =>
      ¬ (keyOf x = k ∧ x ∈ members) ∧ R k x := by
  induction members generalizing index R with
  | nil => exact lists.congr fun k x => by simp
  | cons member members ih =>
    refine (ih (lists.discard (keyOf member) member)).congr fun k x => ?_
    by_cases same : member = x
    · subst same
      by_cases here : keyOf member = k <;> simp [here]
    · simp [same, Ne.symm (a := member) same]

end PluginHost.Index
