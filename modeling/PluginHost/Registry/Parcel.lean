import PluginHost.Registry.Report

namespace PluginHost

/-- An object with a value and a destructor, which runs when the operation that took the object out is over, and
is used up by running. -/
inductive Parcel where
  /-- the destructor does nothing -/
  | inert (val : Int)
  /-- the destructor takes out what is under a name -/
  | removing (val : Int) (name : String)
  /-- the destructor adds an object -/
  | adding (val : Int) (name : String) (ns : Namespace) (load : Parcel)
  deriving DecidableEq, Repr, Inhabited

namespace Parcel

def val : Parcel → Int
  | inert v => v
  | removing v _ => v
  | adding v _ _ _ => v

def withVal (v : Int) : Parcel → Parcel
  | inert _ => inert v
  | removing _ name => removing v name
  | adding _ name ns load => adding v name ns load

/-- How many objects a parcel is, counting those that its destructors carry. -/
def weight : Parcel → Nat
  | inert _ => 1
  | removing _ _ => 1
  | adding _ _ _ load => load.weight + 1

end Parcel

/-- The weight of a list of parcels. -/
def parcelsWeight : List Parcel → Nat
  | [] => 0
  | p :: ps => p.weight + parcelsWeight ps

/-- A registry of parcels. -/
abbrev Depot := Registry String Parcel

theorem toList_perm_erase {N T : Type} [Ord N] [Std.TransOrd N] [Std.LawfulEqOrd N]
    {t : Std.ExtTreeMap N T compare} {k : N} {v : T} (h : t[k]? = some v) :
    t.toList.Perm ((k, v) :: (t.erase k).toList) := by
  have nodup : ∀ s : Std.ExtTreeMap N T compare, s.toList.Nodup := fun s =>
    s.distinct_keys_toList.imp fun {a b} differ same => differ (by simp [same])
  rw [List.perm_ext_iff_of_nodup (nodup t) (List.nodup_cons.2 ⟨by simp, nodup _⟩)]
  rintro ⟨a, b⟩
  simp only [List.mem_cons, Std.ExtTreeMap.mem_toList_iff_getElem?_eq_some,
    Std.ExtTreeMap.getElem?_erase, Prod.mk.injEq, Std.compare_eq_iff_eq]
  by_cases same : k = a
  · subst same
    simp [h, eq_comm]
  · simp [same, Ne.symm (a := k) same]

namespace Depot

open Registry (add_error)

/-- The weight of all stored parcels. -/
def weight (r : Depot) : Nat := parcelsWeight r.allObjects

theorem parcelsWeight_cons (p : Parcel) (ps : List Parcel) :
    parcelsWeight (p :: ps) = p.weight + parcelsWeight ps := rfl

theorem parcelsWeight_append (ps qs : List Parcel) :
    parcelsWeight (ps ++ qs) = parcelsWeight ps + parcelsWeight qs := by
  induction ps with
  | nil => simp [parcelsWeight]
  | cons p ps ih => simp only [List.cons_append, parcelsWeight_cons, ih]; omega

/-- The order in which parcels lie does not matter to their weight. -/
theorem parcelsWeight_perm {ps qs : List Parcel} (same : ps.Perm qs) :
    parcelsWeight ps = parcelsWeight qs := by
  induction same with
  | nil => rfl
  | cons p _ ih => simp only [parcelsWeight_cons, ih]
  | swap p q ps => simp only [parcelsWeight_cons]; omega
  | trans _ _ first second => exact first.trans second

theorem parcelsWeight_erase {t : Std.ExtTreeMap String Parcel compare} {k : String} {v : Parcel}
    (h : t[k]? = some v) :
    parcelsWeight (t.toList.map (·.2)) = v.weight + parcelsWeight ((t.erase k).toList.map (·.2)) := by
  exact parcelsWeight_perm ((toList_perm_erase h).map (·.2))

theorem weight_remove (r : Depot) (name : String) :
    parcelsWeight (r.remove name).1.toList + weight (r.remove name).2 ≤ weight r := by
  obtain ⟨same, _⟩ | ⟨taken, rest, _⟩ := r.remove_eq name
  · simp [same, parcelsWeight]
  · simp only [weight, Registry.allObjects, taken, rest]
    cases h : r.objects[name]? with
    | some p =>
      rw [parcelsWeight_erase h]
      simp [parcelsWeight]
    | none =>
      have : r.objects.erase name = r.objects := by
        apply Std.ExtTreeMap.ext_getElem?
        intro k
        rw [Std.ExtTreeMap.getElem?_erase]
        split
        · next eq => rw [← Std.compare_eq_iff_eq.mp eq, h]
        · rfl
      simp [this, parcelsWeight]

theorem weight_add {r next : Depot} {p : Parcel} {name : String} {ns : Namespace}
    (h : r.add p name ns = .ok next) : weight next = p.weight + weight r := by
  unfold Registry.add at h
  split at h
  · cases h
  next free =>
    cases h
    have free : r.objects[name]? = none := by
      simpa [Registry.contains] using free
    have stored : (r.objects.insert name p)[name]? = some p := by simp
    have rest : (r.objects.insert name p).erase name = r.objects := by
      apply Std.ExtTreeMap.ext_getElem?
      intro k
      rw [Std.ExtTreeMap.getElem?_erase, Std.ExtTreeMap.getElem?_insert]
      split
      · next eq => rw [← Std.compare_eq_iff_eq.mp eq, free]
      · rfl
    simp only [weight, Registry.allObjects, Registry.objects_file]
    rw [parcelsWeight_erase stored, rest]

/-- What a cascade of destructors leaves. -/
structure Aftermath where
  depot : Depot
  /-- the values of the destroyed objects, in order -/
  destroyed : List Int := []
  log : List Log.Record := []

namespace Aftermath

def afterDestroying (v : Int) (a : Aftermath) : Aftermath := { a with destroyed := v :: a.destroyed }

def afterLogging (record : Log.Record) (a : Aftermath) : Aftermath := { a with log := record :: a.log }

end Aftermath

/-- The record of an object that was refused under a name. -/
def refusal (name : String) (ns : Namespace) : Log.Record := Registry.rejection (Text.quote name) ns

/--
Destroys objects that are out of the registry, in order. What a destructor sets free is destroyed
before the next object.
-/
def destroyAll (r : Depot) : List Parcel → Aftermath
  | [] => ⟨r, [], []⟩
  | .inert v :: rest => (destroyAll r rest).afterDestroying v
  | .removing v name :: rest =>
    have := weight_remove r name
    (destroyAll (r.remove name).2 ((r.remove name).1.toList ++ rest)).afterDestroying v
  | .adding v name ns load :: rest =>
    match h : r.add load name ns with
    | .ok next =>
      have := weight_add h
      (destroyAll next rest).afterDestroying v
    | .error back =>
      have : back.weight = load.weight := by rw [add_error h]
      ((destroyAll r (back :: rest)).afterLogging (refusal name ns)).afterDestroying v
termination_by ps => parcelsWeight ps + weight r
decreasing_by
  all_goals simp only [parcelsWeight_cons, parcelsWeight_append, Parcel.weight]
  all_goals omega

/-- Adds an object. One that is refused is destroyed, and its value given. -/
def offer (r : Depot) (p : Parcel) (name : String) (ns : Namespace) : Option Int × Aftermath :=
  match r.add p name ns with
  | .ok next => (none, ⟨next, [], []⟩)
  | .error back => (some back.val, (destroyAll r [back]).afterLogging (refusal name ns))

/-- Destroys the object under a name. Tells whether there was one. -/
def discard (r : Depot) (name : String) : Bool × Aftermath :=
  let (taken, r) := r.remove name
  (taken.isSome, destroyAll r taken.toList)

/-- Destroys everything. -/
def discardAll (r : Depot) : Aftermath :=
  let (taken, r) := r.clear
  destroyAll r taken

/-- Destroys everything that was registered in a namespace. -/
def discardNamespace (r : Depot) (ns : Namespace) : Aftermath :=
  let (taken, r) := r.clearNamespace ns
  (destroyAll r taken).afterLogging (Registry.clearance taken.length ns)

end Depot

end PluginHost
