import PluginHost.Proofs.Factory.Contents
import PluginHost.Proofs.Registry.Ledger
import PluginHost.Proofs.Registry.Piecemeal

namespace PluginHost

/-- What a factory answers. A call that takes instantiators out answers nothing. -/
inductive FactoryAnswer (P B : Type) where
  | accepted
  /-- the instantiator of a refused registration -/
  | handedBack (i : Instantiator P B)
  | created (object? : Option B)
  | registered (holds : Bool)

/-- The answers to calls that are made one after the other, and what is left. -/
def inTurn {C A S : Type} (act : S → C → List A × S) (s : S) : List C → List A × S
  | [] => ([], s)
  | call :: rest => ((act s call).1 ++ (inTurn act (act s call).2 rest).1, (inTurn act (act s call).2 rest).2)

/-- Calls in turn go on from the state that the first of them left. -/
theorem inTurn_append {C A S : Type} (act : S → C → List A × S) (s : S) (first second : List C) :
    inTurn act s (first ++ second) =
      ((inTurn act s first).1 ++ (inTurn act (inTurn act s first).2 second).1,
        (inTurn act (inTurn act s first).2 second).2) := by
  induction first generalizing s with
  | nil => rfl
  | cons call first ih => simp [inTurn, ih]

variable {N P B : Type} [Ord N] [Std.TransOrd N]

namespace FlatFactory

inductive Call (N P B : Type) where
  | register (i : Instantiator P B) (name : N)
  | create (name : N) (param : P)
  | unregister (name : N)
  | isRegistered (name : N)

/-- The answer of a factory, and what it leaves: the factory, and how often constructors were called. -/
def Call.act (s : FlatFactory N P B × Tally) : Call N P B → List (FactoryAnswer P B) × (FlatFactory N P B × Tally)
  | register i name =>
    match s.1.register i name with
    | .ok next => ([.accepted], next, s.2)
    | .error back => ([.handedBack back], s)
  | create name param => ([.created (s.1.create name param s.2).1], s.1, (s.1.create name param s.2).2)
  | unregister name => ([], (s.1.unregister name).2, s.2)
  | isRegistered name => ([.registered (s.1.isRegistered name)], s)

/-- Names that are unregistered one after the other are out. -/
theorem inTurn_unregister (s : FlatFactory N P B × Tally) (names : List N) :
    inTurn Call.act s (names.map .unregister) =
      ([], ⟨names.foldl (·.erase ·) s.1.instantiators⟩, s.2) := by
  induction names generalizing s with
  | nil => rfl
  | cons name names ih => simp [inTurn, ih, Call.act, unregister]

end FlatFactory

namespace ScopedFactory

inductive Call (N P B : Type) where
  | register (i : Instantiator P B) (name : N) (ns : Namespace)
  | create (name : N) (param : P)
  | remove (name : N)
  | has (name : N)
  | clearNamespace (ns : Namespace)

/-- The answer of a factory, and what it leaves: the factory, and how often constructors were called. -/
def Call.act (s : ScopedFactory N P B × Tally) :
    Call N P B → List (FactoryAnswer P B) × (ScopedFactory N P B × Tally)
  | register i name ns =>
    match s.1.register i name ns with
    | .ok next => ([.accepted], next, s.2)
    | .error back => ([.handedBack back], s)
  | create name param => ([.created (s.1.create name param s.2).1], s.1, (s.1.create name param s.2).2)
  | remove name => ([], (s.1.remove name).2, s.2)
  | has name => ([.registered (s.1.contains name)], s)
  | clearNamespace ns => ([], (s.1.clearNamespace ns).2, s.2)

/-- The call without its namespace. A clearance is the removal of the names that are listed at the moment. -/
def Call.flat (f : ScopedFactory N P B) : Call N P B → List (FlatFactory.Call N P B)
  | register i name _ => [.register i name]
  | create name param => [.create name param]
  | remove name => [.unregister name]
  | has name => [.isRegistered name]
  | clearNamespace ns => (f.names ns).map .unregister

/-- Calls without their namespaces, made one after the other. -/
def flatCalls (s : ScopedFactory N P B × Tally) : List (Call N P B) → List (FlatFactory.Call N P B)
  | [] => []
  | call :: rest => call.flat s.1 ++ flatCalls (call.act s).2 rest

/-- The factory without its namespaces. -/
def flat (f : ScopedFactory N P B) : FlatFactory N P B := ⟨f.registry.objects⟩

/-- Whose name it is after a call, and in which namespace: the first registration of a name stays until the
name is taken out. -/
def Call.seat (name : N) (tenant : Option (Namespace × Instantiator P B)) :
    Call N P B → Option (Namespace × Instantiator P B)
  | register i n ns => if compare n name = .eq then tenant.or (some (ns, i)) else tenant
  | remove n => if compare n name = .eq then none else tenant
  | clearNamespace scope => tenant.filter fun seat => !scope.covers seat.1
  | create _ _ | has _ => tenant

/-- The first instantiator that was registered under a name since the name was last taken out, and where. -/
def tenant (name : N) (calls : List (Call N P B)) : Option (Namespace × Instantiator P B) :=
  calls.foldl (Call.seat name) none

/-- The call as a request to the registry. -/
def Call.request : Call N P B → Request N (Instantiator P B)
  | register i name ns => .add i name ns
  | create name _ => .get name
  | remove name => .remove name
  | has name => .has name
  | clearNamespace ns => .clearNamespace ns

variable {s : ScopedFactory N P B × Tally}

/-- A call on a scoped factory is a request to its registry. -/
theorem registry_act (s : ScopedFactory N P B × Tally) (call : Call N P B) :
    (call.act s).2.1.registry = (s.1.registry.serve call.request).2 := by
  cases call with
  | register i name ns =>
    simp only [Call.act, Call.request, Registry.serve, Registry.enrol, register]
    cases s.1.registry.add i name ns <;> rfl
  | create | remove | has | clearNamespace => rfl

variable [Std.LawfulEqOrd N]

/-- A call of a scoped factory is the same call, or a row of removals, of the factory without namespaces. -/
theorem inTurn_flat (exact : s.1.registry.Exact) (call : Call N P B) :
    inTurn FlatFactory.Call.act (s.1.flat, s.2) (call.flat s.1) =
      ((call.act s).1, (call.act s).2.1.flat, (call.act s).2.2) := by
  cases call with
  | register i name ns =>
    have same : s.1.flat.isRegistered name = s.1.registry.contains name := rfl
    cases taken : s.1.registry.contains name with
    | true =>
      have refused : s.1.flat.register i name = .error i := FlatFactory.register_of_isRegistered (same.trans taken) i
      simp [Call.flat, inTurn, Call.act, FlatFactory.Call.act, refused, register, Registry.add, taken, Except.map]
    | false =>
      have accepted : s.1.flat.register i name = .ok (flat ⟨s.1.registry.file i name ns⟩) := by
        rw [FlatFactory.register_of_free (same.trans taken), flat, flat, Registry.objects_file]
      simp [Call.flat, inTurn, Call.act, FlatFactory.Call.act, accepted, register, Registry.add, taken, Except.map]
  | create name param => rfl
  | remove name =>
    have objects := (exact.remove_eq name).2.1
    simp only [Call.flat, inTurn, Call.act, FlatFactory.Call.act, FlatFactory.unregister, flat, remove, objects]
    rfl
  | has name => rfl
  | clearNamespace ns =>
    have objects := s.1.registry.objects_clearNamespace ns
    simp only [Call.flat, FlatFactory.inTurn_unregister, Call.act, flat, clearNamespace, objects]
    rfl

/-- What each call does on the flat factory, a list of calls does, by induction on the list. -/
theorem inTurn_flatCalls (exact : s.1.registry.Exact) (calls : List (Call N P B)) :
    inTurn FlatFactory.Call.act (s.1.flat, s.2) (flatCalls s calls) =
      ((inTurn Call.act s calls).1, (inTurn Call.act s calls).2.1.flat, (inTurn Call.act s calls).2.2) := by
  induction calls generalizing s with
  | nil => rfl
  | cons call calls ih =>
    have next : (call.act s).2.1.registry.Exact := by
      rw [registry_act]
      exact exact.serve call.request
    simp only [flatCalls, inTurn_append, inTurn_flat exact call, ih next, inTurn]

/-- The ledger of the registry says who sits under a name. -/
theorem seat_serve (l : Ledger N (Instantiator P B)) (call : Call N P B) (name : N) :
    (l.serve call.request).2[name]? = call.seat name l[name]? := by
  cases call with
  | register i n ns =>
    simp only [Call.request, Ledger.serve, Ledger.enrol, Call.seat]
    by_cases here : compare n name = .eq
    · obtain rfl := Std.LawfulEqOrd.eq_of_compare here
      cases found : l[n]? <;> simp [Std.ExtTreeMap.contains_eq_isSome_getElem?, found]
    · split <;> simp [Std.ExtTreeMap.getElem?_insert, here]
  | remove n =>
    simp only [Call.request, Ledger.serve, Call.seat, Std.ExtTreeMap.getElem?_erase]
  | clearNamespace scope =>
    simp only [Call.request, Ledger.serve, Call.seat, Std.ExtTreeMap.getElem?_filter']
  | create | has => rfl

/-- Who holds which name is read off the calls. -/
theorem records_inTurn {l : Ledger N (Instantiator P B)} (records : s.1.registry.Records l)
    (calls : List (Call N P B)) :
    ∃ last : Ledger N (Instantiator P B), (inTurn Call.act s calls).2.1.registry.Records last ∧
      ∀ name : N, last[name]? = calls.foldl (Call.seat name) l[name]? := by
  induction calls generalizing s l with
  | nil => exact ⟨l, records, fun name => rfl⟩
  | cons call calls ih =>
    have next : (call.act s).2.1.registry.Records (l.serve call.request).2 := by
      rw [registry_act]
      exact (records.serve call.request).2
    obtain ⟨last, holds, seats⟩ := ih next
    refine ⟨last, holds, fun name => (seats name).trans ?_⟩
    rw [seat_serve, List.foldl_cons]

/-- A factory answers and creates as one does that has no namespaces. To clear a namespace is to unregister
the names listed under it, in any order. Whoever creates under a name is the first that was registered under
it since it was last taken out, and gets the parameter as it is. -/
theorem namespaces_transparent (calls : List (Call N P B)) (t : Tally) :
    let run := inTurn Call.act ((empty, t) : ScopedFactory N P B × Tally) calls
    let plain := inTurn FlatFactory.Call.act (.empty, t) (flatCalls (empty, t) calls)
    let f := run.2.1
    run.1 = plain.1 ∧ f.size = plain.2.1.size ∧ run.2.2 = plain.2.2 ∧
      (∀ scope order, order.Perm (f.names scope) →
        (f.clearNamespace scope).2 = ⟨(f.registry.removeAll order).2⟩ ∧
          inTurn FlatFactory.Call.act plain.2 (order.map .unregister) =
            ([], (f.clearNamespace scope).2.flat, plain.2.2) ∧
          (f.clearNamespace scope).1.Perm (order.filterMap fun name => plain.2.1.instantiators[name]?)) ∧
      ∀ name param, f.create name param run.2.2 =
        match tenant name calls with
        | none => (none, run.2.2)
        | some (_, i) => (some (i.create param run.2.2).1, (i.create param run.2.2).2) := by
  intro run plain f
  have flatly : plain = (run.1, f.flat, run.2.2) :=
    inTurn_flatCalls (s := (empty, t)) Registry.exact_empty calls
  obtain ⟨last, records, seats⟩ := records_inTurn (s := ((empty : ScopedFactory N P B), t))
    Registry.records_empty calls
  rw [flatly]
  refine ⟨rfl, rfl, rfl, fun scope order perm => ?_, fun name param => ?_⟩
  · obtain ⟨same, taken⟩ := records.exact.removeAll_names perm
    refine ⟨congrArg mk same.symm, ?_, ?_⟩
    · have objects := f.registry.objects_clearNamespace scope
      rw [FlatFactory.inTurn_unregister]
      simp only [flat, clearNamespace, objects, Registry.foldl_erase_perm _ perm, names]
    · have nodup := perm.nodup_iff.mpr (records.exact.nodup_names scope)
      rw [(records.exact.removeAll order).2.1, Registry.takeNames_fst _ nodup] at taken
      exact taken.symm
  · have object : f.registry.get? name = (tenant name calls).map (·.2) := by
      rw [Registry.get?, records.objects, seats, Std.ExtTreeMap.getElem?_empty]
      rfl
    simp only [create, object]
    cases tenant name calls <;> rfl

/-- A freed name goes to another kind in another namespace. -/
theorem namespaces_transparent_freed :
    let label : Instantiator String String := .custom fun p => "label " ++ p
    let counter : Instantiator String String := .ofConstructor ⟨0⟩ fun n p => toString n ++ p
    let calls : List (Call String String String) :=
      [.register label "w" (.of 4 1), .register counter "w" (.plugin 9), .clearNamespace (.plugin 4),
        .register counter "w" (.plugin 9), .create "w" "x", .register label "v" (.of 9 2)]
    let s := inTurn Call.act ((empty, {}) : ScopedFactory String String String × Tally) calls
    ["v", "w"].Perm (s.2.1.names (.plugin 9)) ∧
      (s.2.1.clearNamespace (.plugin 9)).2 = ⟨(s.2.1.registry.removeAll ["v", "w"]).2⟩ ∧
      (s.2.1.create "w" "y" s.2.2).1 = some "1y" := by
  intro label counter calls s
  obtain ⟨-, -, -, clearances, creations⟩ := namespaces_transparent calls {}
  have order : ["v", "w"].Perm (s.2.1.names (.plugin 9)) := by decide +kernel
  have holder : tenant "w" calls = some (.plugin 9, counter) := by
    have cleared : (Namespace.plugin 4).covers (.of 4 1) = true := by decide
    have differ : compare "v" "w" ≠ .eq := by decide
    simp [tenant, calls, Call.seat, cleared, differ, Option.filter]
  refine ⟨order, (clearances _ _ order).1, ?_⟩
  rw [creations "w" "y", holder]
  decide +kernel

end ScopedFactory

end PluginHost
