import PluginHost.Factory.Workshop
import PluginHost.Proofs.Registry.Contents
import Mathlib.Algebra.Order.Group.Multiset
import Mathlib.Data.Multiset.Bind
import Mathlib.Tactic.Abel

namespace PluginHost

variable {P B : Type}

namespace Census

def count (c : Census) : InstantiatorKind → Nat
  | .ofType => c.ofType
  | .ofConstructor => c.ofConstructor
  | .custom => c.custom

/-- The number of living instantiators. -/
def total (c : Census) : Nat := c.ofType + c.ofConstructor + c.custom

def gain (c : Census) (is : List (Instantiator P B)) : Census :=
  is.foldl (fun c i => c.change i.kind (· + 1)) c

def lose (c : Census) (is : List (Instantiator P B)) : Census :=
  is.foldl (fun c i => c.change i.kind (· - 1)) c

theorem ext_count {c d : Census} (same : ∀ kind, c.count kind = d.count kind) : c = d := by
  have types := same .ofType
  have constructors := same .ofConstructor
  have customs := same .custom
  cases c
  cases d
  simp_all [count]

theorem count_change (c : Census) (changed kind : InstantiatorKind) (f : Nat → Nat) :
    (c.change changed f).count kind = if changed = kind then f (c.count kind) else c.count kind := by
  cases changed <;> cases kind <;> rfl

/-- Those that come are counted by their kinds. -/
theorem count_gain (c : Census) (is : List (Instantiator P B)) (kind : InstantiatorKind) :
    (c.gain is).count kind = c.count kind + is.countP (·.kind = kind) := by
  induction is generalizing c with
  | nil => rfl
  | cons i is ih =>
    have rest := ih (c.change i.kind (· + 1))
    rw [count_change] at rest
    rw [List.countP_cons]
    refine rest.trans ?_
    by_cases same : i.kind = kind
    · simp [same]
      omega
    · simp [same]

/-- Those that go are no longer counted. -/
theorem count_lose (c : Census) (is : List (Instantiator P B)) (kind : InstantiatorKind) :
    (c.lose is).count kind = c.count kind - is.countP (·.kind = kind) := by
  induction is generalizing c with
  | nil => rfl
  | cons i is ih =>
    have rest := ih (c.change i.kind (· - 1))
    rw [count_change] at rest
    rw [List.countP_cons]
    refine rest.trans ?_
    by_cases same : i.kind = kind
    · simp [same]
      omega
    · simp [same]

end Census

section Values

variable {N T : Type} [Ord N] [Std.TransOrd N]

/-- The values of a map. -/
def values (t : Std.ExtTreeMap N T compare) : Multiset T := ↑(t.toList.map (·.2))

@[simp]
theorem values_empty : values (∅ : Std.ExtTreeMap N T compare) = 0 := by
  simp [values]

theorem card_values (t : Std.ExtTreeMap N T compare) : (values t).card = t.size := by
  simp [values]

variable [Std.LawfulEqOrd N]

theorem values_erase (t : Std.ExtTreeMap N T compare) (name : N) :
    values t = ↑t[name]?.toList + values (t.erase name) :=
  Multiset.coe_eq_coe.mpr (Registry.values_perm_erase t name)

theorem values_insert (t : Std.ExtTreeMap N T compare) (name : N) (value : T) :
    values (t.insert name value) = {value} + values (t.erase name) := by
  rw [values_erase _ name, Registry.erase_insert]
  simp

theorem values_insert_of_none {t : Std.ExtTreeMap N T compare} {name : N} (free : t[name]? = none) (value : T) :
    values (t.insert name value) = {value} + values t := by
  rw [values_insert, values_erase t name, free]
  simp

end Values

namespace FlatFactory

/-- The instantiators of the factory, in no order. -/
def stock (f : FlatFactory String P B) : Multiset (Instantiator P B) := f.all

theorem stock_eq (f : FlatFactory String P B) : f.stock = values f.instantiators := rfl

theorem stock_empty : (empty : FlatFactory String P B).stock = 0 := values_empty

section Register

variable {N : Type} [Ord N] [Std.TransOrd N] {g : FlatFactory N P B} {name : N}

theorem register_of_isRegistered (taken : g.isRegistered name) (i : Instantiator P B) :
    g.register i name = .error i := if_pos taken

theorem register_of_free (free : g.isRegistered name = false) (i : Instantiator P B) :
    g.register i name = .ok ⟨g.instantiators.insert name i⟩ := if_neg (Bool.eq_false_iff.mp free)

end Register

end FlatFactory

namespace ScopedFactory

/-- The instantiators of the factory, in no order. -/
def stock (f : ScopedFactory String P B) : Multiset (Instantiator P B) := f.registry.allObjects

theorem stock_empty : (empty : ScopedFactory String P B).stock = 0 := values_empty

end ScopedFactory

namespace Workshop

variable (w : Workshop P B)

/-- The instantiators that are registered in a factory. -/
def registered : Multiset (Instantiator P B) :=
  (values w.flats).bind FlatFactory.stock + w.grouped.stock

/-- The instantiators that callers hold. -/
def held : Multiset (Instantiator P B) := values w.slots

def inventory : Multiset (Instantiator P B) := w.registered + w.held

theorem bornAll_eq (is : List (Instantiator P B)) : w.bornAll is = { w with census := w.census.gain is } := by
  induction is generalizing w with
  | nil => rfl
  | cons i is ih => exact ih (w.born i)

theorem destroyAll_eq (is : List (Instantiator P B)) :
    w.destroyAll is = { w with census := w.census.lose is } := by
  induction is generalizing w with
  | nil => rfl
  | cons i is ih => exact ih (w.destroy i)

/-- The later workshop owns what the earlier one owned and some further instantiators, less those that
were destroyed. -/
def Absorbs (extra : Multiset (Instantiator P B)) (w after : Workshop P B) : Prop :=
  ∃ gone : List (Instantiator P B),
    after.census = w.census.lose gone ∧ ↑gone + after.inventory = extra + w.inventory

theorem absorbs_refl : Absorbs 0 w w := ⟨[], rfl, by simp⟩

theorem bind_flats (factory : String) :
    (values w.flats).bind FlatFactory.stock =
      ((w.flats[factory]?.map (·.all)).getD [] : List (Instantiator P B)) +
        (values (w.flats.erase factory)).bind FlatFactory.stock := by
  rw [values_erase w.flats factory, Multiset.add_bind]
  cases w.flats[factory]? <;> simp [FlatFactory.stock]

theorem bind_flats_of_some {factory : String} {f : FlatFactory String P B} (found : w.flats[factory]? = some f) :
    (values w.flats).bind FlatFactory.stock =
      f.stock + (values (w.flats.erase factory)).bind FlatFactory.stock := by
  rw [w.bind_flats factory, found]
  rfl

theorem bind_flats_insert (factory : String) (f : FlatFactory String P B) :
    (values (w.flats.insert factory f)).bind FlatFactory.stock =
      f.stock + (values (w.flats.erase factory)).bind FlatFactory.stock := by
  rw [values_insert, Multiset.add_bind, Multiset.singleton_bind]

variable {w}

theorem absorbs_destroy (i : Instantiator P B) : Absorbs {i} w (w.destroy i) := by
  refine ⟨[i], rfl, ?_⟩
  simp [destroy, inventory, registered, held]

theorem absorbs_hold (slot : String) (i : Instantiator P B) : Absorbs {i} w (w.hold slot i) := by
  refine ⟨w.slots[slot]?.toList, by simp only [hold, destroyAll_eq], ?_⟩
  simp only [hold, destroyAll_eq, inventory, registered, held, values_insert]
  rw [values_erase w.slots slot]
  abel

theorem absorbs_settle (keep : Option String) (i : Instantiator P B) : Absorbs {i} w (w.settle keep i) := by
  cases keep with
  | none => exact absorbs_destroy i
  | some slot => exact absorbs_hold slot i

theorem absorbs_putFlat (name : String) (f : FlatFactory String P B) :
    Absorbs f.stock w (w.putFlat name f) := by
  refine ⟨(w.flats[name]?.map (·.all)).getD [], by simp only [putFlat, destroyAll_eq], ?_⟩
  simp only [putFlat, destroyAll_eq, inventory, registered, held, bind_flats_insert, w.bind_flats name]
  abel

/-- Whether a place refuses a name: it is taken there, or there is no such factory. -/
def refuses (w : Workshop P B) (place : Place) (name : String) : Bool :=
  match place with
  | .flat factory => w.flats[factory]?.all (·.isRegistered name)
  | .grouped _ => w.grouped.contains name

/-- A refused instantiator comes back and the workshop stays as it is; any other is registered. -/
theorem submit_spec (w : Workshop P B) (place : Place) (i : Instantiator P B) (name : String) :
    if w.refuses place name then
      (w.submit place i name).handedBack? = some i ∧ (w.submit place i name).workshop = w
    else
      (w.submit place i name).handedBack? = none ∧
        (w.submit place i name).workshop.registered = {i} + w.registered ∧
        (w.submit place i name).workshop.slots = w.slots ∧
        (w.submit place i name).workshop.census = w.census := by
  cases place with
  | flat factory =>
    cases found : w.flats[factory]? with
    | none => simp [refuses, submit, found]
    | some f =>
      cases taken : f.isRegistered name with
      | true => simp [refuses, submit, found, taken, f.register_of_isRegistered]
      | false =>
        have free : f.instantiators[name]? = none := by
          simpa [FlatFactory.isRegistered] using Bool.eq_false_iff.mp taken
        have rest := w.bind_flats_of_some found
        simp only [refuses, submit, found, taken, FlatFactory.register_of_free, Option.all_some, Bool.false_eq_true,
          if_false, true_and, and_true]
        rw [registered, bind_flats_insert, registered, rest, FlatFactory.stock_eq, FlatFactory.stock_eq,
          values_insert_of_none free]
        abel
  | grouped ns =>
    cases taken : w.grouped.contains name with
    | true =>
      have refused : w.grouped.registry.contains name := taken
      simp [refuses, submit, taken, ScopedFactory.register, Registry.add, refused, Except.map]
    | false =>
      have free : w.grouped.registry.contains name = false := taken
      have accepted : w.grouped.registry.add i name ns = .ok (w.grouped.registry.file i name ns) := by
        simp [Registry.add, free]
      have filed := Multiset.coe_eq_coe.mpr (Registry.add_perm accepted)
      simp only [refuses, submit, taken, ScopedFactory.register, accepted, Except.map, Bool.false_eq_true, if_false,
        true_and, and_true]
      rw [registered, ScopedFactory.stock, filed, registered, ScopedFactory.stock, ← Multiset.cons_coe,
        ← Multiset.singleton_add]
      abel

/-- An instantiator that is offered is in the factory, with its caller or destroyed, and nowhere else. -/
theorem absorbs_settleOffer (place : Place) (i : Instantiator P B) (name : String) (keep : Option String) :
    Absorbs {i} w (settleOffer (w.submit place i name) keep).workshop := by
  have spec := w.submit_spec place i name
  split at spec
  · obtain ⟨back, same⟩ := spec
    simp only [settleOffer, back, same]
    exact absorbs_settle keep i
  · obtain ⟨accepted, registered, slots, census⟩ := spec
    simp only [settleOffer, accepted]
    refine ⟨[], census, ?_⟩
    simp [inventory, held, registered, slots]

/-- An instantiator from a slot is taken along, not made. -/
theorem absorbs_registerHeld {place : Place} {slot name : String} {keep : Option String} {o : Offer P B}
    (offered : w.registerHeld place slot name keep = some o) : Absorbs 0 w o.workshop := by
  cases found : w.slots[slot]? with
  | none => simp [registerHeld, takeSlot, found] at offered
  | some i =>
    simp only [registerHeld, takeSlot, found, Option.some.injEq] at offered
    subst offered
    obtain ⟨gone, census, balance⟩ :=
      @absorbs_settleOffer _ _ { w with slots := w.slots.erase slot } place i name keep
    refine ⟨gone, census, balance.trans ?_⟩
    simp only [inventory, registered, held]
    rw [values_erase w.slots slot, found]
    simp only [Option.toList_some, Multiset.coe_singleton]
    abel

theorem absorbs_unregister (factory name : String) : Absorbs 0 w (w.unregister factory name) := by
  cases found : w.flats[factory]? with
  | none => simpa [unregister, found] using w.absorbs_refl
  | some f =>
    have rest := w.bind_flats_of_some found
    simp only [unregister, found, FlatFactory.unregister, destroyAll_eq]
    refine ⟨f.instantiators[name]?.toList, rfl, ?_⟩
    simp only [inventory, registered, held]
    rw [bind_flats_insert, rest, FlatFactory.stock_eq, FlatFactory.stock_eq, values_erase f.instantiators name]
    abel

theorem absorbs_dropFlat (factory : String) : Absorbs 0 w (w.dropFlat factory).2 := by
  cases found : w.flats[factory]? with
  | none => simpa [dropFlat, found] using w.absorbs_refl
  | some f =>
    have rest := w.bind_flats_of_some found
    simp only [dropFlat, found, destroyAll_eq]
    refine ⟨f.all, rfl, ?_⟩
    simp only [inventory, registered, held]
    rw [rest, FlatFactory.stock]
    abel

/-- With its factories go all of their instantiators. -/
theorem absorbs_dropFlats : Absorbs 0 w w.dropFlats := by
  simp only [dropFlats, destroyAll_eq]
  refine ⟨w.flats.toList.flatMap fun entry => entry.2.all, rfl, ?_⟩
  have flats : (values w.flats).bind FlatFactory.stock =
      (w.flats.toList.flatMap fun entry => entry.2.all : List (Instantiator P B)) := by
    refine (Multiset.coe_bind _ FlatFactory.all).trans ?_
    rw [List.flatMap_map]
  simp only [inventory, registered, held, flats, values_empty, Multiset.zero_bind]
  abel

/-- What a scoped factory lets go of is destroyed. -/
theorem absorbs_grouped {taken : List (Instantiator P B)} {rest : ScopedFactory String P B}
    (perm : w.grouped.registry.allObjects.Perm (taken ++ rest.registry.allObjects)) :
    Absorbs 0 w { w.destroyAll taken with grouped := rest } := by
  have split := Multiset.coe_eq_coe.mpr perm
  rw [← Multiset.coe_add] at split
  refine ⟨taken, by simp only [destroyAll_eq], ?_⟩
  simp only [destroyAll_eq, inventory, registered, held, ScopedFactory.stock, split]
  abel

theorem absorbs_dropSlot (slot : String) : Absorbs 0 w (w.dropSlot slot).2 := by
  have rest := values_erase w.slots slot
  cases found : w.slots[slot]? with
  | none =>
    refine ⟨[], by simp [dropSlot, takeSlot, found, Census.lose], ?_⟩
    rw [found] at rest
    simp_all [dropSlot, takeSlot, inventory, registered, held]
  | some i =>
    refine ⟨[i], by simp [dropSlot, takeSlot, found, Census.lose, destroy], ?_⟩
    rw [found] at rest
    simp only [dropSlot, takeSlot, found, destroy, inventory, registered, held, rest, Option.toList_some]
    abel

end Workshop

end PluginHost
