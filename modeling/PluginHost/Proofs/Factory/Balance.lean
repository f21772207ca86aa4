import PluginHost.Proofs.Factory.Contents

namespace PluginHost

variable {P B : Type}

/-- What can be done in a workshop. -/
inductive Move (P B : Type) where
  | register (place : Place) (i : Instantiator P B) (name : String) (keep : Option String)
  | registerHeld (place : Place) (slot name : String) (keep : Option String)
  | unregister (factory name : String)
  | cloneFlat (factory copy : String)
  | freshFlat (factory : String)
  | dropFlat (factory : String)
  | dropFlats
  | remove (name : String)
  | clearNamespace (ns : Namespace)
  | clear
  | extract (name slot : String)
  | copySlot (slot other : String)
  | dropSlot (slot : String)
  | createFromSlot (slot : String) (param : P)
  | createFlat (factory name : String) (param : P)
  | createScoped (name : String) (param : P)

namespace Move

def act (w : Workshop P B) : Move P B → Workshop P B
  | register place i name keep => (w.register place i name keep).workshop
  | registerHeld place slot name keep => ((w.registerHeld place slot name keep).map (·.workshop)).getD w
  | unregister factory name => w.unregister factory name
  | cloneFlat factory copy => w.cloneFlat factory copy
  | freshFlat factory => w.freshFlat factory
  | dropFlat factory => (w.dropFlat factory).2
  | dropFlats => w.dropFlats
  | remove name => (w.remove name).2
  | clearNamespace ns => (w.clearNamespace ns).2
  | clear => w.clear
  | extract name slot => (w.extract name slot).2
  | copySlot slot other => (w.copySlot slot other).2
  | dropSlot slot => (w.dropSlot slot).2
  | createFromSlot slot param => (w.createFromSlot slot param).2
  | createFlat factory name param => (w.createFlat factory name param).2
  | createScoped name param => (w.createScoped name param).2

/-- The instantiators that come to life: a new one, the copies of a factory's, or one copy. -/
def makes (w : Workshop P B) : Move P B → List (Instantiator P B)
  | register _ i _ _ => [i]
  | cloneFlat factory _ => (w.flats[factory]?.map (·.clone.all)).getD []
  | extract name _ => (w.grouped.instantiator? name).toList
  | copySlot slot _ => (w.slots[slot]?.map (·.copy)).toList
  | _ => []

/-- The step lemma of a workshop: what a move makes is in the inventory afterwards or destroyed, and so is what was
there before. -/
theorem absorbs_act (w : Workshop P B) (m : Move P B) :
    Workshop.Absorbs (m.makes w) (w.bornAll (m.makes w)) (m.act w) := by
  cases m with
  | register place i name keep => exact Workshop.absorbs_settleOffer place i name keep
  | registerHeld place slot name keep =>
    simp only [act, makes]
    cases offered : w.registerHeld place slot name keep with
    | none => exact w.absorbs_refl
    | some o => exact Workshop.absorbs_registerHeld offered
  | unregister factory name => exact Workshop.absorbs_unregister factory name
  | cloneFlat factory copy =>
    simp only [act, makes, Workshop.cloneFlat]
    cases w.flats[factory]? with
    | none => exact w.absorbs_refl
    | some f => exact Workshop.absorbs_putFlat copy f.clone
  | freshFlat factory =>
    have put := @Workshop.absorbs_putFlat _ _ w factory .empty
    rwa [FlatFactory.stock_empty] at put
  | dropFlat factory => exact Workshop.absorbs_dropFlat factory
  | dropFlats => exact Workshop.absorbs_dropFlats
  | remove name => exact Workshop.absorbs_grouped (w.grouped.registry.remove_perm name)
  | clearNamespace ns => exact Workshop.absorbs_grouped (w.grouped.registry.clearNamespace_perm ns)
  | clear => exact Workshop.absorbs_grouped (.of_eq (List.append_nil _).symm)
  | extract name slot =>
    simp only [act, makes, Workshop.extract]
    cases w.grouped.instantiator? name with
    | none => exact w.absorbs_refl
    | some i => exact Workshop.absorbs_hold slot i
  | copySlot slot other =>
    simp only [act, makes, Workshop.copySlot]
    cases w.slots[slot]? with
    | none => exact w.absorbs_refl
    | some i => exact Workshop.absorbs_hold other i.copy
  | dropSlot slot => exact Workshop.absorbs_dropSlot slot
  | createFromSlot slot param =>
    simp only [act, makes, Workshop.createFromSlot]
    split <;> exact w.absorbs_refl
  | createFlat factory name param =>
    simp only [act, makes, Workshop.createFlat]
    split <;> exact w.absorbs_refl
  | createScoped name param => exact w.absorbs_refl

end Move

/-- A workshop and the scoped factories that it does not work on at the moment. -/
structure Premises (P B : Type) where
  shop : Workshop P B
  stored : Std.ExtTreeMap String (ScopedFactory String P B) compare := ∅

namespace Premises

inductive Act (P B : Type) where
  | work (m : Move P B)
  /-- the scoped factory in use is stored and the one stored there, or a new one, is used instead -/
  | exchange (name : String)
  /-- a stored factory is destroyed -/
  | discard (name : String)

def step (p : Premises P B) : Act P B → Premises P B
  | .work m => { p with shop := m.act p.shop }
  | .exchange name =>
    ⟨{ p.shop with grouped := p.stored[name]?.getD .empty }, p.stored.insert name p.shop.grouped⟩
  | .discard name =>
    ⟨p.shop.destroyAll ((p.stored[name]?.map (·.registry.allObjects)).getD []), p.stored.erase name⟩

def Act.makes (p : Premises P B) : Act P B → List (Instantiator P B)
  | .work m => m.makes p.shop
  | _ => []

def run (p : Premises P B) (acts : List (Act P B)) : Premises P B := acts.foldl step p

/-- Everything that comes to life during a run. -/
def made (p : Premises P B) : List (Act P B) → List (Instantiator P B)
  | [] => []
  | a :: acts => a.makes p ++ (p.step a).made acts

/-- Premises without a factory, where some instantiators live elsewhere. -/
def opened (outside : Census) : Premises P B := { shop := { census := outside } }

/-- The instantiators that are registered in a factory, be it in use or stored. -/
def registered (p : Premises P B) : Multiset (Instantiator P B) :=
  p.shop.registered + (values p.stored).bind ScopedFactory.stock

def inventory (p : Premises P B) : Multiset (Instantiator P B) := p.registered + p.shop.held

/-- Every factory and everything that callers hold is destroyed. -/
def closing (p : Premises P B) : List (Act P B) :=
  .work .dropFlats :: .work .clear ::
    (p.stored.keys.map Act.discard ++ p.shop.slots.keys.map fun slot => Act.work (.dropSlot slot))

/-- The same for the premises, with the factories in store. -/
theorem absorbs_step (p : Premises P B) (a : Act P B) :
    ∃ gone : List (Instantiator P B),
      (p.step a).shop.census = (p.shop.census.gain (a.makes p)).lose gone ∧
        ↑gone + (p.step a).inventory = ↑(a.makes p) + p.inventory := by
  cases a with
  | work m =>
    obtain ⟨gone, census, balance⟩ := m.absorbs_act p.shop
    rw [Workshop.bornAll_eq] at census balance
    refine ⟨gone, census, ?_⟩
    have inShop : ↑gone + (m.act p.shop).inventory = ↑(m.makes p.shop) + p.shop.inventory := balance
    simp only [Workshop.inventory] at inShop
    simp only [step, Act.makes, inventory, registered]
    let stored := (values p.stored).bind ScopedFactory.stock
    calc ↑gone + ((m.act p.shop).registered + stored + (m.act p.shop).held)
        = ↑gone + ((m.act p.shop).registered + (m.act p.shop).held) + stored := by abel
      _ = ↑(m.makes p.shop) + (p.shop.registered + p.shop.held) + stored := by rw [inShop]
      _ = ↑(m.makes p.shop) + (p.shop.registered + stored + p.shop.held) := by abel
  | exchange name =>
    have fetched : (p.stored[name]?.toList : Multiset (ScopedFactory String P B)).bind ScopedFactory.stock =
        (p.stored[name]?.getD .empty).stock := by
      cases p.stored[name]? <;> simp [ScopedFactory.stock_empty]
    refine ⟨[], rfl, ?_⟩
    simp only [step, Act.makes, inventory, registered, Workshop.registered, Workshop.held, values_insert]
    rw [values_erase p.stored name, Multiset.add_bind, Multiset.add_bind, fetched, Multiset.singleton_bind]
    abel
  | discard name =>
    have fetched : (p.stored[name]?.toList : Multiset (ScopedFactory String P B)).bind ScopedFactory.stock =
        ((p.stored[name]?.map (·.registry.allObjects)).getD [] : List (Instantiator P B)) := by
      cases p.stored[name]? <;> simp [ScopedFactory.stock]
    refine ⟨_, by simp only [step, Workshop.destroyAll_eq]; rfl, ?_⟩
    simp only [step, Act.makes, Workshop.destroyAll_eq, inventory, registered, Workshop.registered, Workshop.held]
    rw [values_erase p.stored name, Multiset.add_bind, fetched]
    abel

/-- What is alive is what lives elsewhere and what the premises own, all of which was once made. -/
structure Accounted (outside : Census) (made : List (Instantiator P B)) (p : Premises P B) : Prop where
  living : ∀ kind, p.shop.census.count kind = outside.count kind + p.inventory.countP (·.kind = kind)
  known : p.inventory ≤ made

theorem accounted_opened (outside : Census) : Accounted outside [] (opened outside : Premises P B) := by
  have nothing : (opened outside : Premises P B).inventory = 0 := by
    simp [opened, inventory, registered, Workshop.registered, Workshop.held, ScopedFactory.stock_empty]
  constructor
  · intro kind
    rw [nothing]
    rfl
  · rw [nothing]
    exact le_rfl

variable {outside : Census} {made : List (Instantiator P B)} {p : Premises P B}

/-- One act keeps the account. -/
theorem Accounted.step (accounted : Accounted outside made p) (a : Act P B) :
    Accounted outside (made ++ a.makes p) (p.step a) := by
  obtain ⟨gone, census, balance⟩ := p.absorbs_step a
  constructor
  · intro kind
    have before := accounted.living kind
    have counts := congrArg (Multiset.countP (·.kind = kind)) balance
    rw [Multiset.countP_add, Multiset.countP_add, Multiset.coe_countP, Multiset.coe_countP] at counts
    rw [census, Census.count_lose, Census.count_gain]
    -- what is destroyed was owned or made before, so the count does not stop at zero
    omega
  · calc (p.step a).inventory ≤ ↑gone + (p.step a).inventory := Multiset.le_add_left _ _
      _ = p.inventory + ↑(a.makes p) := balance.trans (add_comm ..)
      _ ≤ ↑made + ↑(a.makes p) := add_le_add_left accounted.known _
      _ = ↑(made ++ a.makes p) := Multiset.coe_add ..

/-- Any acts keep the account, by induction on them. -/
theorem Accounted.run (accounted : Accounted outside made p) (acts : List (Act P B)) :
    Accounted outside (made ++ p.made acts) (p.run acts) := by
  induction acts generalizing made p with
  | nil =>
    rw [Premises.made, List.append_nil]
    exact accounted
  | cons a acts ih =>
    have rest := ih (accounted.step a)
    rwa [List.append_assoc] at rest

/-- Every instantiator is of one of the kinds. -/
theorem card_eq_countP (s : Multiset (Instantiator P B)) :
    s.card = s.countP (·.kind = .ofType) + s.countP (·.kind = .ofConstructor) + s.countP (·.kind = .custom) := by
  induction s using Multiset.induction with
  | empty => rfl
  | cons i s ih =>
    simp only [Multiset.card_cons, Multiset.countP_cons, ih]
    cases i.kind <;> simp <;> omega

/-- As many are alive as are owned, besides those outside. -/
theorem Accounted.total (accounted : Accounted outside made p) :
    p.shop.census.total = outside.total + p.inventory.card := by
  have types := accounted.living .ofType
  have constructors := accounted.living .ofConstructor
  have customs := accounted.living .custom
  simp only [Census.count] at types constructors customs
  simp only [Census.total, card_eq_countP]
  omega

/-- The census is that of the outside exactly when nothing is owned any more. -/
theorem Accounted.census_eq_iff (accounted : Accounted outside made p) :
    p.shop.census = outside ↔ p.inventory = 0 := by
  constructor
  · intro same
    have total := accounted.total
    rw [same] at total
    exact Multiset.card_eq_zero.mp (by omega)
  · intro nothing
    refine Census.ext_count fun kind => ?_
    rw [accounted.living kind, nothing]
    rfl

/-- The inventory is counted factory by factory and slot by slot. -/
theorem card_inventory (p : Premises P B) :
    p.inventory.card =
      (p.shop.flats.toList.map (·.2.size)).sum + p.shop.grouped.size + (p.stored.toList.map (·.2.size)).sum +
        p.shop.slots.size := by
  have flat : ∀ f : FlatFactory String P B, f.stock.card = f.size := fun f => card_values f.instantiators
  have grouped : ∀ f : ScopedFactory String P B, f.stock.card = f.size := fun f => card_values f.registry.objects
  simp [inventory, registered, Workshop.registered, Workshop.held, Multiset.card_bind, values, flat, grouped,
    Function.comp_def]

/-- Factories in store are let go of one after the other. -/
theorem run_discards (p : Premises P B) (names : List String) :
    ∃ census, p.run (names.map Act.discard) =
      ⟨{ p.shop with census }, names.foldl (·.erase ·) p.stored⟩ := by
  induction names generalizing p with
  | nil => exact ⟨_, rfl⟩
  | cons name names ih =>
    obtain ⟨census, rest⟩ := ih (p.step (.discard name))
    refine ⟨census, rest.trans ?_⟩
    simp only [Premises.step, Workshop.destroyAll_eq, List.foldl_cons]

/-- Slots are emptied one after the other. -/
theorem run_dropSlots (p : Premises P B) (slots : List String) :
    ∃ census, p.run (slots.map fun slot => Act.work (.dropSlot slot)) =
      { p with shop := { p.shop with slots := slots.foldl (·.erase ·) p.shop.slots, census } } := by
  induction slots generalizing p with
  | nil => exact ⟨_, rfl⟩
  | cons slot slots ih =>
    obtain ⟨census, rest⟩ := ih (p.step (.work (.dropSlot slot)))
    refine ⟨census, rest.trans ?_⟩
    simp only [Premises.step, Move.act, Workshop.dropSlot, Workshop.takeSlot, List.foldl_cons]
    cases p.shop.slots[slot]? <;> rfl

theorem foldl_erase_keys {N V : Type} [Ord N] [Std.TransOrd N] [Std.LawfulEqOrd N]
    (t : Std.ExtTreeMap N V compare) : t.keys.foldl (·.erase ·) t = ∅ := by
  apply Std.ExtTreeMap.ext_getElem?
  intro name
  rw [Std.ExtTreeMap.getElem?_empty, Option.eq_none_iff_forall_ne_some]
  intro value left
  obtain ⟨gone, found⟩ := (Registry.getElem?_foldl_erase ..).mp left
  exact gone (Std.ExtTreeMap.mem_keys.mpr (Std.ExtTreeMap.mem_iff_isSome_getElem?.mpr (by simp [found])))

/-- Closing leaves no factory and nothing in the hands of a caller. -/
theorem run_closing (p : Premises P B) :
    ∃ census tally, p.run p.closing = { shop := { census, tally } } := by
  let emptied := (p.step (.work .dropFlats)).step (.work .clear)
  have shop : ∃ census, emptied.shop = { slots := p.shop.slots, census, tally := p.shop.tally } := by
    simp only [emptied, Premises.step, Move.act, Workshop.dropFlats, Workshop.clear, Workshop.destroyAll_eq]
    exact ⟨_, rfl⟩
  obtain ⟨_, shop⟩ := shop
  obtain ⟨_, discarded⟩ := emptied.run_discards p.stored.keys
  obtain ⟨census, dropped⟩ := (emptied.run (p.stored.keys.map Act.discard)).run_dropSlots p.shop.slots.keys
  have whole : p.run p.closing =
      (emptied.run (p.stored.keys.map Act.discard)).run
        (p.shop.slots.keys.map fun slot => Act.work (.dropSlot slot)) := List.foldl_append ..
  have stored : p.stored.keys.foldl (·.erase ·) emptied.stored = ∅ := foldl_erase_keys p.stored
  refine ⟨census, p.shop.tally, ?_⟩
  rw [whole, dropped, discarded, stored]
  simp only [shop, foldl_erase_keys]

/-- What is alive, by kind and in all, is what lives elsewhere, what is registered and what callers hold;
it is what lives elsewhere alone exactly if nothing is registered or held, as when everything is closed.
An offered instantiator is registered or, if its name is refused, handed back with nothing changed. -/
theorem instantiators_balanced (outside : Census) (acts : List (Act P B)) :
    let p : Premises P B := (opened outside).run acts
    (∀ kind, p.shop.census.count kind = outside.count kind + (p.registered + p.shop.held).countP (·.kind = kind)) ∧
    p.shop.census.total = outside.total +
      ((p.shop.flats.toList.map (·.2.size)).sum + p.shop.grouped.size + (p.stored.toList.map (·.2.size)).sum +
        p.shop.slots.size) ∧
    p.registered + p.shop.held ≤ ((opened outside).made acts : List (Instantiator P B)) ∧
    (p.shop.census = outside ↔ p.registered + p.shop.held = 0) ∧
    (∃ tally, p.run p.closing = { shop := { census := outside, tally } }) ∧
    ∀ (w : Workshop P B) place i name,
      let offer := w.submit place i name
      if w.refuses place name then offer.handedBack? = some i ∧ offer.workshop = w
      else
        offer.handedBack? = none ∧ offer.workshop.registered = {i} + w.registered ∧
          offer.workshop.slots = w.slots ∧ offer.workshop.census = w.census := by
  intro p
  have accounted : Accounted outside ((opened outside).made acts) p := (accounted_opened outside).run acts
  refine ⟨accounted.living, ?_, accounted.known, accounted.census_eq_iff, ?_, Workshop.submit_spec⟩
  · exact accounted.total.trans (by rw [card_inventory])
  · obtain ⟨census, tally, closed⟩ := p.run_closing
    have same := (accounted.run p.closing).census_eq_iff.mpr (by
      rw [closed]
      exact (accounted_opened census).census_eq_iff.mp rfl)
    rw [closed] at same
    exact ⟨tally, by rw [closed, ← same]⟩

end Premises

end PluginHost
