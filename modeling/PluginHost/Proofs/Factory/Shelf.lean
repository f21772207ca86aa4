import PluginHost.Proofs.Factory.Balance

namespace PluginHost

variable {P B : Type}

/-- A copy creates what the copied one would create, and calls the same constructor. -/
theorem Instantiator.copy_eq (i : Instantiator P B) : i.copy = i := by cases i <;> rfl

/-- A clone has what its original has, copies creating what their originals create. -/
theorem FlatFactory.clone_eq (f : FlatFactory String P B) : f.clone = f := by
  have copies : (f.instantiators.map fun _ i => i.copy) = f.instantiators := by
    apply Std.ExtTreeMap.ext_getElem?
    intro name
    simp [Instantiator.copy_eq]
  unfold FlatFactory.clone
  rw [copies]

/-- A place for one instantiator. -/
inductive Shelf where
  | slot (name : String)
  | flat (factory name : String)
  /-- in the scoped factory that is in use -/
  | grouped (name : String)
  /-- in a scoped factory that is not in use -/
  | stored (factory name : String)
  deriving DecidableEq

def Place.shelf (name : String) : Place → Shelf
  | .flat factory => .flat factory name
  | .grouped _ => .grouped name

/-- Where the instantiator on a shelf comes from. -/
inductive Origin (P B : Type) where
  /-- it stood on that shelf, or is a copy of what stands there -/
  | shelf (s : Shelf)
  | newcomer (i : Instantiator P B)
  | nothing

namespace Origin

def content (at? : Shelf → Option (Instantiator P B)) : Origin P B → Option (Instantiator P B)
  | shelf s => at? s
  | newcomer i => some i
  | nothing => none

variable (at? : Shelf → Option (Instantiator P B))

@[simp]
theorem content_shelf (s : Shelf) : (shelf s).content at? = at? s := rfl

@[simp]
theorem content_newcomer (i : Instantiator P B) : (newcomer i).content at? = some i := rfl

@[simp]
theorem content_nothing : nothing.content at? = none := rfl

@[simp]
theorem content_ite (c : Prop) [Decidable c] (o other : Origin P B) :
    (if c then o else other).content at? = if c then o.content at? else other.content at? := apply_ite ..

end Origin

namespace Workshop

variable {w : Workshop P B}

def at? (w : Workshop P B) : Shelf → Option (Instantiator P B)
  | .slot name => w.slots[name]?
  | .flat factory name => w.flats[factory]?.bind (·.instantiators[name]?)
  | .grouped name => w.grouped.registry.get? name
  | .stored _ _ => none

/-- Where an offered instantiator ends: under its name or, if that is refused, where it is to be kept. -/
def destination (w : Workshop P B) (place : Place) (name : String) (keep : Option String) : Option Shelf :=
  if w.refuses place name then keep.map .slot else some (place.shelf name)

@[simp]
theorem at?_born (i : Instantiator P B) (s : Shelf) : (w.born i).at? s = w.at? s := rfl

theorem at?_hold (slot : String) (i : Instantiator P B) (s : Shelf) :
    (w.hold slot i).at? s = if .slot slot = s then some i else w.at? s := by
  simp only [hold, destroyAll_eq]
  cases s <;> simp [at?, Std.ExtTreeMap.getElem?_insert]

theorem at?_settle (keep : Option String) (i : Instantiator P B) (s : Shelf) :
    (w.settle keep i).at? s = if keep.map .slot = some s then some i else w.at? s := by
  cases keep with
  | none => rfl
  | some slot => simp [settle, at?_hold]

theorem at?_putFlat (factory : String) (f : FlatFactory String P B) (s : Shelf) :
    (w.putFlat factory f).at? s =
      match s with
      | .flat other name => if factory = other then f.instantiators[name]? else w.at? s
      | s => w.at? s := by
  simp only [putFlat, destroyAll_eq]
  cases s with
  | flat other name => by_cases same : factory = other <;> simp [at?, Std.ExtTreeMap.getElem?_insert, same]
  | _ => rfl

/-- An instantiator that is accepted is on its shelf; nothing else moves. -/
theorem at?_submit {place : Place} {name : String} (free : w.refuses place name = false) (i : Instantiator P B)
    (s : Shelf) :
    (w.submit place i name).workshop.at? s = if place.shelf name = s then some i else w.at? s := by
  cases place with
  | flat factory =>
    cases found : w.flats[factory]? with
    | none => simp [refuses, found] at free
    | some f =>
      have accepted : f.isRegistered name = false := by simpa [refuses, found] using free
      simp only [submit, found, FlatFactory.register_of_free accepted, Place.shelf]
      cases s with
      | flat other title =>
        by_cases same : factory = other
        · subst same
          simp [at?, found, Std.ExtTreeMap.getElem?_insert]
        · simp [at?, Std.ExtTreeMap.getElem?_insert, same]
      | _ => simp [at?]
  | grouped ns =>
    have accepted : w.grouped.registry.contains name = false := free
    simp only [submit, ScopedFactory.register, Registry.add, accepted, Except.map, Place.shelf, Bool.false_eq_true,
      if_false]
    cases s <;> simp [at?, Registry.get?, Std.ExtTreeMap.getElem?_insert]

theorem destination_ne (w : Workshop P B) {place : Place} {name : String} {keep : Option String} {s : Shelf}
    (unnamed : place.shelf name ≠ s) (unkept : keep.map .slot ≠ some s) :
    w.destination place name keep ≠ some s := by
  unfold destination
  split
  · exact unkept
  · exact fun same => unnamed (Option.some.inj same)

/-- What is offered ends on its shelf, in the slot for what is handed back, or nowhere. -/
theorem at?_settleOffer (place : Place) (i : Instantiator P B) (name : String) (keep : Option String) (s : Shelf) :
    (settleOffer (w.submit place i name) keep).workshop.at? s =
      if w.destination place name keep = some s then some i else w.at? s := by
  have spec := w.submit_spec place i name
  unfold destination
  cases refused : w.refuses place name with
  | true =>
    obtain ⟨back, same⟩ : _ ∧ _ := by simpa [refused] using spec
    simp only [settleOffer, back, same, if_true]
    exact at?_settle keep i s
  | false =>
    obtain ⟨accepted, -⟩ : _ ∧ _ := by simpa [refused] using spec
    simp only [settleOffer, accepted, at?_submit refused, Bool.false_eq_true, if_false, Option.some.injEq]

theorem act_registerHeld_of_none {slot : String} (vacant : w.slots[slot]? = none) (place : Place) (name : String)
    (keep : Option String) : Move.act w (.registerHeld place slot name keep) = w := by
  simp [Move.act, registerHeld, takeSlot, vacant]

theorem act_registerHeld_of_some {slot : String} {i : Instantiator P B} (held : w.slots[slot]? = some i)
    (place : Place) (name : String) (keep : Option String) :
    Move.act w (.registerHeld place slot name keep) =
      (settleOffer ({ w with slots := w.slots.erase slot }.submit place i name) keep).workshop := by
  simp [Move.act, registerHeld, takeSlot, held]

theorem at?_registerHeld {slot : String} {i : Instantiator P B} (held : w.slots[slot]? = some i) (place : Place)
    (name : String) (keep : Option String) (s : Shelf) :
    (Move.act w (.registerHeld place slot name keep)).at? s =
      if w.destination place name keep = some s then some i
      else if .slot slot = s then none else w.at? s := by
  have left : ({ w with slots := w.slots.erase slot } : Workshop P B).at? s =
      if .slot slot = s then none else w.at? s := by
    cases s <;> simp [at?, Std.ExtTreeMap.getElem?_erase]
  rw [act_registerHeld_of_some held, at?_settleOffer, left]
  rfl

theorem at?_unregister (factory name : String) (s : Shelf) :
    (w.unregister factory name).at? s = if .flat factory name = s then none else w.at? s := by
  cases found : w.flats[factory]? with
  | none =>
    have vacant : w.at? (.flat factory name) = none := by simp [at?, found]
    simp only [unregister, found]
    split
    · rename_i same
      rw [← same, vacant]
    · rfl
  | some f =>
    simp only [unregister, FlatFactory.unregister, found, destroyAll_eq]
    cases s with
    | flat other title =>
      by_cases same : factory = other
      · subst same
        simp [at?, found, Std.ExtTreeMap.getElem?_erase]
      · simp [at?, Std.ExtTreeMap.getElem?_insert, same]
    | _ => rfl

theorem at?_dropFlat (factory : String) (s : Shelf) :
    (w.dropFlat factory).2.at? s =
      match s with
      | .flat other _ => if factory = other then none else w.at? s
      | s => w.at? s := by
  cases found : w.flats[factory]? with
  | none =>
    simp only [dropFlat, found]
    cases s with
    | flat other name =>
      by_cases same : factory = other
      · subst same
        simp [at?, found]
      · simp [same]
    | _ => rfl
  | some f =>
    simp only [dropFlat, found, destroyAll_eq]
    cases s with
    | flat other name => by_cases same : factory = other <;> simp [at?, Std.ExtTreeMap.getElem?_erase, same]
    | _ => rfl

theorem at?_remove (name : String) (s : Shelf) :
    (w.remove name).2.at? s =
      if (w.grouped.registry.namespaceOf? name).isSome ∧ .grouped name = s then none else w.at? s := by
  simp only [remove, destroyAll_eq, ScopedFactory.remove]
  obtain ⟨same, unknown⟩ | ⟨-, rest, known⟩ := w.grouped.registry.remove_eq name
  · simp only [same, Registry.namespaceOf?, unknown, Option.isSome_none, Bool.false_eq_true, false_and, if_false]
    rfl
  · cases s <;> simp [Registry.namespaceOf?, known, at?, Registry.get?, rest, Std.ExtTreeMap.getElem?_erase]

/-- Clearing empties the shelves of the names that are listed in the scope. -/
theorem at?_clearNamespace (ns : Namespace) (s : Shelf) :
    (w.clearNamespace ns).2.at? s =
      match s with
      | .grouped name => if name ∈ w.grouped.registry.names ns then none else w.at? s
      | s => w.at? s := by
  simp only [clearNamespace, destroyAll_eq, ScopedFactory.clearNamespace]
  cases s with
  | grouped name =>
    apply Option.ext
    intro i
    simp only [at?, Registry.get?, Registry.objects_clearNamespace, Registry.getElem?_foldl_erase]
    split <;> simp_all
  | _ => rfl

theorem settleOffer_frame (o : Offer P B) (keep : Option String) :
    (settleOffer o keep).workshop.flats = o.workshop.flats ∧
      (settleOffer o keep).workshop.tally = o.workshop.tally := by
  unfold settleOffer
  split
  · exact ⟨rfl, rfl⟩
  · cases keep with
    | none => exact ⟨rfl, rfl⟩
    | some slot => simp only [settle, hold, destroyAll_eq, and_self]

theorem flats_submit {place : Place} {name factory : String}
    (elsewhere : ∀ title, place.shelf name ≠ .flat factory title) (i : Instantiator P B) :
    (w.submit place i name).workshop.flats[factory]? = w.flats[factory]? := by
  cases place with
  | flat other =>
    have differ : other ≠ factory := fun same => elsewhere name (by rw [same]; rfl)
    simp only [submit]
    split
    · rfl
    · split
      · rfl
      · simp [Std.ExtTreeMap.getElem?_insert, differ]
  | grouped ns =>
    simp only [submit]
    split <;> rfl

theorem at?_dropSlot (slot : String) (s : Shelf) :
    (w.dropSlot slot).2.at? s = if .slot slot = s then none else w.at? s := by
  simp only [dropSlot, takeSlot]
  split <;> rename_i taken <;> obtain ⟨-, rfl⟩ := Prod.mk.inj taken
  · cases s <;> simp [at?, Std.ExtTreeMap.getElem?_erase]
  · cases s <;> simp [at?, destroy, Std.ExtTreeMap.getElem?_erase]

end Workshop

namespace Move

/-- Where the instantiator comes from that stands on a shelf after the move. -/
def origin (w : Workshop P B) (m : Move P B) (s : Shelf) : Origin P B :=
  match m, s with
  | register place i name keep, s => if w.destination place name keep = some s then .newcomer i else .shelf s
  | registerHeld place slot name keep, s =>
    if w.slots[slot]?.isSome then
      if w.destination place name keep = some s then .shelf (.slot slot)
      else if .slot slot = s then .nothing else .shelf s
    else .shelf s
  | unregister factory name, s => if .flat factory name = s then .nothing else .shelf s
  | cloneFlat factory copy, .flat other name =>
    if w.flats[factory]?.isSome ∧ copy = other then .shelf (.flat factory name) else .shelf (.flat other name)
  | freshFlat factory, .flat other name => if factory = other then .nothing else .shelf (.flat other name)
  | dropFlat factory, .flat other name => if factory = other then .nothing else .shelf (.flat other name)
  | dropFlats, .flat _ _ => .nothing
  | remove name, s =>
    if (w.grouped.registry.namespaceOf? name).isSome ∧ .grouped name = s then .nothing else .shelf s
  | clearNamespace ns, .grouped name =>
    if name ∈ w.grouped.registry.names ns then .nothing else .shelf (.grouped name)
  | clear, .grouped _ => .nothing
  | extract name slot, s =>
    if (w.grouped.registry.get? name).isSome ∧ .slot slot = s then .shelf (.grouped name) else .shelf s
  | copySlot slot other, s => if w.slots[slot]?.isSome ∧ .slot other = s then .shelf (.slot slot) else .shelf s
  | dropSlot slot, s => if .slot slot = s then .nothing else .shelf s
  | _, s => .shelf s

/-- The step lemma: what a shelf holds after a move, the origin of its content says. One case for each move. -/
theorem at?_act (w : Workshop P B) (m : Move P B) (s : Shelf) : (m.act w).at? s = (m.origin w s).content w.at? := by
  cases m with
  | register place i name keep =>
    have lands := Workshop.at?_settleOffer (w := w.born i) place i name keep s
    simp only [origin, Origin.content_ite, Origin.content_newcomer, Origin.content_shelf]
    exact lands
  | registerHeld place slot name keep =>
    cases held : w.slots[slot]? with
    | none => simp [Workshop.act_registerHeld_of_none held, origin, held]
    | some i =>
      have original : w.at? (.slot slot) = some i := held
      simp [Workshop.at?_registerHeld held, origin, held, original]
  | unregister factory name => simp [act, Workshop.at?_unregister, origin]
  | cloneFlat factory copy =>
    cases found : w.flats[factory]? with
    | none => cases s <;> simp [act, origin, Workshop.cloneFlat, found]
    | some f =>
      simp only [act, Workshop.cloneFlat, found, Workshop.bornAll_eq, Workshop.at?_putFlat, FlatFactory.clone_eq]
      cases s <;> simp [origin, found, Workshop.at?]
  | freshFlat factory =>
    simp only [act, Workshop.freshFlat, Workshop.at?_putFlat]
    cases s <;> simp [origin, FlatFactory.empty]
  | dropFlat factory =>
    simp only [act, Workshop.at?_dropFlat]
    cases s <;> simp [origin]
  | dropFlats =>
    simp only [act, Workshop.dropFlats, Workshop.destroyAll_eq]
    cases s <;> simp [origin, Workshop.at?]
  | remove name => simp [act, Workshop.at?_remove, origin]
  | clearNamespace ns =>
    simp only [act, Workshop.at?_clearNamespace]
    cases s <;> simp [origin]
  | clear =>
    simp only [act, Workshop.clear, Workshop.destroyAll_eq]
    cases s <;> simp [origin, Workshop.at?, ScopedFactory.clear, Registry.clear, Registry.get?, Registry.empty]
  | extract name slot =>
    cases found : w.grouped.registry.get? name with
    | none => simp [act, origin, Workshop.extract, ScopedFactory.instantiator?, found]
    | some i =>
      have original : w.at? (.grouped name) = some i := found
      simp [act, origin, Workshop.extract, ScopedFactory.instantiator?, found, Instantiator.copy_eq,
        Workshop.at?_hold, original]
  | copySlot slot other =>
    cases held : w.slots[slot]? with
    | none => simp [act, origin, Workshop.copySlot, held]
    | some i =>
      have original : w.at? (.slot slot) = some i := held
      simp [act, origin, Workshop.copySlot, held, Instantiator.copy_eq, Workshop.at?_hold, original]
  | dropSlot slot => simp [act, Workshop.at?_dropSlot, origin]
  | createFromSlot slot param =>
    simp only [act, Workshop.createFromSlot]
    split <;> rfl
  | createFlat factory name param =>
    simp only [act, Workshop.createFlat]
    split <;> rfl
  | createScoped name param => rfl

/-- Whether something may be put on a shelf or taken from it. -/
def touches (m : Move P B) (s : Shelf) : Prop :=
  match m with
  | register place _ name keep => place.shelf name = s ∨ keep.map .slot = some s
  | registerHeld place slot name keep => .slot slot = s ∨ place.shelf name = s ∨ keep.map .slot = some s
  | unregister factory name => .flat factory name = s
  | cloneFlat _ factory | freshFlat factory | dropFlat factory => ∃ name, .flat factory name = s
  | dropFlats => ∃ factory name, .flat factory name = s
  | remove name => .grouped name = s
  | clearNamespace _ | clear => ∃ name, .grouped name = s
  | extract _ slot | copySlot _ slot | dropSlot slot => .slot slot = s
  | createFromSlot _ _ | createFlat _ _ _ | createScoped _ _ => False

/-- A move that does not touch a shelf leaves on it what was there. -/
theorem origin_of_untouched (w : Workshop P B) {m : Move P B} {s : Shelf} (untouched : ¬ m.touches s) :
    m.origin w s = .shelf s := by
  cases m with
  | register place i name keep =>
    obtain ⟨unnamed, unkept⟩ := not_or.mp untouched
    simp [origin, w.destination_ne unnamed unkept]
  | registerHeld place slot name keep =>
    obtain ⟨other, rest⟩ := not_or.mp untouched
    obtain ⟨unnamed, unkept⟩ := not_or.mp rest
    simp [origin, w.destination_ne unnamed unkept, other]
  | _ => cases s <;> simp_all [origin, touches]

theorem not_touches_stored (m : Move P B) (factory name : String) : ¬ m.touches (.stored factory name) := by
  cases m with
  | register place _ _ _ => cases place <;> simp [touches, Place.shelf]
  | registerHeld place _ _ _ => cases place <;> simp [touches, Place.shelf]
  | _ => simp [touches]

/-- A flat factory that no shelf of is touched stays the same. -/
theorem flats_act (w : Workshop P B) {m : Move P B} {factory : String}
    (untouched : ∀ name, ¬ m.touches (.flat factory name)) : (m.act w).flats[factory]? = w.flats[factory]? := by
  cases m with
  | register place i name keep =>
    have elsewhere title : place.shelf name ≠ .flat factory title := (not_or.mp (untouched title)).1
    rw [act, Workshop.register, (Workshop.settleOffer_frame ..).1]
    exact Workshop.flats_submit elsewhere i
  | registerHeld place slot name keep =>
    have elsewhere title : place.shelf name ≠ .flat factory title := (not_or.mp (not_or.mp (untouched title)).2).1
    cases held : w.slots[slot]? with
    | none => rw [Workshop.act_registerHeld_of_none held]
    | some i =>
      rw [Workshop.act_registerHeld_of_some held, (Workshop.settleOffer_frame ..).1]
      exact Workshop.flats_submit elsewhere i
  | unregister other name =>
    have differ : other ≠ factory := by simpa [touches] using untouched name
    simp only [act, Workshop.unregister, FlatFactory.unregister, Workshop.destroyAll_eq]
    split <;> simp [Std.ExtTreeMap.getElem?_insert, differ]
  | cloneFlat original other =>
    have differ : other ≠ factory := by simpa [touches] using untouched ""
    simp only [act, Workshop.cloneFlat, Workshop.putFlat, Workshop.bornAll_eq, Workshop.destroyAll_eq]
    split <;> simp [Std.ExtTreeMap.getElem?_insert, differ]
  | freshFlat other =>
    have differ : other ≠ factory := by simpa [touches] using untouched ""
    simp [act, Workshop.freshFlat, Workshop.putFlat, Workshop.destroyAll_eq, Std.ExtTreeMap.getElem?_insert, differ]
  | dropFlat other =>
    have differ : other ≠ factory := by simpa [touches] using untouched ""
    simp only [act, Workshop.dropFlat, Workshop.destroyAll_eq]
    split <;> simp [Std.ExtTreeMap.getElem?_erase, differ]
  | dropFlats => exact absurd ⟨_, _, rfl⟩ (untouched "")
  | extract name slot =>
    simp only [act, Workshop.extract, Workshop.hold, Workshop.destroyAll_eq]
    split <;> rfl
  | copySlot slot other =>
    simp only [act, Workshop.copySlot, Workshop.hold, Workshop.destroyAll_eq]
    split <;> rfl
  | dropSlot slot =>
    simp only [act, Workshop.dropSlot, Workshop.takeSlot]
    split <;> rename_i taken <;> obtain ⟨-, rfl⟩ := Prod.mk.inj taken <;> rfl
  | createFromSlot slot param =>
    simp only [act, Workshop.createFromSlot]
    split <;> rfl
  | createFlat other name param =>
    simp only [act, Workshop.createFlat]
    split <;> rfl
  | _ =>
    simp only [act, Workshop.remove, Workshop.clearNamespace, Workshop.clear, Workshop.createScoped,
      Workshop.destroyAll_eq]

end Move

namespace Premises

variable (p : Premises P B)

def at? : Shelf → Option (Instantiator P B)
  | .stored factory name => p.stored[factory]?.bind (·.registry.get? name)
  | s => p.shop.at? s

namespace Act

def origin (a : Act P B) (s : Shelf) : Origin P B :=
  match a, s with
  | work m, s => m.origin p.shop s
  | exchange factory, .grouped name => .shelf (.stored factory name)
  | exchange factory, .stored other name =>
    if factory = other then .shelf (.grouped name) else .shelf (.stored other name)
  | discard factory, .stored other name => if factory = other then .nothing else .shelf (.stored other name)
  | _, s => .shelf s

/-- Whether something may be put on a shelf or taken from it. -/
def touches (a : Act P B) (s : Shelf) : Prop :=
  match a with
  | work m => m.touches s
  | exchange factory => ∃ name, .grouped name = s ∨ .stored factory name = s
  | discard factory => ∃ name, .stored factory name = s

end Act

theorem content_origin (m : Move P B) {s : Shelf} (inUse : ∀ factory name, s ≠ .stored factory name) :
    (m.origin p.shop s).content p.at? = (m.origin p.shop s).content p.shop.at? := by
  cases s with
  | stored factory name => exact absurd rfl (inUse factory name)
  | _ => cases m <;> simp [Move.origin, at?]

/-- The same for the premises: what a shelf holds after an act is its origin's content. -/
theorem at?_step (a : Act P B) (s : Shelf) : (p.step a).at? s = (a.origin p s).content p.at? := by
  cases a with
  | work m =>
    cases s with
    | stored factory name =>
      rw [Act.origin, Move.origin_of_untouched _ (m.not_touches_stored factory name)]
      rfl
    | _ =>
      rw [Act.origin, p.content_origin m (by simp), ← Move.at?_act]
      rfl
  | exchange factory =>
    cases s with
    | grouped name =>
      have fetched : (p.stored[factory]?.getD .empty).registry.get? name =
          p.stored[factory]?.bind (·.registry.get? name) := by
        cases p.stored[factory]? <;> simp [ScopedFactory.empty, Registry.get?, Registry.empty]
      exact fetched
    | stored other name =>
      by_cases same : factory = other <;>
        simp [step, Act.origin, at?, Workshop.at?, Std.ExtTreeMap.getElem?_insert, same]
    | _ => rfl
  | discard factory =>
    simp only [step, Workshop.destroyAll_eq]
    cases s with
    | stored other name =>
      by_cases same : factory = other <;> simp [Act.origin, at?, Std.ExtTreeMap.getElem?_erase, same]
    | _ => rfl

theorem origin_of_untouched {a : Act P B} {s : Shelf} (untouched : ¬ a.touches s) : a.origin p s = .shelf s := by
  cases a with
  | work m => exact Move.origin_of_untouched _ untouched
  | _ => cases s <;> simp_all [Act.origin, Act.touches]

/-- What no act touches stays, by induction on the acts. -/
theorem at?_run {acts : List (Act P B)} {s : Shelf} (untouched : ∀ a ∈ acts, ¬ a.touches s) :
    (p.run acts).at? s = p.at? s := by
  induction acts generalizing p with
  | nil => rfl
  | cons a acts ih =>
    have rest := ih (p.step a) fun b among => untouched b (List.mem_cons_of_mem a among)
    rw [at?_step, p.origin_of_untouched (untouched a List.mem_cons_self)] at rest
    exact rest

theorem flats_step {a : Act P B} {factory : String} (untouched : ∀ name, ¬ a.touches (.flat factory name)) :
    (p.step a).shop.flats[factory]? = p.shop.flats[factory]? := by
  cases a with
  | work m => exact Move.flats_act _ untouched
  | exchange => rfl
  | discard => simp only [step, Workshop.destroyAll_eq]

theorem flats_run {acts : List (Act P B)} {factory : String}
    (untouched : ∀ a ∈ acts, ∀ name, ¬ a.touches (.flat factory name)) :
    (p.run acts).shop.flats[factory]? = p.shop.flats[factory]? := by
  induction acts generalizing p with
  | nil => rfl
  | cons a acts ih =>
    have rest := ih (p.step a) fun b among => untouched b (List.mem_cons_of_mem a among)
    rw [p.flats_step (untouched a List.mem_cons_self)] at rest
    exact rest

end Premises

end PluginHost
