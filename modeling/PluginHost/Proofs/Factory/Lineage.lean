import PluginHost.Proofs.Factory.Shelf

namespace PluginHost

variable {P B : Type}

theorem Tally.count_tick (t : Tally) (cell other : Cell) :
    (t.tick cell).count other = if cell = other then t.count cell + 1 else t.count other := by
  unfold tick count
  rw [Std.ExtTreeMap.getElem?_insert]
  by_cases same : cell = other <;> simp [same]

namespace Instantiator

/-- The constructor that is called. -/
def cell? : Instantiator P B → Option Cell
  | ofConstructor cell _ => some cell
  | _ => none

/-- No constructor is called by both. -/
def Apart (i j : Instantiator P B) : Prop := ∀ cell, i.cell? = some cell → j.cell? ≠ some cell

/-- The constructor that is called has seen as many calls. -/
def SeesAlike (i : Instantiator P B) (t u : Tally) : Prop := ∀ cell, i.cell? = some cell → t.count cell = u.count cell

/-- What is created from some parameters, one after the other, when nothing else is called. -/
def alone (i : Instantiator P B) (t : Tally) : List P → List B
  | [] => []
  | param :: params =>
    let (b, t) := i.create param t
    b :: i.alone t params

variable {i : Instantiator P B} {t u : Tally}

/-- An instantiator that sees the same counts creates the same, and sees the same counts afterwards. -/
theorem SeesAlike.create (alike : i.SeesAlike t u) (param : P) :
    (i.create param t).1 = (i.create param u).1 ∧ i.SeesAlike (i.create param t).2 (i.create param u).2 := by
  cases i with
  | ofConstructor cell build =>
    have calls : t.count cell = u.count cell := alike cell rfl
    refine ⟨congrArg (build · param) calls, fun other called => ?_⟩
    cases called
    simp [Instantiator.create, Tally.count_tick, calls]
  | _ => exact ⟨rfl, alike⟩

theorem SeesAlike.alone (alike : i.SeesAlike t u) (params : List P) : i.alone t params = i.alone u params := by
  induction params generalizing t u with
  | nil => rfl
  | cons param params ih =>
    obtain ⟨same, next⟩ := alike.create param
    simp only [Instantiator.alone, same, ih next]

/-- What is created by an instantiator of another constructor goes unseen. -/
theorem Apart.seesAlike {j : Instantiator P B} (apart : i.Apart j) (param : P) (t : Tally) :
    i.SeesAlike (j.create param t).2 t := by
  intro cell called
  cases j with
  | ofConstructor other build =>
    have differ : other ≠ cell := by simpa [cell?] using apart cell called
    simp [Instantiator.create, Tally.count_tick, differ]
  | _ => rfl

end Instantiator

/-- A creation through what stands on a shelf. -/
structure Creation (P B : Type) where
  shelf : Shelf
  param : P
  object? : Option B

theorem Workshop.tally_submit {w : Workshop P B} (place : Place) (i : Instantiator P B) (name : String) :
    (w.submit place i name).workshop.tally = w.tally := by
  unfold submit
  split
  · split
    · rfl
    · split <;> rfl
  · split <;> rfl

namespace Move

def creation? (w : Workshop P B) : Move P B → Option (Creation P B)
  | createFromSlot slot param => some ⟨.slot slot, param, (w.createFromSlot slot param).1⟩
  | createFlat factory name param => some ⟨.flat factory name, param, (w.createFlat factory name param).1⟩
  | createScoped name param => some ⟨.grouped name, param, (w.createScoped name param).1⟩
  | _ => none

/-- An instantiator that stood nowhere before. -/
def newcomer? : Move P B → Option (Instantiator P B)
  | register _ i _ _ => some i
  | _ => none

/-- New on a shelf is only what the move made. -/
theorem newcomer_of_origin {w : Workshop P B} {m : Move P B} {s : Shelf} {i : Instantiator P B}
    (fresh : m.origin w s = .newcomer i) : m.newcomer? = some i := by
  cases m with
  | register place j name keep =>
    simp only [origin] at fresh
    split at fresh <;> cases fresh
    rfl
  | _ => cases s <;> simp [origin, ite_eq_iff] at fresh

/-- A move that creates nothing counts nothing. -/
theorem tally_act {w : Workshop P B} {m : Move P B} (idle : m.creation? w = none) : (m.act w).tally = w.tally := by
  cases m with
  | register place i name keep => exact (Workshop.settleOffer_frame ..).2.trans (Workshop.tally_submit place i name)
  | registerHeld place slot name keep =>
    cases held : w.slots[slot]? with
    | none => rw [Workshop.act_registerHeld_of_none held]
    | some i =>
      rw [Workshop.act_registerHeld_of_some held]
      exact (Workshop.settleOffer_frame ..).2.trans (Workshop.tally_submit place i name)
  | unregister factory name =>
    simp only [act, Workshop.unregister, Workshop.destroyAll_eq]
    split <;> rfl
  | cloneFlat factory copy =>
    simp only [act, Workshop.cloneFlat, Workshop.putFlat, Workshop.bornAll_eq, Workshop.destroyAll_eq]
    split <;> rfl
  | dropFlat factory =>
    simp only [act, Workshop.dropFlat, Workshop.destroyAll_eq]
    split <;> rfl
  | extract name slot =>
    simp only [act, Workshop.extract, Workshop.hold, Workshop.destroyAll_eq]
    split <;> rfl
  | copySlot slot other =>
    simp only [act, Workshop.copySlot, Workshop.hold, Workshop.destroyAll_eq]
    split <;> rfl
  | dropSlot slot =>
    simp only [act, Workshop.dropSlot, Workshop.takeSlot]
    split <;> rename_i taken <;> obtain ⟨-, rfl⟩ := Prod.mk.inj taken <;> rfl
  | createFromSlot slot param => cases idle
  | createFlat factory name param => cases idle
  | createScoped name param => cases idle
  | _ => simp only [act, Workshop.freshFlat, Workshop.putFlat, Workshop.dropFlats, Workshop.remove,
      Workshop.clearNamespace, Workshop.clear, Workshop.destroyAll_eq]

/-- A move that creates has the instantiator on its shelf do it, and counts that call. -/
theorem creation_spec {w : Workshop P B} {m : Move P B} {c : Creation P B} (created : m.creation? w = some c) :
    c.object? = (w.at? c.shelf).map (fun i => (i.create c.param w.tally).1) ∧
      (m.act w).tally = ((w.at? c.shelf).map fun i => (i.create c.param w.tally).2).getD w.tally := by
  cases m with
  | createFromSlot slot param =>
    cases created
    simp only [act, Workshop.createFromSlot, Workshop.at?]
    cases w.slots[slot]? <;> exact ⟨rfl, rfl⟩
  | createFlat factory name param =>
    cases created
    simp only [act, Workshop.createFlat, Workshop.at?, FlatFactory.create]
    cases w.flats[factory]? with
    | none => exact ⟨rfl, rfl⟩
    | some f =>
      simp only [Option.bind_some]
      cases f.instantiators[name]? <;> exact ⟨rfl, rfl⟩
  | createScoped name param =>
    cases created
    simp only [act, Workshop.createScoped, Workshop.at?, ScopedFactory.create]
    cases w.grouped.registry.get? name <;> exact ⟨rfl, rfl⟩
  | _ => cases created

end Move

namespace Premises

def Act.creation? (p : Premises P B) : Act P B → Option (Creation P B)
  | work m => m.creation? p.shop
  | _ => none

def Act.newcomer? : Act P B → Option (Instantiator P B)
  | work m => m.newcomer?
  | _ => none

/-- The shelves of the family after a step: those with what stood in the family before, and with copies of it. -/
def Act.heirs (p : Premises P B) (family : Shelf → Bool) (a : Act P B) (s : Shelf) : Bool :=
  match a.origin p s with
  | .shelf origin => family origin
  | _ => false

def heirs (p : Premises P B) (family : Shelf → Bool) : List (Act P B) → Shelf → Bool
  | [] => family
  | a :: acts => (p.step a).heirs (a.heirs p family) acts

/-- The creations through members of the family. -/
def creations (p : Premises P B) (family : Shelf → Bool) : List (Act P B) → List (Creation P B)
  | [] => []
  | a :: acts =>
    ((a.creation? p).filter (family ·.shelf)).toList ++ (p.step a).creations (a.heirs p family) acts

/-- What stands on the shelves of a family are copies of one instantiator, and nothing else calls its
constructor. -/
structure Descends (i : Instantiator P B) (family : Shelf → Bool) (p : Premises P B) : Prop where
  members : ∀ s, family s → p.at? s = some i
  strangers : ∀ s j, family s = false → p.at? s = some j → i.Apart j

variable {i : Instantiator P B} {family : Shelf → Bool} {p : Premises P B}

theorem newcomer_of_origin {a : Act P B} {s : Shelf} (fresh : a.origin p s = .newcomer i) :
    a.newcomer? = some i := by
  cases a with
  | work m => exact Move.newcomer_of_origin fresh
  | _ => cases s <;> simp [Act.origin, ite_eq_iff] at fresh

theorem creation_spec {a : Act P B} {c : Creation P B} (created : a.creation? p = some c) :
    c.object? = (p.at? c.shelf).map (fun i => (i.create c.param p.shop.tally).1) ∧
      (p.step a).shop.tally =
        ((p.at? c.shelf).map fun i => (i.create c.param p.shop.tally).2).getD p.shop.tally := by
  cases a with
  | work m =>
    have inUse : p.at? c.shelf = p.shop.at? c.shelf := by
      cases m <;> cases created <;> rfl
    rw [inUse]
    exact Move.creation_spec created
  | _ => cases created

theorem tally_step {a : Act P B} (idle : a.creation? p = none) : (p.step a).shop.tally = p.shop.tally := by
  cases a with
  | work m => exact Move.tally_act idle
  | exchange => rfl
  | discard => simp only [Premises.step, Workshop.destroyAll_eq]

/-- After a step the heirs descend from the same instantiator, if nobody came with its constructor. -/
theorem Descends.step (descends : Descends i family p) {a : Act P B} (newcomers : ∀ j ∈ a.newcomer?, i.Apart j) :
    Descends i (a.heirs p family) (p.step a) := by
  constructor
  · intro s heir
    rw [at?_step]
    unfold Act.heirs at heir
    split at heir
    · rename_i original found
      rw [found]
      exact descends.members original heir
    · cases heir
  · intro s j stranger held
    rw [at?_step] at held
    cases found : a.origin p s with
    | shelf original =>
      simp only [Act.heirs, found] at stranger
      rw [found] at held
      exact descends.strangers original j stranger held
    | newcomer k =>
      rw [found] at held
      cases held
      exact newcomers j (newcomer_of_origin found)
    | nothing =>
      rw [found] at held
      cases held

/-- What is created in a step is what the ancestor would create next, if a member of the family is called;
otherwise the ancestor does not notice. -/
theorem Descends.creation (descends : Descends i family p) (a : Act P B) :
    (∃ c, (a.creation? p).filter (family ·.shelf) = some c ∧
        c.object? = some (i.create c.param p.shop.tally).1 ∧
        (p.step a).shop.tally = (i.create c.param p.shop.tally).2) ∨
      (a.creation? p).filter (family ·.shelf) = none ∧ i.SeesAlike (p.step a).shop.tally p.shop.tally := by
  cases created : a.creation? p with
  | none =>
    refine .inr ⟨rfl, fun cell _ => ?_⟩
    rw [tally_step created]
  | some c =>
    obtain ⟨object, tally⟩ := creation_spec created
    cases member : family c.shelf with
    | true =>
      rw [descends.members _ member] at object tally
      exact .inl ⟨c, by simp [Option.filter, member], object, tally⟩
    | false =>
      refine .inr ⟨by simp [Option.filter, member], ?_⟩
      rw [tally]
      cases held : p.at? c.shelf with
      | none => exact fun _ _ => rfl
      | some j => exact (descends.strangers _ j member held).seesAlike c.param p.shop.tally

/-- The run lemma: the descendants create in turn what the first one alone would have, by induction on the acts. -/
theorem Descends.run (descends : Descends i family p) {acts : List (Act P B)}
    (newcomers : ∀ a ∈ acts, ∀ j ∈ a.newcomer?, i.Apart j) :
    Descends i (p.heirs family acts) (p.run acts) ∧
      (p.creations family acts).map (·.object?) =
        (i.alone p.shop.tally ((p.creations family acts).map (·.param))).map some := by
  induction acts generalizing p family with
  | nil => exact ⟨descends, rfl⟩
  | cons a acts ih =>
    have next := descends.step (newcomers a List.mem_cons_self)
    obtain ⟨later, rest⟩ := ih next fun b among => newcomers b (List.mem_cons_of_mem a among)
    refine ⟨later, ?_⟩
    obtain ⟨c, called, object, tally⟩ | ⟨uncalled, alike⟩ := descends.creation a
    · rw [tally] at rest
      simp only [creations, called, Option.toList_some, List.singleton_append, List.map_cons, object, rest,
        Instantiator.alone]
    · rw [alike.alone] at rest
      simpa only [creations, uncalled, Option.toList_none, List.nil_append] using rest

/-- The copies of an instantiator, however they were made from each other, create between them what it would
have created alone, and stay the only ones that call its constructor. What becomes of a factory does not touch
one that it was cloned from or that was cloned from it, and a copy that was handed out goes on to create until
it is destroyed. -/
theorem copies_create_alike (p : Premises P B) (acts : List (Act P B)) :
    (∀ i family, Descends i family p → (∀ a ∈ acts, ∀ j ∈ a.newcomer?, i.Apart j) →
      let created := p.creations family acts
      Descends i (p.heirs family acts) (p.run acts) ∧
        created.map (·.object?) = (i.alone p.shop.tally (created.map (·.param))).map some) ∧
    (∀ factory copy f, factory ≠ copy → p.shop.flats[factory]? = some f →
      let q := p.step (.work (.cloneFlat factory copy))
      f.clone.names = f.names ∧
        ((∀ a ∈ acts, ∀ name, ¬ a.touches (.flat factory name)) → (q.run acts).shop.flats[factory]? = some f) ∧
        ((∀ a ∈ acts, ∀ name, ¬ a.touches (.flat copy name)) → (q.run acts).shop.flats[copy]? = some f.clone)) ∧
    ∀ name slot i param, p.shop.grouped.registry.get? name = some i → (∀ a ∈ acts, ¬ a.touches (.slot slot)) →
      let q := (p.step (.work (.extract name slot))).run acts
      (q.shop.createFromSlot slot param).1 = some (i.create param q.shop.tally).1 := by
  refine ⟨fun i family descends newcomers => descends.run newcomers, fun factory copy f differ found => ?_,
    fun name slot i param found untouched => ?_⟩
  · have names : f.clone.names = f.names := by rw [f.clone_eq]
    have original : (p.step (.work (.cloneFlat factory copy))).shop.flats[factory]? = some f := by
      refine (p.flats_step fun name => ?_).trans found
      rintro ⟨title, same⟩
      exact differ (Shelf.flat.inj same).1.symm
    have cloned : (p.step (.work (.cloneFlat factory copy))).shop.flats[copy]? = some f.clone := by
      simp [step, Move.act, Workshop.cloneFlat, found, Workshop.putFlat, Workshop.destroyAll_eq]
    exact ⟨names, fun untouched => (flats_run _ untouched).trans original,
      fun untouched => (flats_run _ untouched).trans cloned⟩
  · have registered : p.at? (.grouped name) = some i := found
    have extracted : (p.step (.work (.extract name slot))).at? (.slot slot) = some i := by
      rw [at?_step]
      simp [Act.origin, Move.origin, found, registered]
    have kept := (at?_run _ untouched).trans extracted
    simp only [at?, Workshop.at?] at kept
    simp only [Workshop.createFromSlot, kept]
    rfl

/-- A counter is registered, extracted, copied, registered anew and cloned, and loses two registrations. -/
theorem copies_create_alike_counter :
    let counter : Instantiator Unit Nat := .ofConstructor ⟨0⟩ fun n _ => n
    let label : Instantiator Unit Nat := .custom fun _ => 7
    let bare : Premises Unit Nat := (opened {}).step (.work (.freshFlat "f"))
    let p := bare.step (.work (.register (.grouped (.plugin 3)) counter "c" none))
    let acts : List (Act Unit Nat) :=
      [.work (.extract "c" "s"), .work (.register (.flat "f") label "l" none), .work (.createFromSlot "s" ()),
        .work (.copySlot "s" "t"), .work (.registerHeld (.flat "f") "t" "c" none), .work (.cloneFlat "f" "g"),
        .work (.createScoped "c" ()), .work (.clearNamespace (.plugin 3)), .work (.createFlat "g" "l" ()),
        .work (.createFlat "g" "c" ()), .work (.unregister "g" "c"), .work (.createFlat "f" "c" ()),
        .work (.createFromSlot "s" ())]
    (p.creations (· == .grouped "c") acts).map (·.object?) = [some 0, some 1, some 2, some 3, some 4] := by
  intro counter label bare p acts
  have nothing (s : Shelf) : bare.at? s = none := by
    rw [at?_step]
    cases s <;>
      simp [Act.origin, Move.origin, opened, at?, Workshop.at?, Registry.get?, ScopedFactory.empty, Registry.empty]
  have lands : bare.shop.destination (.grouped (.plugin 3)) "c" none = some (.grouped "c") := by decide +kernel
  have stock (s : Shelf) : p.at? s = if .grouped "c" = s then some counter else none := by
    refine (at?_step _ _ s).trans ?_
    simp only [Act.origin, Move.origin, lands, Option.some.injEq, Origin.content_ite, Origin.content_newcomer,
      Origin.content_shelf, nothing]
  have descends : Descends counter (· == .grouped "c") p := by
    constructor
    · intro s member
      rw [stock, if_pos (beq_iff_eq.mp member).symm]
    · intro s j stranger held
      have other : .grouped "c" ≠ s := (beq_eq_false_iff_ne.mp stranger).symm
      rw [stock, if_neg other] at held
      cases held
  have newcomers : ∀ a ∈ acts, ∀ j ∈ a.newcomer?, counter.Apart j := by
    simp [acts, Act.newcomer?, Move.newcomer?, Instantiator.Apart, Instantiator.cell?, label]
  have created := ((copies_create_alike p acts).1 counter _ descends newcomers).2
  rw [created]
  decide +kernel

end Premises

end PluginHost
