import PluginHost.Factory.Basic

namespace PluginHost

/-- The kinds of instantiators. -/
inductive InstantiatorKind where
  | ofType | ofConstructor | custom
  deriving DecidableEq, Repr

def Instantiator.kind {P B : Type} : Instantiator P B → InstantiatorKind
  | ofType _ _ => .ofType
  | ofConstructor _ _ => .ofConstructor
  | custom _ => .custom

/-- Living instantiators of each kind. -/
structure Census where
  ofType : Nat := 0
  ofConstructor : Nat := 0
  custom : Nat := 0
  deriving DecidableEq, Repr

namespace Census

/-- Changes the count of one kind. -/
def change (c : Census) (kind : InstantiatorKind) (f : Nat → Nat) : Census :=
  match kind with
  | .ofType => { c with ofType := f c.ofType }
  | .ofConstructor => { c with ofConstructor := f c.ofConstructor }
  | .custom => { c with custom := f c.custom }

end Census

/-- Everything that owns instantiators: flat factories by name, a scoped factory, and slots in which callers
hold what a factory handed back or out. -/
structure Workshop (P B : Type) where
  flats : Std.ExtTreeMap String (FlatFactory String P B) compare := ∅
  grouped : ScopedFactory String P B := .empty
  slots : Std.ExtTreeMap String (Instantiator P B) compare := ∅
  census : Census := {}
  tally : Tally := {}

/-- Where an instantiator is registered. -/
inductive Place where
  | flat (factory : String)
  | grouped (ns : Namespace)
  deriving DecidableEq, Repr

/-- What an offer of an instantiator leaves. -/
structure Offer (P B : Type) where
  workshop : Workshop P B
  handedBack? : Option (Instantiator P B)
  log : List Log.Record

namespace Workshop

variable {P B : Type}

/-- A workshop with one empty flat factory. -/
def withFlat (name : String) : Workshop P B :=
  { flats := (∅ : Std.ExtTreeMap String (FlatFactory String P B) compare).insert name .empty }

/-- An instantiator comes to life. -/
def born (w : Workshop P B) (i : Instantiator P B) : Workshop P B :=
  { w with census := w.census.change i.kind (· + 1) }

/-- An instantiator is destroyed. -/
def destroy (w : Workshop P B) (i : Instantiator P B) : Workshop P B :=
  { w with census := w.census.change i.kind (· - 1) }

def bornAll (w : Workshop P B) (is : List (Instantiator P B)) : Workshop P B := is.foldl born w

def destroyAll (w : Workshop P B) (is : List (Instantiator P B)) : Workshop P B := is.foldl destroy w

/-- Takes the instantiator out of a slot. -/
def takeSlot (w : Workshop P B) (slot : String) : Option (Instantiator P B) × Workshop P B :=
  (w.slots[slot]?, { w with slots := w.slots.erase slot })

/-- Puts an instantiator into a slot. What the slot held is destroyed. -/
def hold (w : Workshop P B) (slot : String) (i : Instantiator P B) : Workshop P B :=
  let w := w.destroyAll w.slots[slot]?.toList
  { w with slots := w.slots.insert slot i }

/-- Keeps an instantiator in a slot, or destroys it where none is named. -/
def settle (w : Workshop P B) (keep : Option String) (i : Instantiator P B) : Workshop P B :=
  match keep with
  | some slot => w.hold slot i
  | none => w.destroy i

/-- Puts a flat factory in place. The one that was there is destroyed with its instantiators. -/
def putFlat (w : Workshop P B) (name : String) (f : FlatFactory String P B) : Workshop P B :=
  let w := w.destroyAll ((w.flats[name]?.map (·.all)).getD [])
  { w with flats := w.flats.insert name f }

/-- Offers an instantiator for registration. It is handed back if the name is taken. -/
def submit (w : Workshop P B) (place : Place) (i : Instantiator P B) (name : String) : Offer P B :=
  match place with
  | .flat factory =>
    match w.flats[factory]? with
    | none => ⟨w, some i, []⟩
    | some f =>
      match f.register i name with
      | .error i => ⟨w, some i, []⟩
      | .ok f => ⟨{ w with flats := w.flats.insert factory f }, none, []⟩
  | .grouped ns =>
    match w.grouped.register i name ns with
    | .error i => ⟨w, some i, [Registry.rejection (Text.quote name) ns]⟩
    | .ok f => ⟨{ w with grouped := f }, none, []⟩

/-- Keeps what an offer handed back in a slot, or destroys it where none is named. -/
def settleOffer (o : Offer P B) (keep : Option String) : Offer P B :=
  match o.handedBack? with
  | none => o
  | some i => { o with workshop := o.workshop.settle keep i }

/-- Registers a new instantiator. One that is handed back goes to a slot or is destroyed. -/
def register (w : Workshop P B) (place : Place) (i : Instantiator P B) (name : String)
    (keep : Option String) : Offer P B :=
  settleOffer ((w.born i).submit place i name) keep

/-- Registers the instantiator of a slot, which it leaves. `none` where the slot is empty. -/
def registerHeld (w : Workshop P B) (place : Place) (slot name : String) (keep : Option String) :
    Option (Offer P B) :=
  match w.takeSlot slot with
  | (none, _) => none
  | (some i, w) => some (settleOffer (w.submit place i name) keep)

/-- Destroys what is registered under a name of a flat factory. -/
def unregister (w : Workshop P B) (factory name : String) : Workshop P B :=
  match w.flats[factory]? with
  | none => w
  | some f =>
    let (taken, f) := f.unregister name
    { w.destroyAll taken.toList with flats := w.flats.insert factory f }

/-- Puts a clone of a flat factory in a place. -/
def cloneFlat (w : Workshop P B) (factory copy : String) : Workshop P B :=
  match w.flats[factory]? with
  | none => w
  | some f => (w.bornAll f.clone.all).putFlat copy f.clone

/-- Puts an empty flat factory in a place. -/
def freshFlat (w : Workshop P B) (factory : String) : Workshop P B := w.putFlat factory .empty

/-- Destroys a flat factory. Tells whether there was one. -/
def dropFlat (w : Workshop P B) (factory : String) : Bool × Workshop P B :=
  match w.flats[factory]? with
  | none => (false, w)
  | some f => (true, { w.destroyAll f.all with flats := w.flats.erase factory })

/-- Destroys every flat factory. -/
def dropFlats (w : Workshop P B) : Workshop P B :=
  { w.destroyAll (w.flats.toList.flatMap fun (_, f) => f.all) with flats := ∅ }

/-- Destroys what is registered under a name of the scoped factory. Tells whether anything was. -/
def remove (w : Workshop P B) (name : String) : Bool × Workshop P B :=
  let (taken, f) := w.grouped.remove name
  (taken.isSome, { w.destroyAll taken.toList with grouped := f })

/-- Destroys what is registered in a namespace. -/
def clearNamespace (w : Workshop P B) (ns : Namespace) : List Log.Record × Workshop P B :=
  let (taken, f) := w.grouped.clearNamespace ns
  ([Registry.clearance taken.length ns], { w.destroyAll taken with grouped := f })

/-- Destroys what is registered in the scoped factory. -/
def clear (w : Workshop P B) : Workshop P B :=
  let (taken, f) := w.grouped.clear
  { w.destroyAll taken with grouped := f }

/-- Puts a copy of a registered instantiator into a slot. Tells whether the name is registered. -/
def extract (w : Workshop P B) (name slot : String) : Bool × Workshop P B :=
  match w.grouped.instantiator? name with
  | none => (false, w)
  | some i => (true, (w.born i).hold slot i)

/-- Puts a copy of the instantiator in one slot into another. Tells whether there is one. -/
def copySlot (w : Workshop P B) (slot other : String) : Bool × Workshop P B :=
  match w.slots[slot]? with
  | none => (false, w)
  | some i => (true, (w.born i.copy).hold other i.copy)

/-- Destroys the instantiator in a slot. Tells whether there was one. -/
def dropSlot (w : Workshop P B) (slot : String) : Bool × Workshop P B :=
  match w.takeSlot slot with
  | (none, w) => (false, w)
  | (some i, w) => (true, w.destroy i)

/-- Creates an object with an instantiator. -/
def createWith (w : Workshop P B) (i : Instantiator P B) (param : P) : B × Workshop P B :=
  let (b, tally) := i.create param w.tally
  (b, { w with tally })

/-- Creates an object with the instantiator in a slot. -/
def createFromSlot (w : Workshop P B) (slot : String) (param : P) : Option B × Workshop P B :=
  match w.slots[slot]? with
  | none => (none, w)
  | some i => let (b, w) := w.createWith i param; (some b, w)

/-- Creates an object in a flat factory. -/
def createFlat (w : Workshop P B) (factory name : String) (param : P) : Option B × Workshop P B :=
  match w.flats[factory]? with
  | none => (none, w)
  | some f => let (b, tally) := f.create name param w.tally; (b, { w with tally })

/-- Creates an object in the scoped factory. -/
def createScoped (w : Workshop P B) (name : String) (param : P) : Option B × Workshop P B :=
  let (b, tally) := w.grouped.create name param w.tally
  (b, { w with tally })

end Workshop

end PluginHost
