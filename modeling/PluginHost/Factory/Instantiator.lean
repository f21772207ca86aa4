import Std.Data.ExtTreeMap
import PluginHost.TypeKey

namespace PluginHost

/-- The number of a constructor. -/
structure Cell where
  index : Nat
  deriving DecidableEq, Repr

instance : Ord Cell := ⟨compareOn Cell.index⟩

instance : Std.TransOrd Cell := inferInstanceAs (Std.TransCmp (compareOn Cell.index))

instance : Std.LawfulEqOrd Cell where
  eq_of_compare {a b} h := by
    have : a.index = b.index := Std.compare_eq_iff_eq.mp h
    cases a; cases b; simp_all

/-- How often each constructor has been called. -/
structure Tally where
  calls : Std.ExtTreeMap Cell Nat compare := ∅

namespace Tally

def count (t : Tally) (cell : Cell) : Nat := t.calls[cell]?.getD 0

def tick (t : Tally) (cell : Cell) : Tally := ⟨t.calls.insert cell (t.count cell + 1)⟩

end Tally

/-- Creates objects of type `B` from a parameter of type `P`. One that is backed by a constructor shares it with
all of its copies, together with the number of calls that the constructor has seen. -/
inductive Instantiator (P B : Type) where
  /-- creates objects of one concrete type -/
  | ofType (key : TypeKey) (build : P → B)
  /-- calls a constructor, which may depend on how often it was called before -/
  | ofConstructor (cell : Cell) (build : Nat → P → B)
  /-- a strategy of the caller's own -/
  | custom (build : P → B)

namespace Instantiator

variable {P B : Type}

/-- Creates an object. -/
def create (i : Instantiator P B) (param : P) (t : Tally) : B × Tally :=
  match i with
  | ofType _ build => (build param, t)
  | ofConstructor cell build => (build (t.count cell) param, t.tick cell)
  | custom build => (build param, t)

/-- A new instantiator of the same kind. -/
def copy : Instantiator P B → Instantiator P B
  | ofType key build => ofType key build
  | ofConstructor cell build => ofConstructor cell build
  | custom build => custom build

/-- The diagnostic text of an instantiator that is backed by a type and takes no parameter. -/
def debug (key : TypeKey) : String := "TypeInstantiator<" ++ key.name ++ ">"

/-- The diagnostic text of an instantiator that is backed by a type and takes a parameter. -/
def debugParam (key param : TypeKey) : String :=
  "TypeParamInstantiator<" ++ key.name ++ ", " ++ param.name ++ ">"

/-- The type behind an instantiator. -/
def typeKey? : Instantiator P B → Option TypeKey
  | ofType key _ => some key
  | _ => none

end Instantiator

end PluginHost
