import Std.Data.ExtTreeSet

namespace PluginHost

/-- What follows the last `::` that comes before any `<`; `none` where no `::` does. -/
def afterModulePath : List Char → Option (List Char)
  | [] => none
  | c :: rest =>
    if c = '<' then none
    else match afterModulePath rest with
      | some tail => some tail
      | none => if c = ':' && rest.head? == some ':' then some rest.tail else none

/-- A type name without its module path. Generic arguments keep theirs. -/
def shortTypeName (name : String) : String :=
  match afterModulePath name.toList with
  | some tail => String.ofList tail
  | none => name

/-- The identity of a type is its fully qualified name. -/
structure TypeKey where
  name : String
  deriving DecidableEq, Hashable, Repr

namespace TypeKey

def shortName (key : TypeKey) : String := shortTypeName key.name

instance : Ord TypeKey := ⟨compareOn name⟩

instance : Std.TransOrd TypeKey := inferInstanceAs (Std.TransCmp (compareOn name))

instance : Std.LawfulEqOrd TypeKey where
  eq_of_compare {a b} h := by
    have : a.name = b.name := Std.compare_eq_iff_eq.mp h
    cases a; cases b; simp_all

def display (key : TypeKey) : String := key.name

def debug (key : TypeKey) : String := "TypeKey(" ++ key.name ++ ")"

end TypeKey

end PluginHost
