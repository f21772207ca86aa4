import PluginHost.Text.Blank

namespace PluginHost.Toml

structure Date where
  year : Nat
  month : Nat
  day : Nat
  deriving DecidableEq, Repr

structure Time where
  hour : Nat
  minute : Nat
  second : Nat
  nanosecond : Nat
  deriving DecidableEq, Repr

/-- Distance from universal time. `utc` is the one that is written as a letter. -/
inductive Offset where
  | utc
  | east (minutes : Int)
  deriving DecidableEq, Repr

inductive Moment where
  | date (date : Date)
  | time (time : Time)
  | dateTime (date : Date) (time : Time)
  | offsetDateTime (date : Date) (time : Time) (offset : Offset)
  deriving DecidableEq, Repr

/-- The values of the TOML data format. -/
inductive Value where
  | string (text : String)
  | integer (number : Int64)
  | float (number : Float)
  | boolean (flag : Bool)
  | moment (moment : Moment)
  | array (items : List Value)
  | table (entries : List (String × Value))
  deriving Inhabited

/-- Entries by key. The keys of a table that was read are distinct. -/
abbrev Table := List (String × Value)

namespace Value

def asTable? : Value → Option Table
  | table entries => some entries
  | _ => none

def asString? : Value → Option String
  | string text => some text
  | _ => none

def asBool? : Value → Option Bool
  | boolean flag => some flag
  | _ => none

def asInt? : Value → Option Int64
  | integer number => some number
  | _ => none

/-- A floating-point number; an integer is widened. -/
def asFloat? : Value → Option Float
  | float number => some number
  | integer number => some number.toFloat
  | _ => none

end Value

namespace Table

def get? (t : Table) (key : String) : Option Value := t.lookup key

/-- The value at the end of a path through nested tables. -/
def walk? (t : Table) : List String → Option Value
  | [] => none
  | [key] => get? t key
  | key :: rest => do
    let inner ← (← get? t key).asTable?
    walk? inner rest

/-- The value at a key whose segments are joined by dots. -/
def dotted? (t : Table) (key : String) : Option Value := walk? t (Text.split '.' key)

end Table

end PluginHost.Toml
