import PluginHost.Toml.Text

namespace PluginHost.Toml

/-- How a table came about, which decides how it may still grow. -/
inductive Origin where
  /-- by its own header -/
  | header
  /-- on the way to another header -/
  | passing
  /-- by a dotted key -/
  | dotted
  deriving DecidableEq, Repr

inductive Node where
  | leaf (value : Value)
  | branch (origin : Origin) (entries : List (String × Node))
  /-- an array of tables, to which headers append -/
  | series (elements : List (List (String × Node)))

/-- Entries by key. -/
abbrev Entries := List (String × Node)

namespace Entries

/-- Replaces the entry of a key, or appends one. -/
def put (entries : Entries) (key : String) (node : Node) : Entries :=
  match entries with
  | [] => [(key, node)]
  | (k, n) :: rest => if k = key then (key, node) :: rest else (k, n) :: put rest key node

def remove (entries : Entries) (key : String) : Entries := entries.filter (·.1 ≠ key)

/--
Changes the table at the end of a path of header segments. Tables that are missing on the way are
made; an array of tables is entered at its last element.
-/
def within {α : Type} (change : Entries → Option (α × Entries)) :
    List String → Entries → Option (α × Entries)
  | [], entries => change entries
  | key :: path, entries =>
    match entries.lookup key with
    | none => do
      let (a, inner) ← within change path []
      some (a, entries.put key (.branch .passing inner))
    | some (.leaf _) => none
    | some (.branch origin inner) => do
      let (a, inner) ← within change path inner
      some (a, entries.put key (.branch origin inner))
    | some (.series elements) => do
      let (a, inner) ← within change path (← elements.getLast?)
      some (a, entries.put key (.series (elements.dropLast ++ [inner])))

/-- Adds an entry under a key that is not in use. -/
def addNew (entries : Entries) (key : String) (node : Node) : Option Entries :=
  match entries.lookup key with
  | none => some (entries.put key node)
  | some _ => none

/--
Adds an entry at the end of a dotted key that leads out of a table of the given origin. The tables on
the way are those that dotted keys may extend.
-/
def addBelow (origin : Origin) (key : String) (node : Node) : List String → Entries → Option Entries
  | [], entries => if origin = .dotted then entries.addNew key node else none
  | step :: path, entries => do
    let inner ← match entries.lookup step with
      | none => (addBelow .dotted key node path []).map (Node.branch .dotted)
      | some (.leaf _) => none
      | some (.branch .header _) => none
      | some (.branch origin inner) => (addBelow origin key node path inner).map (Node.branch origin)
      | some (.series elements) =>
        (elements.getLast?.bind (addBelow .header key node path)).map
          fun inner => Node.series (elements.dropLast ++ [inner])
    some (entries.put step inner)

/-- Adds an entry under a key, whose last segment names the entry. -/
def addDotted (entries : Entries) (key : List String) (node : Node) : Option Entries := do
  let last ← key.getLast?
  match key.dropLast with
  | [] => entries.addNew last node
  | path => entries.addBelow .header last node path

end Entries

mutual

def Node.toValue : Node → Value
  | .leaf value => value
  | .branch _ entries => .table (entriesToTable entries)
  | .series elements => .array (elementsToValues elements)

def entriesToTable : List (String × Node) → Table
  | [] => []
  | (key, node) :: rest => (key, node.toValue) :: entriesToTable rest

def elementsToValues : List (List (String × Node)) → List Value
  | [] => []
  | entries :: rest => .table (entriesToTable entries) :: elementsToValues rest

end

end PluginHost.Toml
