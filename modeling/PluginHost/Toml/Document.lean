import PluginHost.Toml.Number
import PluginHost.Toml.Node

namespace PluginHost.Toml

/-- The items of an array and its closing bracket. A comma may follow the last item. -/
def readItems (readItem : Reader Value) : Nat → Reader (List Value)
  | 0, _ => none
  | fuel + 1, cs =>
    match skipTrivia cs.length cs with
    | ']' :: rest => some ([], rest)
    | cs => do
      let (item, cs) ← readItem cs
      match skipTrivia cs.length cs with
      | ',' :: rest => do
        let (items, rest) ← readItems readItem fuel rest
        some (item :: items, rest)
      | ']' :: rest => some ([item], rest)
      | _ => none

/-- A key, an equality sign and a value. -/
def readPair (readItem : Reader Value) (cs : List Char) :
    Option ((List String × Value) × List Char) := do
  let (key, cs) ← readKey cs
  let cs ← readChar '=' cs
  let (value, cs) ← readItem (skipSpaces cs)
  some ((key, value), cs)

/-- The pairs of a table on one line and its closing brace. No comma may follow the last pair. -/
def readPairs (readItem : Reader Value) : Nat → Entries → Reader Entries
  | 0, _, _ => none
  | fuel + 1, entries, cs => do
    let ((key, value), cs) ← readPair readItem cs
    let entries ← entries.addDotted key (.leaf value)
    match skipSpaces cs with
    | ',' :: rest => readPairs readItem fuel entries rest
    | '\x7d' :: rest => some (entries, rest)
    | _ => none

/-- A number, a date or a time. -/
def readNumeric (cs : List Char) : Option (Value × List Char) :=
  match readMoment cs with
  | some (moment, rest) => some (.moment moment, rest)
  | none =>
    match (readFinite cs).orElse fun _ => readSpecial cs with
    | some (number, rest) => some (.float number, rest)
    | none => (readInteger cs).map fun (number, rest) => (.integer number, rest)

/-- A value, in which arrays and tables nest at most so deep. -/
def readValue (depth : Nat) (cs : List Char) : Option (Value × List Char) :=
  match cs with
  | [] => none
  | c :: rest =>
    if c = '"' ∨ c = '\'' then (readString cs).map fun (text, rest) => (.string text, rest)
    else if c = '[' then
      match depth with
      | 0 => none
      | depth + 1 =>
        (readItems (readValue depth) cs.length rest).map fun (items, rest) => (.array items, rest)
    else if c = '\x7b' then
      match depth with
      | 0 => none
      | depth + 1 =>
        match skipSpaces rest with
        | '\x7d' :: rest => some (.table [], rest)
        | rest =>
          (readPairs (readValue depth) cs.length [] rest).map
            fun (entries, rest) => (.table (entriesToTable entries), rest)
    else match cs with
      | 't' :: 'r' :: 'u' :: 'e' :: rest => some (.boolean true, rest)
      | 'f' :: 'a' :: 'l' :: 's' :: 'e' :: rest => some (.boolean false, rest)
      | _ => readNumeric cs

/-- A document that has been read up to some line. The table of the last header is still open. -/
structure Draft where
  /-- the closed tables -/
  root : Entries
  /-- the header of the open table, empty for the table of the document itself -/
  path : List String
  /-- whether the open table is an element of an array of tables -/
  inSeries : Bool
  /-- the open table -/
  entries : Entries

namespace Draft

def start : Draft := ⟨[], [], false, []⟩

/-- Closes the open table and gives the whole document. -/
def close (d : Draft) : Option Entries :=
  match d.path.getLast? with
  | none => some d.entries
  | some key =>
    let change (parent : Entries) : Option (Unit × Entries) :=
      match parent.lookup key with
      | none =>
        some ((), parent.put key (if d.inSeries then .series [d.entries] else .branch .header d.entries))
      | some (.series elements) =>
        if d.inSeries then some ((), parent.put key (.series (elements ++ [d.entries]))) else none
      | some _ => none
    (Entries.within change d.path.dropLast d.root).map (·.2)

/-- Opens the table of a header. What other headers already put below it is kept. -/
def openTable (d : Draft) (path : List String) : Option Draft := do
  let root ← d.close
  let key ← path.getLast?
  let change (parent : Entries) : Option (Entries × Entries) :=
    match parent.lookup key with
    | none => some ([], parent)
    | some (.branch .passing inner) => some (inner, parent.remove key)
    | some _ => none
  let (entries, root) ← Entries.within change path.dropLast root
  some ⟨root, path, false, entries⟩

/-- Opens a new element of an array of tables. -/
def openElement (d : Draft) (path : List String) : Option Draft := do
  let root ← d.close
  let key ← path.getLast?
  let change (parent : Entries) : Option (Unit × Entries) :=
    match parent.lookup key with
    | none => some ((), parent)
    | some (.series _) => some ((), parent)
    | some _ => none
  let (_, root) ← Entries.within change path.dropLast root
  some ⟨root, path, true, []⟩

def addPair (d : Draft) (key : List String) (value : Value) : Option Draft := do
  some { d with entries := ← d.entries.addDotted key (.leaf value) }

end Draft

/-- One header or one pair, with the line it stands on. -/
def readExpression (d : Draft) : Reader Draft
  | '[' :: '[' :: cs => do
    let (path, cs) ← readKey cs
    let cs ← readChar ']' cs
    let cs ← readChar ']' cs
    let cs ← readLineEnd cs
    some (← d.openElement path, cs)
  | '[' :: cs => do
    let (path, cs) ← readKey cs
    let cs ← readChar ']' cs
    let cs ← readLineEnd cs
    some (← d.openTable path, cs)
  | cs => do
    let ((key, value), cs) ← readPair (readValue (nestingLimit - 1)) cs
    let cs ← readLineEnd cs
    some (← d.addPair key value, cs)

/-- Reads to the end, or to the text that cannot be read. -/
def readExpressions : Nat → Draft → List Char → Except (List Char) Draft
  | 0, _, cs => .error cs
  | fuel + 1, d, cs =>
    match skipTrivia cs.length cs with
    | [] => .ok d
    | rest =>
      match readExpression d rest with
      | some (d, rest) => readExpressions fuel d rest
      | none => .error rest

/-- Why a text is no document: the line, counted from one, that breaks the rules. -/
structure Fault where
  line : Nat
  deriving DecidableEq, Repr

def Fault.message (f : Fault) : String := "TOML parse error at line " ++ toString f.line

/-- The table that a document stands for. A byte order mark may lead. -/
def parse (text : String) : Except Fault Table :=
  let cs := text.toList
  let body := match cs with
    | '\uFEFF' :: rest => rest
    | _ => cs
  let fault (rest : List Char) : Fault :=
    ⟨(body.take (body.length - rest.length)).count '\n' + 1⟩
  match readExpressions (body.length + 1) .start body with
  | .error rest => .error (fault rest)
  | .ok d =>
    match d.close with
    | none => .error (fault [])
    | some entries => .ok (entriesToTable entries)

end PluginHost.Toml
