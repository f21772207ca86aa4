import PluginHost.Text.Pattern.Basic
import PluginHost.Text.Pattern.Fault

namespace PluginHost.Text.Pattern

/-- How a part of a pattern is taken. -/
structure Flags where
  anyCase : Bool := false
  manyLines : Bool := false
  dotTakesAll : Bool := false
  /-- carriage returns end lines too -/
  returns : Bool := false
  /-- repetitions take as few as they can, and as many where they would have taken few -/
  modest : Bool := false
  unicode : Bool := true
  /-- blanks and comments stand between the parts of the pattern -/
  spaced : Bool := false
  deriving DecidableEq, Repr

/-- A flag by its letter, set or taken back. -/
def Flags.withLetter? (f : Flags) (letter : Char) (value : Bool) : Option Flags :=
  match letter with
  | 'i' => some { f with anyCase := value }
  | 'm' => some { f with manyLines := value }
  | 's' => some { f with dotTakesAll := value }
  | 'R' => some { f with returns := value }
  | 'U' => some { f with modest := value }
  | 'u' => some { f with unicode := value }
  | 'x' => some { f with spaced := value }
  | _ => none

/-- A character that stands for itself, and whether it was written as a byte of two digits. -/
structure Literal where
  char : Char
  isByte : Bool
  span : Span
  deriving DecidableEq, Repr

/-- A class of characters after a backslash. -/
inductive ClassName where
  | letter (c : Char)
  | property (name : String)
  /-- a property that has values -/
  | value (text : String)
  deriving DecidableEq, Repr

/-- How two sets stand together within brackets. -/
inductive SetOperator where
  | both | minus | onlyOne
  deriving DecidableEq, Repr

/-- What is written within brackets. -/
inductive SetTree where
  | nothing (span : Span)
  | literal (l : Literal)
  | range (low high : Literal) (span : Span)
  | ascii (ranges : List CodeRange) (negated : Bool) (span : Span)
  | named (name : ClassName) (span : Span)
  | brackets (negated : Bool) (inner : SetTree) (span : Span)
  | members (list : List SetTree) (span : Span)
  | operation (o : SetOperator) (a b : SetTree) (span : Span)

namespace SetTree

def span : SetTree → Span
  | nothing span | range _ _ span | ascii _ _ span | named _ span | brackets _ _ span | members _ span
  | operation _ _ _ span => span
  | literal l => l.span

/-- Members read one after the other, the last first. One alone stands for itself. -/
def ofMembers (read : List SetTree) (start : Nat) : SetTree :=
  match read with
  | [] => nothing ⟨start, start⟩
  | [t] => t
  | last :: _ => members read.reverse ⟨(read.getLast?.getD last).span.start, last.span.stop⟩

end SetTree

inductive Tree where
  | empty (span : Span)
  /-- flags for what follows -/
  | flags (span : Span)
  | literal (l : Literal) (f : Flags)
  | dot (f : Flags) (span : Span)
  | edge (e : Edge) (span : Span)
  | named (name : ClassName) (f : Flags) (span : Span)
  | brackets (negated : Bool) (inner : SetTree) (f : Flags) (span : Span)
  | repeated (t : Tree) (least : Nat) (most : Option Nat) (greedy : Bool) (span : Span)
  | group (number : Option Nat) (t : Tree) (span : Span)
  | row (list : List Tree) (span : Span)
  | choice (list : List Tree) (span : Span)

namespace Tree

def span : Tree → Span
  | empty span | flags span | dot _ span | edge _ span | named _ _ span | brackets _ _ _ span
  | repeated _ _ _ _ span | group _ _ span | row _ span | choice _ span => span
  | literal l _ => l.span

/-- Parts read one after the other, the last first. One alone stands for itself. -/
def ofParts (read : List Tree) (span : Span) : Tree :=
  match read with
  | [] => empty span
  | [t] => t
  | _ => row read.reverse span

end Tree

mutual

/-- Where a set is nested deeper than so many levels. -/
def SetTree.tooDeep? : Nat → SetTree → Option Span
  | limit, t =>
    match t, limit with
    | .nothing _, _ | .literal _, _ | .range .., _ | .ascii .., _ | .named .., _ => none
    | .brackets _ _ span, 0 | .members _ span, 0 | .operation _ _ _ span, 0 => some span
    | .brackets _ inner _, limit + 1 => SetTree.tooDeep? limit inner
    | .members list _, limit + 1 => SetTree.anyTooDeep? limit list
    | .operation _ a b _, limit + 1 => (SetTree.tooDeep? limit a).or (SetTree.tooDeep? limit b)

def SetTree.anyTooDeep? : Nat → List SetTree → Option Span
  | _, [] => none
  | limit, t :: rest => (SetTree.tooDeep? limit t).or (SetTree.anyTooDeep? limit rest)

end

mutual

/-- Where a pattern is nested deeper than so many levels. -/
def Tree.tooDeep? : Nat → Tree → Option Span
  | limit, t =>
    match t, limit with
    | .empty _, _ | .flags _, _ | .literal .., _ | .dot .., _ | .edge .., _ | .named .., _ => none
    | .brackets _ _ _ span, 0 | .repeated _ _ _ _ span, 0 | .group _ _ span, 0 | .row _ span, 0
    | .choice _ span, 0 => some span
    | .brackets _ inner _ _, limit + 1 => inner.tooDeep? limit
    | .repeated t _ _ _ _, limit + 1 | .group _ t _, limit + 1 => Tree.tooDeep? limit t
    | .row list _, limit + 1 | .choice list _, limit + 1 => Tree.anyTooDeep? limit list

def Tree.anyTooDeep? : Nat → List Tree → Option Span
  | _, [] => none
  | limit, t :: rest => (Tree.tooDeep? limit t).or (Tree.anyTooDeep? limit rest)

end

end PluginHost.Text.Pattern
