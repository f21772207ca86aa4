import PluginHost.Text.CharSet

namespace PluginHost.Text

/-- How a word has to lie around a position. -/
inductive WordEdge where
  | edge | inner | start | stop
  /-- no word comes before -/
  | fresh
  /-- no word goes on -/
  | closed
  deriving DecidableEq, Repr

/-- Whether the edge is between a character of a word or none, and a character of a word or none. -/
def WordEdge.holds (e : WordEdge) (before after : Bool) : Bool :=
  match e with
  | edge => before != after
  | inner => before == after
  | start => !before && after
  | stop => before && !after
  | fresh => !before
  | closed => !after

/--
A condition on the characters around a position. Lines may end at carriage returns too. Words are those of
ASCII, or those of all characters, of which no more is known than of ASCII.
-/
inductive Edge where
  | textStart
  | textEnd
  | lineStart (returns : Bool)
  | lineEnd (returns : Bool)
  | word (e : WordEdge) (ascii : Bool)
  deriving DecidableEq, Repr

/-- The characters of words: ASCII letters, digits and the underscore. -/
def isWordChar (c : Char) : Bool := c.isAlphanum || c = '_'

def Edge.holds (e : Edge) (before after : Option Char) : Bool :=
  match e with
  | textStart => before.isNone
  | textEnd => after.isNone
  | lineStart returns =>
    before.isNone || before = some '\n' || (returns && before = some '\r' && after ≠ some '\n')
  | lineEnd returns =>
    if returns then after.isNone || after = some '\r' || (after = some '\n' && before ≠ some '\r')
    else after.isNone || after = some '\n'
  | word e _ => e.holds (before.any isWordChar) (after.any isWordChar)

/--
A pattern. Patterns that occur in the same texts may differ in their groups, in the greed of repetitions and in
whether a set was written for bytes.
-/
inductive Pattern where
  | empty
  | literal (text : List Char)
  | one (set : CharSet) (bytes : Bool)
  | edge (e : Edge)
  | group (number : Nat) (p : Pattern)
  /-- at least so many matches in a row, and at most so many if there is a bound -/
  | repeated (p : Pattern) (least : Nat) (most : Option Nat) (greedy : Bool)
  | andThen (p q : Pattern)
  | orElse (p q : Pattern)
  deriving DecidableEq, Repr

namespace Pattern

/-- The members of two ascending lists in one. -/
def union : List Nat → List Nat → List Nat
  | [], t => t
  | s, [] => s
  | a :: s, b :: t =>
    if a < b then a :: union s (b :: t)
    else if b < a then b :: union (a :: s) t
    else a :: union s t
  termination_by s t => s.length + t.length

/-- So many steps from a set of positions, fewer where a step changes nothing. -/
def steps (step : List Nat → List Nat) : Nat → List Nat → List Nat
  | 0, s => s
  | n + 1, s => if step s = s then s else steps step n (step s)

/-- The positions that at most so many steps lead to. -/
def reach (step : List Nat → List Nat) : Nat → List Nat → List Nat
  | 0, s => s
  | n + 1, s =>
    let wider := union s (step s)
    if wider = s then s else reach step n wider

/-- The positions after one character of a kind. -/
def advance (text : Array Char) (p : Char → Bool) (s : List Nat) : List Nat :=
  (s.filter fun i => text[i]?.any p).map (· + 1)

/-- The positions after some characters. -/
def spell (text : Array Char) (cs : List Char) (s : List Nat) : List Nat :=
  cs.foldl (fun s c => advance text (· == c) s) s

/--
Where a match can end that begins at one of some positions of a text, both in ascending order. No match
moves back, so after as many steps as the text is long a repetition finds nothing new.
-/
def ends (text : Array Char) : Pattern → List Nat → List Nat
  | empty, s => s
  | literal cs, s => spell text cs s
  | one set _, s => advance text set.has s
  | edge e, s => s.filter fun i => e.holds (if i = 0 then none else text[i - 1]?) text[i]?
  | group _ p, s => p.ends text s
  | repeated p least most _, s =>
    let enough := text.size + 1
    let further := most.elim enough fun most => min enough (most - least)
    reach (p.ends text) further (steps (p.ends text) (min enough least) s)
  | andThen p q, s => q.ends text (p.ends text s)
  | orElse p q, s => union (p.ends text s) (q.ends text s)

/-- Whether a match begins anywhere in a text. -/
def occursIn (p : Pattern) (s : String) : Bool :=
  let text := s.toList.toArray
  !(p.ends text (List.range (text.size + 1))).isEmpty

end Pattern

end PluginHost.Text
