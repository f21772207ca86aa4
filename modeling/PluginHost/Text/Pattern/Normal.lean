import PluginHost.Text.Pattern.Basic

namespace PluginHost.Text.Pattern

/-- The parts of a row. -/
def row : Pattern → List Pattern
  | empty => []
  | andThen p q => p :: q.row
  | p => [p]

/-- The parts of a choice. -/
def choices : Pattern → List Pattern
  | orElse p q => p :: q.choices
  | p => [p]

/-- Parts with neighbouring literals joined. -/
def joinLiterals : List Pattern → List Pattern
  | [] => []
  | literal a :: rest =>
    match joinLiterals rest with
    | literal b :: rest => literal (a ++ b) :: rest
    | rest => literal a :: rest
  | p :: rest => p :: joinLiterals rest

def ofRow : List Pattern → Pattern
  | [] => empty
  | [p] => p
  | p :: rest => andThen p (ofRow rest)

/-- Patterns one after the other. -/
def concat (ps : List Pattern) : Pattern := ofRow (joinLiterals (ps.flatMap row))

/-- A set as a pattern. One character is a literal, and to match nothing is written for bytes. -/
def ofSet (set : CharSet) (bytes : Bool) : Pattern :=
  if set.ranges = [] then one set true
  else match set.only? with
    | some c => literal [c]
    | none => one set bytes

/-- The character of a literal of one character. -/
def char? : Pattern → Option CodeRange
  | literal [c] => some (c.toNat, c.toNat)
  | _ => none

/-- The ranges of a set. -/
def ranges? : Pattern → Option (List CodeRange)
  | one set _ => some set.ranges
  | _ => none

/-- The characters to choose from, where all parts of a choice are one character each, or all are sets. -/
def choiceSet? (ps : List Pattern) : Option CharSet :=
  ((ps.mapM char?).or ((ps.mapM ranges?).map List.flatten)).map CharSet.ofRanges

def ofChoices : List Pattern → Pattern
  | [] => one .nothing true
  | [p] => p
  | p :: rest => orElse p (ofChoices rest)

/-- What two rows begin with. -/
def commonRow : List Pattern → List Pattern → List Pattern
  | p :: ps, q :: qs => if p = q then p :: commonRow ps qs else []
  | _, _ => []

/-- What all parts of a choice begin with; only rows of several parts count. -/
def commonStart (ps : List Pattern) : List Pattern :=
  let rows := ps.map fun p => if p.row.length < 2 then [] else p.row
  match rows with
  | [] => []
  | first :: rest => rest.foldl commonRow first

/-- The number of patterns in a pattern. -/
def count : Pattern → Nat
  | group _ p | repeated p _ _ _ => p.count + 1
  | andThen p q | orElse p q => p.count + q.count + 1
  | _ => 1

/-- A choice between patterns, with so many common beginnings taken out at most. -/
def choose : Nat → List Pattern → Pattern
  | 0, ps => ofChoices ps
  | fuel + 1, ps =>
    let ps := ps.flatMap choices
    match ps with
    | [p] => p
    | _ =>
      match choiceSet? ps with
      | some set => ofSet set false
      | none =>
        let start := commonStart ps
        if start = [] then ofChoices ps
        else concat (start ++ [choose fuel (ps.map fun p => concat (p.row.drop start.length))])

/-- A choice between patterns. Every beginning that is taken out makes the patterns smaller. -/
def alternation (ps : List Pattern) : Pattern :=
  choose (ps.foldl (fun n p => n + p.count) 1) ps

/-- Whether a pattern takes no characters, whatever it matches. -/
def isWidthless : Pattern → Bool
  | empty | edge _ => true
  | literal _ | one _ _ => false
  | group _ p | repeated p _ _ _ => p.isWidthless
  | andThen p q | orElse p q => p.isWidthless && q.isWidthless

/-- So many matches in a row. Where a match takes no characters, one tells as much as many. -/
def many (p : Pattern) (least : Nat) (most : Option Nat) (greedy : Bool) : Pattern :=
  let (least, most) :=
    if p.isWidthless then (min least 1, some (most.elim 1 (min · 1))) else (least, most)
  if least = 0 ∧ most = some 0 then empty
  else if least = 1 ∧ most = some 1 then p
  else repeated p least most greedy

end PluginHost.Text.Pattern
