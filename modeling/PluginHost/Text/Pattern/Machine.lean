import PluginHost.Text.Pattern.Encoding
import PluginHost.Text.Pattern.Normal
import PluginHost.Text.Pattern.Shelf

namespace PluginHost.Text.Pattern

/-- What has been built of a machine. Nodes are numbered as they are built, and their numbers decide which nodes
that read the same are found again. -/
structure Machine where
  nodes : Nat := 0
  /-- the ranges of bytes that the nodes read, where they read one of several -/
  ranges : Nat := 0
  /-- the ways on from forks -/
  ways : Nat := 0
  /-- whether the part that was built last ends in a fork -/
  atFork : Bool := false
  deriving DecidableEq, Repr

namespace Machine

/-- The bytes of all nodes with their ranges and ways. -/
def bytes (m : Machine) : Nat := 32 * m.nodes + 8 * m.ranges + 4 * m.ways

/-- What a machine may take: ten mebibytes. -/
def sizeLimit : Nat := 10 * 1024 * 1024

def isTooLarge (m : Machine) : Bool := sizeLimit < m.bytes

/-- One more node. -/
def node (m : Machine) : Machine := { m with nodes := m.nodes + 1, atFork := false }

/-- One more node, which reads a byte of some ranges. -/
def reading (ranges : Nat) (m : Machine) : Machine := { m.node with ranges := m.ranges + ranges }

/-- Ways on from forks. -/
def branch (ways : Nat) (m : Machine) : Machine := { m with ways := m.ways + ways }

/-- The way on from the end of the last part. It takes room at a fork. -/
def link (m : Machine) : Machine := if m.atFork then m.branch 1 else m

/-- The last part ends in a fork. -/
def toFork (m : Machine) : Machine := { m with atFork := true }

/-- The last part ends in a node that was built before. -/
def toNode (m : Machine) : Machine := { m with atFork := false }

end Machine

/-- Something that is built into a machine. -/
abbrev Build := Machine → Machine

namespace Build

/-- One after the other. -/
def andThen (a b : Build) : Build := fun m => b (a m).link

/-- The same so many times. A machine that is too large stays as it is. -/
def again (a : Build) : Nat → Build
  | 0, m => m
  | n + 1, m => if m.isTooLarge then m else again a n (a m)

/-- The same so many times in a row. -/
def times (a : Build) : Nat → Build
  | 0 => Machine.node
  | n + 1 => fun m => again (fun m => a m.link) n (a m)

/-- A part that may be left out. -/
def optional (a : Build) : Build := fun m => ((a m.node).link.branch 2).node

/-- Any number of matches of a part. A part that always takes a character needs a fork alone. -/
def star (a : Build) (takes : Bool) : Build := fun m =>
  if takes then ((a m.node).link.branch 1).toFork else ((a m).link.branch 4).node.node.node

/-- At least so many matches. -/
def atLeast (a : Build) (takes : Bool) : Nat → Build
  | 0 => a.star takes
  | n + 1 => fun m =>
    let before := if n = 0 then m else (a.times n m).link
    ((a before).link.branch 1).node.toFork

/-- Between so many and so many matches. -/
def between (a : Build) (least most : Nat) : Build := fun m =>
  (again (fun m => (a m.node).link.branch 2) (most - least) (a.times least m).link.node).toNode

/-- A choice between parts. The fork and its end are built after the first two. -/
def choose : List Build → Build
  | first :: second :: rest => fun m =>
    let add (m : Machine) (a : Build) := (a m).link.branch 1
    (rest.foldl add (add (add m first) second).node.node).toNode
  | [only] => only
  | [] => Machine.node

end Build

/-- The words between those that are empty. -/
def segments : List (List Nat) → List (List (List Nat))
  | [] => [[]]
  | word :: rest =>
    match word, segments rest with
    | [], found => [] :: found
    | _, segment :: found => (word :: segment) :: found
    | _, [] => [[word]]

/-- How often words end in a place. Those that end before any goes on count once. -/
def endings (words : List (List Nat)) : Nat := words.count [] - ((words.takeWhile (· = [])).length - 1)

/-- Words by their first byte: what follows it in the words. -/
def byFirst (words : List (List Nat)) : List (List (List Nat)) :=
  (words.filterMap List.head?).eraseDups.map fun first =>
    words.filterMap fun word => if word.head? = some first then some word.tail else none

/-- The nodes that read one of some words. After a word that ends, others have nodes of their own. -/
def readWords : Nat → List (List Nat) → Build
  | 0, _, m => m
  | fuel + 1, words, m =>
    let readSegment (m : Machine) (segment : List (List Nat)) : Machine :=
      let branches := byFirst segment
      let own := match branches.length with
        | 0 => m
        | 1 => m.node.branch 1
        | n => (m.reading n).branch 1
      branches.foldl (fun m rest => if rest.all (· = []) then m else readWords fuel rest m) own
    (segments words).foldl readSegment (m.node.branch (endings words))

/-- One of some words that are literals. -/
def chooseWords (words : List (List Nat)) : Build := fun m =>
  readWords (words.foldl (fun n word => max n word.length) 1) words m.node

/-- A machine and the shelf of the nodes that can be shared. -/
structure Workbench where
  machine : Machine
  shelf : Shelf

namespace Workbench

/-- The node that reads some words: one from the shelf, or a new one with so many ranges. -/
def obtain (w : Workbench) (words : List UInt64) (ranges : Nat) : Nat × Workbench :=
  match w.shelf.find? words with
  | some node => (node, w)
  | none =>
    let node := w.machine.nodes
    (node, ⟨w.machine.reading ranges, w.shelf.put words node⟩)

/-- The node that reads runs of bytes up to a last node. What is behind its ranges is built first. -/
def readRuns (last : Nat) : Nat → List (List ByteRange) → Workbench → Nat × Workbench
  | 0, _, w => (last, w)
  | fuel + 1, runs, w =>
    let branches := groups runs
    let (words, w) := branches.foldl
      (fun (words, w) ((low, high), rest) =>
        let (next, w) := if rest.all (· = []) then (last, w) else readRuns last fuel rest w
        (next.toUInt64 :: high.toUInt64 :: low.toUInt64 :: words, w))
      ([], w)
    w.obtain words.reverse branches.length

/-- The node from which a run of bytes is read backward down to a node. -/
def readBack (start : Nat) (run : List ByteRange) (w : Workbench) : Nat × Workbench :=
  run.foldl (fun (behind, w) (low, high) =>
    w.obtain [behind.toUInt64, low.toUInt64, high.toUInt64] 0) (start, w)

end Workbench

/-- One ASCII character of a set. -/
def readAscii (set : CharSet) : Build := fun m => (m.node.reading set.ranges.length).toNode

/-- One character of a set whose runs of bytes are read forward. -/
def readForward (runs : List (List ByteRange)) : Build := fun m =>
  (Workbench.readRuns m.nodes 4 runs ⟨m.node, { size := 10000 }⟩).2.machine.toNode

/-- One character of a set whose runs of bytes are read backward. Each run is a branch. -/
def readBackward (runs : List (List ByteRange)) : Build := fun m =>
  let start : Workbench := ⟨m.node.node, { size := 1000 }⟩
  let w := runs.foldl (fun w run => (Workbench.readBack (m.nodes + 1) run w).2) start
  (w.machine.branch runs.length).toNode

/-- One character of a set. -/
def readSet (backward : Bool) (set : CharSet) : Build :=
  if set.isAscii then readAscii set
  else
    let runs := setRuns set
    if backward then readBackward runs else readForward runs

/-- The least number of characters of a match, where there can be a match. -/
def least? : Pattern → Option Nat
  | empty | edge _ => some 0
  | literal cs => some cs.length
  | one set _ => if set.ranges = [] then none else some 1
  | group _ p => p.least?
  | repeated p least _ _ => p.least?.map (· * least)
  | andThen p q => do return (← p.least?) + (← q.least?)
  | orElse p q => do return min (← p.least?) (← q.least?)

/-- A part of a machine. Literals to choose between are read as one. -/
structure Part where
  build : Build
  /-- the branches of a choice; another part is the only one -/
  branches : List Build
  /-- the words of literals to choose between -/
  words? : Option (List (List Nat))

namespace Part

def ofBuild (build : Build) : Part := ⟨build, [build], none⟩

def literal (word : List Nat) : Part :=
  let build : Build := fun m => { m.node with nodes := m.nodes + word.length }
  ⟨build, [build], some [word]⟩

/-- A choice between a part and others. -/
def orElse (p q : Part) : Part :=
  let branches := p.branches ++ q.branches
  let words? := do return (← p.words?) ++ (← q.words?)
  ⟨words?.elim (Build.choose branches) chooseWords, branches, words?⟩

end Part

/-- The machine for a pattern, in one of the two directions. Groups are noted forward only. -/
def part (backward : Bool) : Pattern → Part
  | empty | edge _ => .ofBuild Machine.node
  | literal cs => .literal (if backward then (literalBytes cs).reverse else literalBytes cs)
  | one set _ => .ofBuild (readSet backward set)
  | group _ p =>
    let inner := (p.part backward).build
    .ofBuild (if backward then inner else (Build.andThen Machine.node inner).andThen Machine.node)
  | repeated p least most _ =>
    let inner := (p.part backward).build
    .ofBuild <| match most with
      | none => inner.atLeast (0 < p.least?.getD 0) least
      | some most =>
        if least = 0 ∧ most = 1 then inner.optional
        else if least = most then inner.times least
        else inner.between least most
  | andThen p q =>
    let first := (p.part backward).build
    let second := (q.part backward).build
    .ofBuild (if backward then second.andThen first else first.andThen second)
  | orElse p q => (p.part backward).orElse (q.part backward)

/-- Whether every match begins where the text does. -/
def beginsText : Pattern → Bool
  | edge .textStart => true
  | empty | literal _ | one _ _ | edge _ => false
  | group _ p => p.beginsText
  | repeated p least _ _ => 0 < least && p.beginsText
  | andThen p q => p.beginsText || (p.isWidthless && q.beginsText)
  | orElse p q => p.beginsText && q.beginsText

/-- Whether every match ends where the text does. -/
def endsText : Pattern → Bool
  | edge .textEnd => true
  | empty | literal _ | one _ _ | edge _ => false
  | group _ p => p.endsText
  | repeated p least _ _ => 0 < least && p.endsText
  | andThen p q => q.endsText || (q.isWidthless && p.endsText)
  | orElse p q => p.endsText && q.endsText

/--
The machine for a whole pattern. It passes over any bytes before a match, unless every match is at the end of
the text that it starts from, and it notes where a match begins if it reads forward.
-/
def machine (backward : Bool) (p : Pattern) : Machine :=
  let fixed := if backward then p.endsText else p.beginsText
  let lead : Build :=
    if fixed then Machine.node else Build.star (fun m => (m.node.reading 1).toNode) true
  let body := (if backward then p.part backward else (group 0 p).part backward).build
  (lead.andThen body).andThen Machine.node {}

def isTooLarge (backward : Bool) (p : Pattern) : Bool := (p.machine backward).isTooLarge

/-- Whether a pattern asks for words of all characters. -/
def asksWords : Pattern → Bool
  | edge (.word _ ascii) => !ascii
  | empty | literal _ | one _ _ | edge _ => false
  | group _ p | repeated p _ _ _ => p.asksWords
  | andThen p q | orElse p q => p.asksWords || q.asksWords

end PluginHost.Text.Pattern
