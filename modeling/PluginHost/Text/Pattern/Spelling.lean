import PluginHost.Text.Pattern.Encoding
import PluginHost.Text.Pattern.Normal

namespace PluginHost.Text.Pattern

/-- The bytes that a match begins with, and whether they are all of it. -/
structure Spelling where
  bytes : List Nat
  isWhole : Bool
  deriving DecidableEq, Repr

/-- What matches begin with, those that are preferred first; nothing is told where there are too many. -/
abbrev Spellings := Option (List Spelling)

namespace Spelling

/-- So many bytes at most. -/
def cut (n : Nat) (s : Spelling) : Spelling := if s.bytes.length ≤ n then s else ⟨s.bytes.take n, false⟩

def partly (s : Spelling) : Spelling := { s with isWhole := false }

/-- Neighbours with the same bytes as one, which is whole if both are. -/
def merged : List Spelling → List Spelling
  | [] => []
  | s :: rest =>
    match merged rest with
    | t :: more => if s.bytes = t.bytes then ⟨s.bytes, s.isWhole && t.isWhole⟩ :: more else s :: t :: more
    | [] => [s]

/-- A text more, unless it begins with one of those that are kept. -/
def keep (kept : List Spelling) (s : Spelling) : List Spelling :=
  if kept.any (·.bytes.isPrefixOf s.bytes) then kept else kept ++ [s]

/-- The texts that begin with none of those before them. -/
def shortest (list : List Spelling) : List Spelling := list.foldl keep []

/-- What two texts begin with. -/
def common : List Nat → List Nat → List Nat
  | a :: as, b :: bs => if a = b then a :: common as bs else []
  | _, _ => []

/-- What all of some texts begin with. -/
def commonStart : List Spelling → List Nat
  | [] => []
  | s :: rest => rest.foldl (fun start t => common start t.bytes) s.bytes

end Spelling

namespace Spellings

open Spelling

/-- How many texts are told at most. -/
def most : Nat := 250

/-- How many bytes of a text are told at most. -/
def longest : Nat := 100

/-- How many characters of a set are told, and how many matches in a row. -/
def widest : Nat := 10

/-- Nothing more than an end. -/
def nothing : Spellings := some [⟨[], true⟩]

/-- Whether no text can be continued, since none is the whole of a match. -/
def isClosed (a : Spellings) : Bool := a.all fun list => list.all (!·.isWhole)

def partly (a : Spellings) : Spellings := a.map (·.map Spelling.partly)

/-- One or the other. If there are too many, the texts are told by four bytes. -/
def or (a b : Spellings) : Spellings := do
  let a ← a
  let b ← b
  if a.length + b.length ≤ most then return merged (a ++ b)
  let a := merged (a.map (cut 4))
  let b := merged (b.map (cut 4))
  if a.length + b.length ≤ most then return merged (a ++ b)
  none

/-- One after the other. Where nothing is told of what follows, a text goes on in some way. -/
def andThen (a b : Spellings) : Spellings := do
  let a ← a
  let continued ← match b with
    | none => if a.any (·.bytes = []) then none else some (a.map Spelling.partly)
    | some b =>
      if most < a.length * b.length then
        if a.any (·.bytes = []) then none else some (a.map Spelling.partly)
      else
        let goOn (s : Spelling) : List Spelling := b.map fun t => ⟨s.bytes ++ t.bytes, t.isWhole⟩
        some (merged (a.flatMap fun s => if s.isWhole then goOn s else [s]))
  return continued.map (cut longest)

/-- One after the other, as long as a text can be continued. -/
def extend (a b : Spellings) : Spellings := if a.isClosed then a else a.andThen b

/-- The characters of a set. -/
def ofSet (set : CharSet) : Spellings :=
  if widest < set.ranges.foldl (fun n (low, high) => n + (high - low + 1)) 0 then none
  else some (set.ranges.flatMap fun (low, high) =>
    (List.range (high - low + 1)).map fun i => ⟨codeBytes (low + i), true⟩)

/-- So many matches in a row. -/
def times (a : Spellings) : Nat → Spellings → Spellings
  | 0, read => read
  | n + 1, read => times a n (read.extend a)

def repeated (a : Spellings) (least : Nat) (most : Option Nat) (greedy : Bool) : Spellings :=
  if least = 0 then
    let a := if most = some 1 then a else a.partly
    if greedy then a.or nothing else nothing.or a
  else
    let read := times a (min least widest) nothing
    if most = some least ∧ least ≤ widest then read else read.partly

end Spellings

/-- The parts of a pattern that is spelled part by part. -/
inductive Spelled where
  | one (a : Spellings)
  | row (parts : List Spellings)
  | choice (parts : List Spellings)

namespace Spelled

def all : Spelled → Spellings
  | one a => a
  | row parts => parts.foldl Spellings.extend .nothing
  | choice parts => parts.foldl Spellings.or (some [])

def parts : Spelled → List Spellings
  | row parts => parts
  | a => [a.all]

def choices : Spelled → List Spellings
  | choice parts => parts
  | a => [a.all]

end Spelled

/-- What matches begin with, part by part. -/
def spelled : Pattern → Spelled
  | empty | edge _ => .one .nothing
  | literal cs => .one (some [Spelling.cut Spellings.longest ⟨literalBytes cs, true⟩])
  | one set _ => .one (.ofSet set)
  | group _ p => .one p.spelled.all
  | repeated p least most greedy => .one (p.spelled.all.repeated least most greedy)
  | andThen p q => .row (p.spelled.all :: q.spelled.parts)
  | orElse p q => .choice (p.spelled.all :: q.spelled.choices)

/-- Whether a pattern is about characters alone, without groups that are kept and without edges. -/
def isPlain : Pattern → Bool
  | edge _ | group .. => false
  | empty | literal _ | one _ _ => true
  | repeated p _ _ _ => p.isPlain
  | andThen p q | orElse p q => p.isPlain && q.isPlain

/-- ASCII characters that are seen so often that a text is better looked for by more than such a first. -/
def oftenSeen : List Nat := "\n\r (),-./0129:_abcdefghilmnoprstuvxy|".toList.map Char.toNat

/-- Whether the first byte of texts tells little of them, being seen often. -/
def isCommon (byte : Nat) : Bool := 0x80 ≤ byte || oftenSeen.contains byte

/-- Texts by fewer bytes each as long as they are more than some number. -/
def shortened : List (Nat × Nat) → List Spelling → List Spelling
  | [], list => list
  | (bytes, number) :: more, list =>
    if list.length ≤ number then list
    else shortened more (Spelling.shortest (list.map (Spelling.cut bytes)))

/--
Whether matches are found by looking for texts alone: each text is the whole of a match, and they are not
rather looked for by a beginning that all of them share, or each by its first bytes, to have fewer of them.
-/
def areLookedFor (texts : List Spelling) : Bool :=
  let list := Spelling.shortest texts
  let start := Spelling.commonStart list
  let wholes (list : List Spelling) : Bool := list.all (·.isWhole)
  if texts.any (·.bytes = []) then false
  else if 1 < texts.length ∧ 1 ≤ start.length ∧ start.length ≤ 3 ∧ !start.head?.any isCommon then
    wholes (list.map (Spelling.cut 1))
  else
    let isFew := wholes list && list.length ≤ 16
    let byStart := 4 < start.length || (1 < start.length && !isFew)
    let list := if byStart then Spelling.merged (list.map (Spelling.cut start.length)) else list
    let fewer := shortened [(5, 10), (4, 10), (3, 64), (2, 64), (1, 10)] list
    let isBetter := fewer.all (2 < ·.bytes.length) && fewer.length ≤ 64
    wholes list && !list.isEmpty && (!isBetter || wholes fewer)

/-- Whether matches of a pattern are found without a machine. -/
def isLookedFor (p : Pattern) : Bool :=
  p.isPlain && p.spelled.all.any fun texts => areLookedFor (Spelling.merged texts)

end PluginHost.Text.Pattern
