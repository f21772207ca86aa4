import PluginHost.Text.Pattern.Normal
import PluginHost.Text.Pattern.Tree

namespace PluginHost.Text.Pattern

/-- A set that is being gathered, and whether it is known to hold both cases of its letters. -/
structure Gathered where
  set : CharSet
  folded : Bool
  deriving DecidableEq, Repr

namespace Gathered

def nothing : Gathered := ⟨.nothing, true⟩

def add (g : Gathered) (low high : Char) : Gathered :=
  ⟨g.set.union ⟨[(low.toNat, high.toNat)]⟩, false⟩

def union (a b : Gathered) : Gathered :=
  if b.set = .nothing ∨ a.set = b.set then a else ⟨a.set.union b.set, a.folded && b.folded⟩

def inter (a b : Gathered) : Gathered :=
  if a.set = .nothing then a
  else if b.set = .nothing then nothing
  else ⟨a.set.inter b.set, a.folded && b.folded⟩

def minus (a b : Gathered) : Gathered :=
  if a.set = .nothing ∨ b.set = .nothing then a else ⟨a.set.minus b.set, a.folded && b.folded⟩

/-- All other characters. They hold both cases if the set does, and all characters do. -/
def except (a : Gathered) : Gathered := ⟨a.set.except, a.folded || a.set = .nothing⟩

def apply (o : SetOperator) (a b : Gathered) : Gathered :=
  match o with
  | .both => a.inter b
  | .minus => a.minus b
  | .onlyOne => (a.union b).minus (a.inter b)

end Gathered

def fault {α : Type} (mistake : Mistake) (span : Span) : Except Report α := .error ⟨mistake, [span]⟩

/-- A set with the other cases of its characters, where the flags ask for it. -/
def fold (f : Flags) (g : Gathered) (span : Span) : Except Report Gathered :=
  if !f.anyCase || g.folded then .ok g
  else if g.set = .nothing then .ok .nothing
  else if f.unicode then fault .caseUnknown span
  else .ok ⟨g.set.withBothCases, true⟩

/-- A set as it is meant at the end of its brackets. -/
def foldAndNegate (f : Flags) (g : Gathered) (negated : Bool) (span : Span) : Except Report Gathered := do
  let g ← fold f g span
  let g := if negated then g.except else g
  if !f.unicode && !g.set.isAscii then fault .notText span
  return g

/-- The ranges of a class by its letter. -/
def letterRanges (letter : Char) : List CodeRange :=
  match letter.toLower with
  | 'd' => [(0x30, 0x39)]
  | 's' => [(0x09, 0x0D), (0x20, 0x20)]
  | _ => [(0x30, 0x39), (0x41, 0x5A), (0x5F, 0x5F), (0x61, 0x7A)]

/-- The name of a property without what does not count in it. -/
def plainName (name : String) : String :=
  let cs := name.toList
  let marked := (cs.take 2).map Char.toLower = ['i', 's']
  let kept := (if marked then cs.drop 2 else cs).filter fun c => c.toNat < 0x80 && !" _-".toList.contains c
  let plain := String.ofList (kept.map Char.toLower)
  if marked && plain = "c" then "isc" else plain

/-- A class by its name. No property is known, and some names are taken for values of one. -/
def namedClass (f : Flags) (name : ClassName) (span : Span) : Except Report Gathered :=
  match name with
  | .letter letter =>
    if f.unicode then fault .classUnknown span
    else if letter.isUpper then fault .notText span
    else .ok ⟨.ofRanges (letterRanges letter), false⟩
  | .property name =>
    if !f.unicode then fault .propertyMisplaced span
    else if ["cf", "sc", "lc"].contains (plainName name) then fault .propertyValueUnknown span
    else fault .propertyUnknown span
  | .value _ => fault (if f.unicode then .propertyUnknown else .propertyMisplaced) span

/-- The character of a literal. A byte beyond ASCII is none. -/
def Literal.meaning (l : Literal) (f : Flags) : Except Report Char :=
  if !f.unicode && l.isByte && 0x80 ≤ l.char.toNat then fault .notText l.span else .ok l.char

/-- The character of a literal within brackets. -/
def Literal.member (l : Literal) (f : Flags) : Except Report Char := do
  let c ← l.meaning f
  if !f.unicode && 0x80 ≤ c.toNat then fault .propertyMisplaced l.span
  return c

mutual

/-- What has been gathered, together with what is written. -/
def SetTree.gather (f : Flags) (read : Gathered) : SetTree → Except Report Gathered
  | .nothing _ => .ok read
  | .literal l => do
    let c ← l.member f
    return read.add c c
  | .range low high _ => do
    let low ← low.member f
    let high ← high.member f
    return read.add low high
  | .ascii ranges negated span => do
    return read.union (← foldAndNegate f ⟨.ofRanges ranges, false⟩ negated span)
  | .named name span => do return read.union (← namedClass f name span)
  | .brackets negated inner span => do
    let inner ← inner.gather f .nothing
    return read.union (← foldAndNegate f inner negated span)
  | .members list _ => SetTree.gatherAll f read list
  | .operation o a b _ => do
    let first ← a.gather f .nothing
    let second ← b.gather f .nothing
    let second ← fold f second b.span
    let first ← fold f first a.span
    return read.union (.apply o first second)

def SetTree.gatherAll (f : Flags) (read : Gathered) : List SetTree → Except Report Gathered
  | [] => .ok read
  | t :: rest => do SetTree.gatherAll f (← t.gather f read) rest

end

/-- A literal as a pattern, in both cases where the flags ask for it. -/
def literalPattern (l : Literal) (f : Flags) : Except Report Pattern := do
  let c ← l.meaning f
  if !f.anyCase then return .literal [c]
  else if f.unicode then fault .caseUnknown l.span
  else if c.isAlpha then return .ofSet (CharSet.withBothCases (.single c)) true
  else return .literal [c]

mutual

def Tree.meaning : Tree → Except Report Pattern
  | .empty _ | .flags _ => .ok .empty
  | .literal l f => literalPattern l f
  | .dot f span =>
    if !f.unicode then fault .notText span
    else
      let lineEnds := if f.returns then [(0x0A, 0x0A), (0x0D, 0x0D)] else [(0x0A, 0x0A)]
      .ok (.ofSet (CharSet.except ⟨if f.dotTakesAll then [] else lineEnds⟩) false)
  | .edge e _ => .ok (.edge e)
  | .named name f span => do return .ofSet (← namedClass f name span).set !f.unicode
  | .brackets negated inner f span => do
    let inner ← inner.gather f .nothing
    return .ofSet (← foldAndNegate f inner negated span).set !f.unicode
  | .repeated t least most greedy _ => do return (← t.meaning).many least most greedy
  | .group none t _ => t.meaning
  | .group (some number) t _ => do return .group number (← t.meaning)
  | .row list _ => do return .concat (← Tree.meanings list)
  | .choice list _ => do return .alternation (← Tree.meanings list)

def Tree.meanings : List Tree → Except Report (List Pattern)
  | [] => .ok []
  | t :: rest => do
    let p ← t.meaning
    return p :: (← Tree.meanings rest)

end

end PluginHost.Text.Pattern
