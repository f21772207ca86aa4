import PluginHost.Text.Hex
import PluginHost.Text.Letter
import PluginHost.Text.Pattern.Tree

namespace PluginHost.Text.Pattern

namespace Reader

/-- What is left of the text of a pattern, and what came before matters to it. -/
structure Source where
  rest : List Char
  index : Nat := 0
  flags : Flags := {}
  names : List (List Char × Span) := []
  /-- how many groups with numbers have begun -/
  groups : Nat := 0
  deriving DecidableEq, Repr

abbrev Read (α : Type) := StateT Source (Except Report) α

def failAt {α : Type} (mistake : Mistake) (start stop : Nat) : Read α :=
  throw ⟨mistake, [⟨start, stop⟩]⟩

def index : Read Nat := return (← get).index

def flags : Read Flags := return (← get).flags

def setFlags (f : Flags) : Read Unit := modify fun s => { s with flags := f }

/-- The next character. -/
def next : Read (Option Char) := return (← get).rest.head?

/-- Goes on by some characters. -/
def skip (n : Nat) : Read Unit :=
  modify fun s => { s with rest := s.rest.drop n, index := s.index + min n s.rest.length }

/-- Goes over a text if it comes next, and tells whether it did. -/
def skipText (text : String) : Read Bool := do
  let found := text.toList.isPrefixOf (← get).rest
  if found then skip text.length
  return found

/-- What follows blanks, and comments up to the ends of their lines. -/
def afterBlanks (inComment : Bool) : List Char → List Char
  | [] => []
  | c :: rest =>
    if inComment then afterBlanks (c ≠ '\n') rest
    else if isBlank c then afterBlanks false rest
    else if c = '#' then afterBlanks true rest
    else c :: rest

/-- Goes over blanks and comments, where they may stand between parts. -/
def skipBlanks : Read Unit := do
  if (← flags).spaced then
    let rest := (← get).rest
    skip (rest.length - (afterBlanks false rest).length)

/-- Goes on to the next character of the next part. -/
def advance : Read (Option Char) := do
  skip 1
  skipBlanks
  next

def skipWhile (p : Char → Bool) : Read Unit := do skip ((← get).rest.takeWhile p).length

/-- Characters of a kind, with what may stand between parts. -/
def characters (p : Char → Bool) : Nat → Read (List Char)
  | 0 => return []
  | fuel + 1 => do
    match ← next with
    | none => return []
    | some c =>
      if p c then
        let _ ← advance
        return c :: (← characters p fuel)
      else return []

/-- A decimal number, or what is wrong with it. -/
def decimal : Read (Except Report Nat) := do
  skipWhile isBlank
  let start ← index
  let digits ← characters Char.isDigit (← get).rest.length
  let span : Span := ⟨start, ← index⟩
  skipWhile isBlank
  let n := inBase 10 digits
  if digits = [] then return .error ⟨.countMissing, [span]⟩
  else if UInt32.size ≤ n then return .error ⟨.countTooLarge, [span]⟩
  else return .ok n

/-- The bounds of a repetition, in braces, and whether a question mark follows. -/
def bounds : Read (Nat × Option Nat × Bool) := do
  let start ← index
  if (← advance).isNone then failAt .countUnclosed start (← index)
  let first ← decimal
  let bounds ← match ← next with
    | none => failAt .countUnclosed start (← index)
    | some ',' =>
      match ← advance with
      | none => failAt .countUnclosed start (← index)
      | some '\x7d' =>
        let least ← liftExcept first
        pure (least, none)
      | some _ =>
        let least ← liftExcept first
        let most ← liftExcept (← decimal)
        pure (least, some most)
    | some _ =>
      let count ← liftExcept first
      pure (count, some count)
  if (← next) ≠ some '\x7d' then failAt .countUnclosed start (← index)
  let modest := (← advance) = some '?'
  if modest then skip 1
  if bounds.2.any (· < bounds.1) then failAt .countOrder start (← index)
  return (bounds.1, bounds.2, modest)
where
  liftExcept {α : Type} : Except Report α → Read α
    | .ok a => return a
    | .error report => throw report

/-- A part that stands for one character or for none. -/
inductive Atom where
  | literal (c : Char) (isByte : Bool)
  | named (name : ClassName)
  | edge (e : Edge)
  deriving DecidableEq, Repr

/-- The character of hexadecimal digits. -/
def character (digits : List Char) (isByte : Bool) (start stop : Nat) : Read Atom :=
  let n := inBase 16 digits
  if n.isValidChar then return .literal (Char.ofNat n) isByte else failAt .noCharacter start stop

def isHex (c : Char) : Bool := (hexValue? c).isSome

/-- So many hexadecimal digits, of which the first comes next. -/
def hexDigits : Nat → Read (List Char)
  | 0 => return []
  | count + 1 => do
    match ← next with
    | none => failAt .escapeUnfinished (← index) (← index)
    | some c =>
      if isHex c then
        let _ ← advance
        return c :: (← hexDigits count)
      else failAt .digitInvalid (← index) ((← index) + 1)

/-- A character by its number, after a letter that tells how many digits it has. -/
def readNumbered (letter : Char) : Read Atom := do
  match ← advance with
  | some '\x7b' =>
    let brace ← index
    let _ ← advance
    let digits ← characters isHex (← get).rest.length
    match ← next with
    | none => failAt .escapeUnfinished brace (← index)
    | some '\x7d' =>
      let stop ← index
      let _ ← advance
      if digits = [] then failAt .digitsMissing brace (← index)
      character digits false (brace + 1) stop
    | some _ => failAt .digitInvalid (← index) ((← index) + 1)
  | _ =>
    let start ← index
    let digits ← hexDigits (if letter = 'x' then 2 else if letter = 'u' then 4 else 8)
    character digits (letter = 'x') start (← index)

/-- A property by its name, after which a sign leads to a value if it has values. -/
def property (name : String) : ClassName :=
  let cs := name.toList
  let unequal := (cs.zip cs.tail).contains ('!', '=')
  if unequal || cs.contains ':' || cs.contains '=' then .value name else .property name

/-- A class of characters by a property, of one letter or in braces. -/
def readProperty : Read Atom := do
  match ← advance with
  | none => failAt .escapeUnfinished (← index) (← index)
  | some '\x7b' =>
    let _ ← advance
    let name ← characters (· ≠ '\x7d') (← get).rest.length
    if (← next).isNone then failAt .escapeUnfinished (← index) (← index)
    skip 1
    return .named (property (String.ofList name))
  | some '\\' => failAt .propertyInvalid (← index) ((← index) + 1)
  | some c =>
    let _ ← advance
    return .named (.property (String.singleton c))

/-- An edge of a word. -/
def wordEdge (e : WordEdge) : Read Atom := return .edge (.word e !(← flags).unicode)

def isEdgeLetter (c : Char) : Bool := c.isAlpha || c = '-'

/-- The edge of a word, whose kind may be named in braces. Other braces are left for a repetition. -/
def readWordEdge (start : Nat) : Read Atom := do
  if (← next) ≠ some '\x7b' then return ← wordEdge .edge
  let before ← get
  let opened ← index
  match ← advance with
  | none => failAt .wordEdgeUnfinished start (← index)
  | some c =>
    if !isEdgeLetter c then
      set before
      return ← wordEdge .edge
    let named ← index
    let name ← characters isEdgeLetter (← get).rest.length
    if (← next) ≠ some '\x7d' then failAt .wordEdgeUnclosed opened (← index)
    let stop ← index
    skip 1
    match String.ofList name with
    | "start" => wordEdge .start
    | "end" => wordEdge .stop
    | "start-half" => wordEdge .fresh
    | "end-half" => wordEdge .closed
    | _ => failAt .wordEdgeUnknown named stop

/-- What follows a backslash. Every ASCII character but letters, digits and angles can stand for itself. -/
def readEscape : Read Atom := do
  let start ← index
  skip 1
  let some c ← next | failAt .escapeUnfinished start (← index)
  if c.isDigit then failAt .backreference start (start + 2)
  else if c = 'x' ∨ c = 'u' ∨ c = 'U' then readNumbered c
  else if c = 'p' ∨ c = 'P' then readProperty
  else
    skip 1
    match c with
    | 'd' | 's' | 'w' | 'D' | 'S' | 'W' => return .named (.letter c)
    | 'a' => return .literal '\x07' false
    | 'f' => return .literal '\x0C' false
    | 't' => return .literal '\t' false
    | 'n' => return .literal '\n' false
    | 'r' => return .literal '\r' false
    | 'v' => return .literal '\x0B' false
    | 'A' => return .edge .textStart
    | 'z' => return .edge .textEnd
    | 'b' => readWordEdge start
    | 'B' => wordEdge .inner
    | '<' => wordEdge .start
    | '>' => wordEdge .stop
    | _ =>
      if c.toNat < 0x80 ∧ !c.isAlpha then return .literal c false
      else failAt .escapeUnknown start (← index)

/-- One part of a pattern that is no group, no set in brackets and no operator. -/
def readAtom : Read Tree := do
  let start ← index
  let f ← flags
  match ← next with
  | none => return .empty ⟨start, start⟩
  | some '\\' =>
    let atom ← readEscape
    let span : Span := ⟨start, ← index⟩
    match atom with
    | .literal c isByte => return .literal ⟨c, isByte, span⟩ f
    | .named name => return .named name f span
    | .edge e => return .edge e span
  | some c =>
    skip 1
    let span : Span := ⟨start, ← index⟩
    match c with
    | '.' => return .dot f span
    | '^' => return .edge (if f.manyLines then .lineStart f.returns else .textStart) span
    | '$' => return .edge (if f.manyLines then .lineEnd f.returns else .textEnd) span
    | _ => return .literal ⟨c, false, span⟩ f

/-- The classes that have names within brackets. -/
def namedRanges : List (String × List CodeRange) :=
  let digits := (0x30, 0x39)
  let upper := (0x41, 0x5A)
  let lower := (0x61, 0x7A)
  [("alnum", [digits, upper, lower]), ("alpha", [upper, lower]), ("ascii", [(0x00, 0x7F)]),
   ("blank", [(0x09, 0x09), (0x20, 0x20)]), ("cntrl", [(0x00, 0x1F), (0x7F, 0x7F)]), ("digit", [digits]),
   ("graph", [(0x21, 0x7E)]), ("lower", [lower]), ("print", [(0x20, 0x7E)]),
   ("punct", [(0x21, 0x2F), (0x3A, 0x40), (0x5B, 0x60), (0x7B, 0x7E)]),
   ("space", [(0x09, 0x0D), (0x20, 0x20)]), ("upper", [upper]),
   ("word", [digits, upper, (0x5F, 0x5F), lower]), ("xdigit", [digits, (0x41, 0x46), (0x61, 0x66)])]

/-- A class by its name between colons and brackets: its ranges, whether all others are meant, its length. -/
def namedClass? (cs : List Char) : Option (List CodeRange × Bool × Nat) :=
  match cs with
  | '[' :: ':' :: rest =>
    let negated := rest.head? == some '^'
    let name := (if negated then rest.drop 1 else rest).takeWhile (· ≠ ':')
    let length := 2 + (if negated then 1 else 0) + name.length
    if (cs.drop length).take 2 = [':', ']'] then
      (namedRanges.lookup (String.ofList name)).map fun ranges => (ranges, negated, length + 2)
    else none
  | _ => none

/-- The operator that two equal signs stand for. -/
def setOperator? : List Char → Option SetOperator
  | '&' :: '&' :: _ => some .both
  | '-' :: '-' :: _ => some .minus
  | '~' :: '~' :: _ => some .onlyOne
  | _ => none

/-- A character or class within brackets, and where it is. -/
def readSetAtom : Read (Atom × Span) := do
  let start ← index
  match ← next with
  | some '\\' =>
    let atom ← readEscape
    return (atom, ⟨start, ← index⟩)
  | c =>
    skip 1
    return (.literal (c.getD ' ') false, ⟨start, ← index⟩)

/-- An end of a range. -/
def boundary (atom : Atom × Span) : Read Literal :=
  match atom.1 with
  | .literal c isByte => return ⟨c, isByte, atom.2⟩
  | _ => failAt .setBoundary atom.2.start atom.2.stop

/-- What follows blanks, among which the sign of a comment may stand. -/
def pastSign (cs : List Char) : List Char :=
  match cs.dropWhile isBlank with
  | '#' :: rest => rest.dropWhile isBlank
  | rest => rest

/-- A character, a class or a range within brackets that were opened in some place. -/
def readRange (opened : Span) : Read SetTree := do
  let first ← readSetAtom
  skipBlanks
  let s ← get
  if s.rest = [] then failAt .setUnclosed opened.start opened.stop
  let second := (if s.flags.spaced then pastSign s.rest.tail else s.rest.tail).head?
  if s.rest.head? ≠ some '-' ∨ second = some ']' ∨ second = some '-' then
    match first.1 with
    | .literal c isByte => return .literal ⟨c, isByte, first.2⟩
    | .named name => return .named name first.2
    | .edge _ => failAt .setEscape first.2.start first.2.stop
  if (← advance).isNone then failAt .setUnclosed opened.start opened.stop
  let last ← readSetAtom
  let low ← boundary first
  let high ← boundary last
  if high.char < low.char then failAt .setOrder first.2.start last.2.stop
  return .range low high ⟨first.2.start, last.2.stop⟩

/-- Dashes at the beginning of a set, of which each is a member, the last first. -/
def readDashes (start : Nat) : Nat → List SetTree → Read (List SetTree)
  | 0, read => return read
  | fuel + 1, read => do
    if (← next) ≠ some '-' then return read
    let place ← index
    if (← advance).isNone then failAt .setUnclosed start start
    readDashes start fuel (.literal ⟨'-', false, ⟨place, place + 1⟩⟩ :: read)

/-- What has been read within brackets: the operator that is still open, and the members since it. -/
structure Bracketed where
  before : Option (SetOperator × SetTree)
  /-- where the members began -/
  start : Nat
  /-- the members, the last first -/
  members : List SetTree

namespace Bracketed

def add (b : Bracketed) (t : SetTree) : Bracketed := { b with members := t :: b.members }

/-- All that has been read as one set. Operators count from the left. -/
def whole (b : Bracketed) : SetTree :=
  let last := SetTree.ofMembers b.members b.start
  match b.before with
  | none => last
  | some (o, first) => .operation o first last ⟨first.span.start, last.span.stop⟩

end Bracketed

mutual

/-- A set in brackets. A bracket that closes is a member if it comes first. -/
def readBrackets : Nat → Read (Bool × SetTree × Span)
  | 0 => return (false, .nothing ⟨0, 0⟩, ⟨0, 0⟩)
  | fuel + 1 => do
    let start ← index
    if (← advance).isNone then failAt .setUnclosed start (← index)
    let negated := (← next) = some '^'
    if negated then
      if (← advance).isNone then failAt .setUnclosed start (← index)
    let first ← index
    let dashes ← readDashes start fuel []
    let mut read := dashes
    let place ← index
    if dashes.isEmpty && (← next) = some ']' then
      if (← advance).isNone then failAt .setUnclosed start (← index)
      read := [.literal ⟨']', false, ⟨place, place + 1⟩⟩]
    let inner ← readMembers ⟨start, ← index⟩ fuel ⟨none, first, read⟩
    return (negated, inner, ⟨start, ← index⟩)

/-- The members of a set up to the bracket that closes it. -/
def readMembers (opened : Span) : Nat → Bracketed → Read SetTree
  | 0, _ => failAt .setUnclosed opened.start opened.stop
  | fuel + 1, read => do
    skipBlanks
    let s ← get
    match s.rest with
    | [] => failAt .setUnclosed opened.start opened.stop
    | ']' :: _ =>
      skip 1
      return read.whole
    | '[' :: _ =>
      match namedClass? s.rest with
      | some (ranges, negated, length) =>
        skip length
        readMembers opened fuel (read.add (.ascii ranges negated ⟨s.index, ← index⟩))
      | none =>
        let (negated, inner, span) ← readBrackets fuel
        readMembers opened fuel (read.add (.brackets negated inner span))
    | rest =>
      match setOperator? rest with
      | some o =>
        skip 2
        readMembers opened fuel ⟨some (o, read.whole), ← index, []⟩
      | none =>
        let range ← readRange opened
        readMembers opened fuel (read.add range)

end

/-- The beginning of a group: flags for what follows, or a group, with a number if it is kept. -/
inductive GroupHead where
  | rest (f : Flags)
  | group (number : Option Nat) (f : Flags)
  deriving DecidableEq, Repr

/-- The head of a group that is kept, which takes the next number. -/
def numbered (f : Flags) : Read GroupHead := do
  let s ← get
  set { s with groups := s.groups + 1 }
  return .group (some (s.groups + 1)) f

/-- Whether a character can stand in the name of a group. -/
def isNameChar (isFirst : Bool) (c : Char) : Bool :=
  c = '_' || isLetter c || (!isFirst && (isNumber c || c = '.' || c = '[' || c = ']'))

/-- The name of a group, up to an angle. -/
def readName : Read Unit := do
  let start ← index
  let rest := (← get).rest
  if rest = [] then failAt .groupNameUnclosed start start
  let name := rest.takeWhile (· ≠ '>')
  let valid := name.zipIdx.takeWhile fun (c, i) => isNameChar (i = 0) c
  skip valid.length
  let stop ← index
  if valid.length < name.length then failAt .groupNameInvalid stop (stop + 1)
  if (← next).isNone then failAt .groupNameUnclosed stop stop
  skip 1
  if name = [] then failAt .groupNameEmpty start start
  let names := (← get).names
  if let some taken := names.lookup name then throw ⟨.groupNameTaken, [taken, ⟨start, stop⟩]⟩
  modify fun s => { s with names := (name, ⟨start, stop⟩) :: names }

/-- Flags up to the end of the group's beginning. The letters are kept with their places. -/
def readFlags : Nat → Flags → Bool → List (Char × Nat) → Read (Flags × List (Char × Nat))
  | 0, f, _, given => return (f, given)
  | fuel + 1, f, value, given => do
    let place ← index
    let some c ← next | failAt .flagMissing place place
    if c = ':' ∨ c = ')' then
      if let ('-', dash) :: _ := given then failAt .flagNegationOpen dash (dash + 1)
      return (f, given)
    let some f := if c = '-' then some f else f.withLetter? c value
      | failAt .flagUnknown place (place + 1)
    if let some taken := given.lookup c then
      throw ⟨if c = '-' then .flagNegatedTwice else .flagTaken,
        [⟨taken, taken + 1⟩, ⟨place, place + 1⟩]⟩
    skip 1
    readFlags fuel f (value && c ≠ '-') ((c, place) :: given)

def readGroupHead : Read GroupHead := do
  let opened ← index
  let f ← flags
  skip 1
  skipBlanks
  let inner ← index
  for look in ["?=", "?!", "?<=", "?<!"] do
    if ← skipText look then failAt .lookAround opened (← index)
  for name in ["?P<", "?<"] do
    if ← skipText name then
      readName
      return ← numbered f
  if !(← skipText "?") then return ← numbered f
  if (← next).isNone then failAt .groupUnclosed opened (opened + 1)
  let (new, given) ← readFlags (← get).rest.length.succ f true []
  let closes := (← next) = some ')'
  skip 1
  if !closes then return .group none new
  if given = [] then failAt .nothingToRepeat inner inner
  return .rest new

/-- What has been read of a group: the alternatives before, the last first, and the parts of the last. -/
structure Grouped where
  /-- where the first alternative began -/
  start : Nat
  before : List Tree
  /-- where the last alternative began -/
  last : Nat
  parts : List Tree

namespace Grouped

def begin (start : Nat) : Grouped := ⟨start, [], start, []⟩

def add (g : Grouped) (t : Tree) : Grouped := { g with parts := t :: g.parts }

/-- A further alternative begins after a bar. -/
def split (g : Grouped) (bar : Nat) : Grouped :=
  { g with before := .ofParts g.parts ⟨g.last, bar⟩ :: g.before, last := bar + 1, parts := [] }

/-- All that has been read as one part. -/
def whole (g : Grouped) (stop : Nat) : Tree :=
  let last := Tree.ofParts g.parts ⟨g.last, stop⟩
  if g.before.isEmpty then last else .choice (g.before.reverse ++ [last]) ⟨g.start, stop⟩

end Grouped

/-- The part that an operator repeats, which is no setting of flags, and what was read before it. -/
def repeatable (g : Grouped) : Read (Tree × Grouped) := do
  match g.parts with
  | [] | .flags _ :: _ => failAt .nothingToRepeat (← index) (← index)
  | t :: parts => return (t, { g with parts })

/-- A repetition up to here, which is greedy unless a question mark or a flag says that it is not. -/
def repetition (t : Tree) (least : Nat) (most : Option Nat) (modest : Bool) : Read Tree :=
  return .repeated t least most (modest == (← flags).modest) ⟨t.span.start, ← index⟩

/-- What is in a group, up to its end or the end of the pattern. -/
def readGroup : Nat → Grouped → Read Tree
  | 0, read => return read.whole (← index)
  | fuel + 1, read => do
    skipBlanks
    let start ← index
    match ← next with
    | none | some ')' => return read.whole start
    | some '|' =>
      skip 1
      readGroup fuel (read.split start)
    | some '(' =>
      let outer ← flags
      match ← readGroupHead with
      | .rest f =>
        setFlags f
        readGroup fuel (read.add (.flags ⟨start, ← index⟩))
      | .group number f =>
        setFlags f
        let inner ← readGroup fuel (.begin (← index))
        if (← next).isNone then failAt .groupUnclosed start (start + 1)
        setFlags outer
        skip 1
        readGroup fuel (read.add (.group number inner ⟨start, ← index⟩))
    | some '[' =>
      let f ← flags
      let (negated, inner, span) ← readBrackets fuel
      readGroup fuel (read.add (.brackets negated inner f span))
    | some '\x7b' =>
      let (t, read) ← repeatable read
      let (least, most, modest) ← bounds
      readGroup fuel (read.add (← repetition t least most modest))
    | some c =>
      if c = '?' ∨ c = '*' ∨ c = '+' then
        let (t, read) ← repeatable read
        skip 1
        let modest ← skipText "?"
        let least := if c = '+' then 1 else 0
        let most := if c = '?' then some 1 else none
        readGroup fuel (read.add (← repetition t least most modest))
      else
        let t ← readAtom
        readGroup fuel (read.add t)

/-- How deep parts may be nested. -/
def deepest : Nat := 250

/-- A whole pattern. -/
def readWhole : Read Tree := do
  let t ← readGroup (2 * (← get).rest.length + 2) (.begin 0)
  if (← next).isSome then failAt .groupUnopened (← index) ((← index) + 1)
  if let some span := t.tooDeep? deepest then failAt (.tooDeep deepest) span.start span.stop
  return t

end Reader

/-- The parts of a text that is a pattern. -/
def Tree.ofText (text : String) : Except Report Tree :=
  (Reader.readWhole { rest := text.toList }).map (·.1)

end PluginHost.Text.Pattern
