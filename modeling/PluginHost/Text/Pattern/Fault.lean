import PluginHost.Text.Blank

namespace PluginHost.Text.Pattern

/-- What can be wrong with the text of a pattern. -/
inductive Mistake where
  | tooDeep (limit : Nat)
  | groupUnclosed
  | groupUnopened
  | groupNameUnclosed
  | groupNameEmpty
  | groupNameInvalid
  | groupNameTaken
  | lookAround
  | flagMissing
  | flagUnknown
  | flagTaken
  | flagNegatedTwice
  | flagNegationOpen
  | nothingToRepeat
  | countUnclosed
  | countMissing
  | countOrder
  | countTooLarge
  | setUnclosed
  | setEscape
  | setBoundary
  | setOrder
  | escapeUnfinished
  | escapeUnknown
  | backreference
  | digitInvalid
  | digitsMissing
  | noCharacter
  | wordEdgeUnclosed
  | wordEdgeUnknown
  | wordEdgeUnfinished
  | propertyInvalid
  | propertyUnknown
  | propertyValueUnknown
  | propertyMisplaced
  | classUnknown
  | caseUnknown
  | notText
  deriving DecidableEq, Repr

def Mistake.message : Mistake → String
  | tooDeep limit => s!"exceed the maximum number of nested parentheses/brackets ({limit})"
  | groupUnclosed => "unclosed group"
  | groupUnopened => "unopened group"
  | groupNameUnclosed => "unclosed capture group name"
  | groupNameEmpty => "empty capture group name"
  | groupNameInvalid => "invalid capture group character"
  | groupNameTaken => "duplicate capture group name"
  | lookAround => "look-around, including look-ahead and look-behind, is not supported"
  | flagMissing => "expected flag but got end of regex"
  | flagUnknown => "unrecognized flag"
  | flagTaken => "duplicate flag"
  | flagNegatedTwice => "flag negation operator repeated"
  | flagNegationOpen => "dangling flag negation operator"
  | nothingToRepeat => "repetition operator missing expression"
  | countUnclosed => "unclosed counted repetition"
  | countMissing => "repetition quantifier expects a valid decimal"
  | countOrder => "invalid repetition count range, the start must be <= the end"
  | countTooLarge => "decimal literal invalid"
  | setUnclosed => "unclosed character class"
  | setEscape => "invalid escape sequence found in character class"
  | setBoundary => "invalid range boundary, must be a literal"
  | setOrder => "invalid character class range, the start must be <= the end"
  | escapeUnfinished => "incomplete escape sequence, reached end of pattern prematurely"
  | escapeUnknown => "unrecognized escape sequence"
  | backreference => "backreferences are not supported"
  | digitInvalid => "invalid hexadecimal digit"
  | digitsMissing => "hexadecimal literal empty"
  | noCharacter => "hexadecimal literal is not a Unicode scalar value"
  | wordEdgeUnclosed =>
    "special word boundary assertion is either unclosed or contains an invalid character"
  | wordEdgeUnknown =>
    "unrecognized special word boundary assertion, valid choices are: start, end, start-half or end-half"
  | wordEdgeUnfinished =>
    "found either the beginning of a special word boundary or a bounded repetition on a \\b with an " ++
      "opening brace, but no closing brace"
  | propertyInvalid => "invalid Unicode character class"
  | propertyUnknown => "Unicode property not found"
  | propertyValueUnknown => "Unicode property value not found"
  | propertyMisplaced => "Unicode not allowed here"
  | classUnknown =>
    "Unicode-aware Perl class not found (make sure the unicode-perl feature is enabled)"
  | caseUnknown =>
    "Unicode-aware case insensitivity matching is not available (make sure the unicode-case feature is " ++
      "enabled)"
  | notText => "pattern can match invalid UTF-8"

/-- A part of a text, from one position to another. -/
structure Span where
  start : Nat
  stop : Nat
  deriving DecidableEq, Repr

/-- A mistake and where it was made, in the order of the text. -/
structure Report where
  mistake : Mistake
  spans : List Span
  deriving DecidableEq, Repr

inductive Fault where
  | mistake (report : Report) (text : String)
  /-- edges of words in a text that is not taken for ASCII -/
  | wordEdge
  /-- a pattern whose machine takes more memory than this -/
  | size (limit : Nat)
  deriving DecidableEq, Repr

/-- Line and column of a position, both counted from zero. -/
def place (cs : List Char) (position : Nat) : Nat × Nat :=
  let before := cs.take position
  (before.count '\n', (before.reverse.takeWhile (· ≠ '\n')).length)

/-- Marks for parts of a line that are given by column and width. An empty part has one mark. -/
def marks (column : Nat) : List (Nat × Nat) → List Char
  | [] => []
  | (start, width) :: rest =>
    let blanks := start - column
    let width := max 1 width
    List.replicate blanks ' ' ++ List.replicate width '^' ++ marks (column + blanks + width) rest

/-- A number, with blanks before it up to a width. -/
def padded (width n : Nat) : String :=
  let digits := Nat.toDigits 10 n
  String.ofList (List.replicate (width - digits.length) ' ' ++ digits)

/-- The lines of a text as they are shown, without the carriage returns before their ends. -/
def shownLines : List (List Char) → List (List Char)
  | [] => []
  | [last] => if last = [] then [] else [last]
  | line :: rest => (if line.getLast? = some '\r' then line.dropLast else line) :: shownLines rest

/-- The lines of a text with marks below them. Lines of several are numbered. -/
def Report.lines (r : Report) (text : String) : List String :=
  let cs := text.toList
  let all := splitAt '\n' cs
  let width := if all.length ≤ 1 then 0 else (Nat.toDigits 10 all.length).length
  let places := r.spans.map fun span => (place cs span.start, place cs span.stop)
  (shownLines all).zipIdx.flatMap fun (line, number) =>
    let lead := if width = 0 then "    " else padded width (number + 1) ++ ": "
    let parts := places.filterMap fun ((startLine, start), (stopLine, stop)) =>
      if startLine = number ∧ stopLine = number then some (start, stop - start) else none
    let marked := String.ofList (List.replicate lead.length ' ' ++ marks 0 parts)
    (lead ++ String.ofList line) :: (if parts.isEmpty then [] else [marked])

/-- The parts of a text that go over the end of a line. -/
def Report.notes (r : Report) (text : String) : List String :=
  r.spans.filterMap fun span =>
    let (startLine, start) := place text.toList span.start
    let (stopLine, stop) := place text.toList span.stop
    if startLine = stopLine then none
    else some (s!"on line {startLine + 1} (column {start + 1}) through line " ++
      s!"{stopLine + 1} (column {stop})")

def Report.message (r : Report) (text : String) : String :=
  let rule := if text.contains '\n' then [String.ofList (List.replicate 79 '~')] else []
  "\n".intercalate (["regex parse error:"] ++ rule ++ r.lines text ++ rule ++ r.notes text ++
    ["error: " ++ r.mistake.message])

def Fault.message : Fault → String
  | mistake report text => report.message text
  | wordEdge => "error building NFA"
  | size limit => s!"Compiled regex exceeds size limit of {limit} bytes."

end PluginHost.Text.Pattern
