import PluginHost.Text.Hex
import PluginHost.Toml.Moment

namespace PluginHost.Toml

/-- Reads the front of a text and gives back the rest. -/
abbrev Reader (α : Type) := List Char → Option (α × List Char)

/-- Blanks within a line. -/
def isSpace (c : Char) : Bool := c = ' ' || c = '\t'

def skipSpaces (cs : List Char) : List Char := cs.dropWhile isSpace

/-- The text after a line break. A carriage return counts only before a line feed. -/
def afterNewline? : List Char → Option (List Char)
  | '\n' :: cs => some cs
  | '\r' :: '\n' :: cs => some cs
  | _ => none

/-- Characters that may stand in comments and strings: no control characters but the tab. -/
def isTextChar (c : Char) : Bool := c = '\t' || (0x20 ≤ c.toNat && c.toNat ≠ 0x7F)

/-- The text after a comment, up to its line break; unchanged where no comment starts. -/
def skipComment : List Char → List Char
  | '#' :: cs => cs.dropWhile isTextChar
  | cs => cs

/-- Skips blanks, line breaks and comments, which end at a line break. -/
def skipTrivia : Nat → List Char → List Char
  | 0, cs => cs
  | fuel + 1, cs =>
    let cs := skipComment (skipSpaces cs)
    match afterNewline? cs with
    | some rest => skipTrivia fuel rest
    | none => cs

/-- The end of a line: blanks and a comment, then a line break or the end of the text. -/
def readLineEnd (cs : List Char) : Option (List Char) :=
  match skipComment (skipSpaces cs) with
  | [] => some []
  | rest => afterNewline? rest

/-- The character whose code point is written in so many hexadecimal digits. -/
def readCodePoint (width : Nat) (cs : List Char) : Option (Char × List Char) := do
  let digits := cs.take width
  guard (digits.length = width)
  let code ← digits.foldlM (fun n c => (Text.hexValue? c).map (16 * n + ·)) 0
  if code.isValidChar then some (Char.ofNat code, cs.drop width) else none

/-- What a backslash and the characters after it stand for. -/
def readEscape : Reader Char
  | 'b' :: cs => some ('\x08', cs)
  | 't' :: cs => some ('\t', cs)
  | 'n' :: cs => some ('\n', cs)
  | 'f' :: cs => some ('\x0c', cs)
  | 'r' :: cs => some ('\r', cs)
  | '"' :: cs => some ('"', cs)
  | '\\' :: cs => some ('\\', cs)
  | 'u' :: cs => readCodePoint 4 cs
  | 'U' :: cs => readCodePoint 8 cs
  | _ => none

/-- The inside of a quoted string on one line and its closing quotation mark. -/
def readBasicBody : Nat → Reader (List Char)
  | 0, _ => none
  | _ + 1, [] => none
  | fuel + 1, c :: cs =>
    if c = '"' then some ([], cs)
    else if c = '\\' then do
      let (e, cs) ← readEscape cs
      let (body, cs) ← readBasicBody fuel cs
      some (e :: body, cs)
    else if isTextChar c then do
      let (body, cs) ← readBasicBody fuel cs
      some (c :: body, cs)
    else none

/-- The inside of a literal string on one line and its closing apostrophe. -/
def readLiteralBody (cs : List Char) : Option (List Char × List Char) :=
  let isInside := fun c => isTextChar c && c ≠ '\''
  match cs.dropWhile isInside with
  | '\'' :: rest => some (cs.takeWhile isInside, rest)
  | _ => none

/-- Skips blanks and line breaks. -/
def skipLineBreaks (cs : List Char) : Nat → List Char
  | 0 => cs
  | fuel + 1 =>
    match afterNewline? (skipSpaces cs) with
    | some rest => skipLineBreaks rest fuel
    | none => skipSpaces cs

/--
The inside of a string over several lines and its closing delimiter. Up to two quotation marks may
stand before the delimiter. Where backslashes escape, one at the end of a line joins it to the next
text.
-/
def readMultilineBody (mark : Char) (escapes : Bool) : Nat → Reader (List Char)
  | 0, _ => none
  | _ + 1, [] => none
  | fuel + 1, c :: cs =>
    let continued (front : List Char) (rest : List Char) : Option (List Char × List Char) :=
      (readMultilineBody mark escapes fuel rest).map fun (body, rest) => (front ++ body, rest)
    if c = mark then
      let marks := (c :: cs).takeWhile (· = mark)
      let rest := cs.dropWhile (· = mark)
      if marks.length < 3 then continued marks rest
      else if marks.length ≤ 5 then some (marks.drop 3, rest)
      else none
    else if c = '\\' && escapes then
      match afterNewline? (skipSpaces cs) with
      | some rest => continued [] (skipLineBreaks rest rest.length)
      | none => (readEscape cs).bind fun (e, rest) => continued [e] rest
    else match afterNewline? (c :: cs) with
      | some rest => continued ['\n'] rest
      | none => if isTextChar c then continued [c] cs else none

/-- The text after a line break that directly follows an opening delimiter. -/
def skipFirstNewline (cs : List Char) : List Char := (afterNewline? cs).getD cs

/-- A string of any of the four kinds. -/
def readString : Reader String
  | '"' :: '"' :: '"' :: cs =>
    (readMultilineBody '"' true (cs.length + 1) (skipFirstNewline cs)).map
      fun (body, rest) => (String.ofList body, rest)
  | '"' :: cs => (readBasicBody (cs.length + 1) cs).map fun (body, rest) => (String.ofList body, rest)
  | '\'' :: '\'' :: '\'' :: cs =>
    (readMultilineBody '\'' false (cs.length + 1) (skipFirstNewline cs)).map
      fun (body, rest) => (String.ofList body, rest)
  | '\'' :: cs => (readLiteralBody cs).map fun (body, rest) => (String.ofList body, rest)
  | _ => none

/-- Characters of a key without quotation marks. -/
def isBareKeyChar (c : Char) : Bool := c.isAlphanum || c = '_' || c = '-'

/-- One segment of a key. Strings over several lines are no keys. -/
def readSegment : Reader String
  | [] => none
  | c :: cs =>
    if c = '"' then
      (readBasicBody (cs.length + 1) cs).map fun (body, rest) => (String.ofList body, rest)
    else if c = '\'' then
      (readLiteralBody cs).map fun (body, rest) => (String.ofList body, rest)
    else if isBareKeyChar c then
      some (String.ofList ((c :: cs).takeWhile isBareKeyChar), cs.dropWhile isBareKeyChar)
    else none

/-- Nothing may nest this deep: neither values nor the segments of a key. -/
def nestingLimit : Nat := 80

/-- Segments joined by dots, with blanks around each. -/
def readSegments : Nat → Reader (List String)
  | 0, _ => none
  | fuel + 1, cs => do
    let (segment, cs) ← readSegment (skipSpaces cs)
    match skipSpaces cs with
    | '.' :: rest => do
      let (segments, rest) ← readSegments fuel rest
      some (segment :: segments, rest)
    | rest => some ([segment], rest)

/-- A key: fewer segments than the nesting limit. -/
def readKey : Reader (List String) := readSegments (nestingLimit - 1)

end PluginHost.Toml
