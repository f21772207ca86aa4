import PluginHost.Text.Blank

namespace PluginHost.Text

/-- The control sequence that a text has begun and not yet ended. -/
inductive Sequence where
  | none
  /-- an escape so far -/
  | escape
  /-- an escape and signs that a letter or digit has to end -/
  | signs
  /-- parameters that a letter has to end -/
  | parameters
  /-- the beginning of a string for a device -/
  | device
  /-- the parameters of a string for a device -/
  | deviceParameters
  /-- the signs of a string for a device -/
  | deviceSigns
  /-- a string up to its terminator -/
  | string
  /-- a string that a bell may end -/
  | command
  deriving DecidableEq, Repr

/-- The controls that a text is laid out with. -/
def isLayout (c : Char) : Bool := c = '\t' || c = '\n' || c = '\x0C' || c = '\r'

/-- Whether a character is seen outside of control sequences. -/
def isSeen (c : Char) : Bool := isLayout c || (0x20 ≤ c.toNat && c.toNat ≠ 0x7F)

/-- Whether the byte of a string terminator is among the bytes of a character. -/
def endsString (c : Char) : Bool := (String.utf8EncodeChar c).contains 0x9C

namespace Sequence

/--
The sequence that is open after a character of it. An escape begins anew, and a cancel or a substitute
ends any sequence. What has no place in a sequence leaves it open.
-/
def after (s : Sequence) (c : Char) : Sequence :=
  let n := c.toNat
  let isSign : Bool := 0x20 ≤ n ∧ n < 0x30
  let isFinal : Bool := 0x40 ≤ n ∧ n < 0x7F
  if n = 0x1B then escape
  else if n = 0x18 ∨ n = 0x1A then none
  else match s with
    | none => none
    | escape =>
      if n < 0x20 ∨ 0x7F ≤ n then escape
      else if isSign then signs
      else if c = '[' then parameters
      else if c = 'P' then device
      else if c = ']' then command
      else if c = 'X' ∨ c = '^' ∨ c = '_' then string
      else none
    | signs => if 0x30 ≤ n ∧ n < 0x7F then none else signs
    | parameters => if isFinal then none else parameters
    | device =>
      if isSign then deviceSigns
      else if 0x30 ≤ n ∧ n < 0x40 then deviceParameters
      else if isFinal then string
      else device
    | deviceParameters =>
      if isSign then deviceSigns
      else if 0x3C ≤ n ∧ n < 0x7F then string
      else deviceParameters
    | deviceSigns => if 0x30 ≤ n ∧ n < 0x7F then string else deviceSigns
    | string => if endsString c then none else string
    | command => if n = 0x07 then none else command

/-- Whether a character is seen while a sequence is taken in. -/
def shows (s : Sequence) (c : Char) : Bool :=
  match s with
  | none => isSeen c
  | escape | signs | parameters => isLayout c
  | device | deviceParameters | deviceSigns | string | command => false

end Sequence

/-- How far the reading of a text has come: the open sequence, and whether it waits. -/
structure Reading where
  sequence : Sequence
  waits : Bool
  deriving DecidableEq, Repr

namespace Reading

/-- While a sequence waits, a text is seen as if no sequence were open. -/
def shows (r : Reading) (c : Char) : Bool := if r.waits then isSeen c else r.sequence.shows c

/--
The reading after a character. A sequence waits from an ASCII character that is seen up to the next that
is not, and it is given up where another character is seen.
-/
def after (r : Reading) (c : Char) : Reading :=
  if !r.shows c then ⟨r.sequence.after c, false⟩
  else if c.toNat < 0x80 then ⟨r.sequence, true⟩
  else ⟨.none, false⟩

/-- What is seen of the rest of a text. -/
def seen (r : Reading) : List Char → List Char
  | [] => []
  | c :: cs => if r.shows c then c :: (r.after c).seen cs else (r.after c).seen cs

end Reading

/-- A text without its control sequences and its controls, but for those of its layout. -/
def withoutControls (s : String) : String := String.ofList (Reading.seen ⟨.none, false⟩ s.toList)

/-- The lines of a text. A carriage return at the end of a line is no part of it. -/
def lines (s : String) : List String :=
  (splitAt '\n' s.toList).map fun line =>
    String.ofList (if line.getLast? = some '\r' then line.dropLast else line)

end PluginHost.Text
