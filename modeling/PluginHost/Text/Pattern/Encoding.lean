import PluginHost.Text.CharSet

namespace PluginHost.Text.Pattern

/-- A range of bytes, both ends included. -/
abbrev ByteRange := Nat × Nat

/-- The bytes of a code point. -/
def codeBytes (n : Nat) : List Nat := (String.utf8EncodeChar (Char.ofNat n)).map (·.toNat)

/-- The bytes of a literal. -/
def literalBytes (cs : List Char) : List Nat := cs.flatMap fun c => codeBytes c.toNat

/-- The first place where a range of code points has to be split, so that its bytes are ranges. -/
def splitPoint? (low high : Nat) : Option Nat :=
  let lengths := [0x7F, 0x7FF, 0xFFFF].find? fun last => low ≤ last && last < high
  let within (size : Nat) : Option Nat :=
    if high < 0x80 ∨ low / size = high / size then none
    else if low % size ≠ 0 then some (low / size * size + size - 1)
    else if high % size ≠ size - 1 then some (high / size * size - 1)
    else none
  (lengths.or (within 0x40)).or ((within 0x1000).or (within 0x40000))

/-- The ranges of bytes, one after the other, that the characters of a range are written in. -/
def byteRuns : Nat → Nat → Nat → List (List ByteRange)
  | 0, _, _ => []
  | fuel + 1, low, high =>
    if high < low then []
    else if low < 0xE000 ∧ 0xD7FF < high then byteRuns fuel low 0xD7FF ++ byteRuns fuel 0xE000 high
    else match splitPoint? low high with
      | some last => byteRuns fuel low last ++ byteRuns fuel (last + 1) high
      | none => [(codeBytes low).zip (codeBytes high)]

/-- The runs of bytes for a set. A range is split into blocks of few sizes, so it is split a few times only. -/
def setRuns (set : CharSet) : List (List ByteRange) :=
  set.ranges.flatMap fun (low, high) => byteRuns 64 low high

/-- Runs grouped by their first range, with what follows it. -/
def groups : List (List ByteRange) → List (ByteRange × List (List ByteRange))
  | [] => []
  | [] :: rest => groups rest
  | (first :: run) :: rest =>
    match groups rest with
    | (other, runs) :: more =>
      if other = first then (other, run :: runs) :: more
      else (first, [run]) :: (other, runs) :: more
    | [] => [(first, [run])]

end PluginHost.Text.Pattern
