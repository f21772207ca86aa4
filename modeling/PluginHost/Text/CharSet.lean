namespace PluginHost.Text

/-- A range of code points, both ends included. -/
abbrev CodeRange := Nat × Nat

namespace CodeRange

/-- Whether some range holds a code point. -/
def covers (ranges : List CodeRange) (n : Nat) : Bool := ranges.any fun (low, high) => low ≤ n && n ≤ high

/-- Puts a range among others. Ranges that touch become one. -/
def add (r : CodeRange) : List CodeRange → List CodeRange
  | [] => [r]
  | s :: rest =>
    if r.2 + 1 < s.1 then r :: s :: rest
    else if s.2 + 1 < r.1 then s :: add r rest
    else add (min r.1 s.1, max r.2 s.2) rest

/-- The ranges of two lists. -/
def joined (a b : List CodeRange) : List CodeRange := a.foldr add b

/-- What a range has in common with each of others. -/
def cut (r : CodeRange) (ranges : List CodeRange) : List CodeRange :=
  ranges.filterMap fun s =>
    if max r.1 s.1 ≤ min r.2 s.2 then some (max r.1 s.1, min r.2 s.2) else none

/-- What two lists of ranges have in common. -/
def common (a b : List CodeRange) : List CodeRange := a.flatMap (cut · b)

/-- The last code point. -/
def lastCode : Nat := 0x10FFFF

/-- The character before a code point, past the surrogates, which are no characters. -/
def before (n : Nat) : Nat := if n = 0xE000 then 0xD7FF else n - 1

/-- The character after a code point, past the surrogates. -/
def after (n : Nat) : Nat := if n = 0xD7FF then 0xE000 else n + 1

/-- The ranges between others, from a code point to the last. -/
def gaps (start : Nat) : List CodeRange → List CodeRange
  | [] => if start ≤ lastCode then [(start, lastCode)] else []
  | (low, high) :: rest =>
    if start < low then (start, before low) :: gaps (after high) rest else gaps (after high) rest

end CodeRange

/-- A set of characters. Its ranges ascend and no two of them touch, so a set is written in one way. -/
structure CharSet where
  ranges : List CodeRange
  deriving DecidableEq, Repr

namespace CharSet

open CodeRange

def nothing : CharSet := ⟨[]⟩

def ofRanges (ranges : List CodeRange) : CharSet := ⟨joined ranges []⟩

def single (c : Char) : CharSet := ⟨[(c.toNat, c.toNat)]⟩

def has (s : CharSet) (c : Char) : Bool := covers s.ranges c.toNat

def union (a b : CharSet) : CharSet := ⟨joined b.ranges a.ranges⟩

def inter (a b : CharSet) : CharSet := ⟨joined (common a.ranges b.ranges) []⟩

/-- All other characters. -/
def except (a : CharSet) : CharSet := ⟨gaps 0 a.ranges⟩

def minus (a b : CharSet) : CharSet := a.inter b.except

/-- Whether there are ASCII characters alone. -/
def isAscii (a : CharSet) : Bool := a.ranges.all (·.2 < 0x80)

/-- The set with the other case of its ASCII letters. -/
def withBothCases (a : CharSet) : CharSet :=
  let shifted (letters : CodeRange) (shift : Nat → Nat) : List CodeRange :=
    (cut letters a.ranges).map fun r => (shift r.1, shift r.2)
  ⟨joined (shifted (0x41, 0x5A) (· + 0x20) ++ shifted (0x61, 0x7A) (· - 0x20)) a.ranges⟩

/-- The one character of a set that has no more. -/
def only? (a : CharSet) : Option Char :=
  match a.ranges with
  | [(low, high)] => if low = high then some (Char.ofNat low) else none
  | _ => none

end CharSet

end PluginHost.Text
