import Std.Data.ExtTreeMap

namespace PluginHost.Text.Pattern

/-- Nodes with what they read, by their slots. A slot holds the last node that was put into it. -/
structure Shelf where
  /-- the number of slots -/
  size : Nat
  slots : Std.ExtTreeMap Nat (List UInt64 × Nat) compare := ∅

namespace Shelf

/-- A number that is well spread over all words, made of some words one after the other. -/
def spread (words : List UInt64) : UInt64 :=
  words.foldl (fun h word => (h ^^^ word) * 0x100000001B3) 0xCBF29CE484222325

/-- The slot for what is read. -/
def slot (s : Shelf) (words : List UInt64) : Nat := (spread words).toNat % s.size

/-- The node that reads the same, if it is still there. -/
def find? (s : Shelf) (words : List UInt64) : Option Nat :=
  s.slots[s.slot words]?.bind fun (held, node) => if held = words then some node else none

/-- Puts a node into its slot. -/
def put (s : Shelf) (words : List UInt64) (node : Nat) : Shelf :=
  { s with slots := s.slots.insert (s.slot words) (words, node) }

end Shelf

end PluginHost.Text.Pattern
