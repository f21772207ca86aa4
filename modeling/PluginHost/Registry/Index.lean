import Std.Data.ExtTreeSet
import Std.Data.ExtTreeMap

namespace PluginHost

/-- Sets of members by key. No set is empty: a key is present exactly while it has members. -/
abbrev Index (K N : Type) [Ord K] [Ord N] := Std.ExtTreeMap K (Std.ExtTreeSet N compare) compare

namespace Index

variable {K N : Type} [Ord K] [Ord N] [Std.TransOrd K] [Std.TransOrd N]

/-- The members of a key; none where the key is absent. -/
def members (index : Index K N) (key : K) : Std.ExtTreeSet N compare := index[key]?.getD ∅

/-- Adds a member, and the key with it if need be. -/
def add (index : Index K N) (key : K) (member : N) : Index K N :=
  index.insert key ((index.members key).insert member)

/-- Takes a member out, and the key with its last one. -/
def discard (index : Index K N) (key : K) (member : N) : Index K N :=
  match index[key]? with
  | none => index
  | some set =>
    let rest := set.erase member
    if rest.isEmpty then index.erase key else index.insert key rest

end Index

end PluginHost
