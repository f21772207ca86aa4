import PluginHost.Path

namespace PluginHost.LibraryLocation

/-- The names that a loader replaces where they follow a dollar sign. -/
def placeholders : List (List UInt8) := ["ORIGIN", "LIB", "PLATFORM"].map utf8Bytes

/-- The bytes that go on a name: ASCII letters, digits and the underscore. -/
def goesOn (b : UInt8) : Bool := (Char.ofNat b.toNat).isAlphanum || b = 0x5F

/-- Whether bytes begin with a placeholder, in braces or with nothing behind it that goes on its name. -/
def startsWithPlaceholder (bytes : List UInt8) : Bool :=
  placeholders.any fun name =>
    (0x7B :: name ++ [0x7D]).isPrefixOf bytes ||
      (name.isPrefixOf bytes && !(bytes.drop name.length).head?.any goesOn)

/-- Whether a placeholder follows a dollar sign. -/
def hasPlaceholder : List UInt8 → Bool
  | [] => false
  | b :: rest => (b = 0x24 && startsWithPlaceholder rest) || hasPlaceholder rest

/--
The path that a library is opened under. One zero at the end is taken as the end of the path; with a zero
before that, or with a placeholder, a path leads to no library.
-/
def ofPath? (path : Path) : Option Path :=
  let body := if path.bytes.getLast? = some 0 then path.bytes.dropLast else path.bytes
  if 0 ∈ body ∨ hasPlaceholder body then none else some ⟨body⟩

end PluginHost.LibraryLocation
