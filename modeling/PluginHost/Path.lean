import PluginHost.Text.Quoted

namespace PluginHost

/-- The bytes of a text in UTF-8. -/
def utf8Bytes (s : String) : List UInt8 := s.toUTF8.toList

/-- The text that bytes are the UTF-8 form of, if they are one. -/
def utf8Text? (bytes : List UInt8) : Option String := String.fromUTF8? ⟨bytes.toArray⟩

structure Path where
  bytes : List UInt8
  deriving DecidableEq, Repr

namespace Path

def ofString (s : String) : Path := ⟨utf8Bytes s⟩

/-- The path as a text, where it is one. -/
def text? (p : Path) : Option String := utf8Text? p.bytes

/--
The path for people. Where the bytes are no text, those beyond ASCII are shown as replacement
characters.
-/
def display (p : Path) : String :=
  p.text?.getD (String.ofList (p.bytes.map fun b => if b < 0x80 then Char.ofNat b.toNat else '\uFFFD'))

def debug (p : Path) : String := Text.quote p.display

/-- How many bytes a path can have that is followed. -/
def longest : Nat := 4095

/-- Whether a path is short enough to be followed. -/
def isFollowed (p : Path) : Bool := p.bytes.length ≤ longest

def slash : UInt8 := 0x2F

def dot : UInt8 := 0x2E

/-- What lies between separators. Paths are ordered component by component. -/
inductive Component where
  | root
  | current
  | parent
  | normal (name : List UInt8)
  deriving DecidableEq, Repr

/-- The pieces between the separators. -/
def pieces : List UInt8 → List (List UInt8)
  | [] => [[]]
  | b :: rest =>
    if b = slash then [] :: pieces rest
    else match pieces rest with
      | [] => [[b]]
      | piece :: more => (b :: piece) :: more

def isAbsolute (p : Path) : Bool := p.bytes.head? == some slash

/-- A piece as a component. Empty pieces and the current directory are none. -/
def Component.ofPiece? (piece : List UInt8) : Option Component :=
  if piece = [] ∨ piece = [dot] then none
  else if piece = [dot, dot] then some .parent
  else some (.normal piece)

/--
The components of a path. Repeated separators, a separator at the end and the current directory
leave no trace, but for a current directory that leads.
-/
def components (p : Path) : List Component :=
  let all := pieces p.bytes
  let front :=
    if p.isAbsolute then [Component.root]
    else if all.head? == some [dot] then [Component.current]
    else []
  front ++ all.filterMap Component.ofPiece?

/-- Two paths lead the same way if their components agree. -/
def sameWay (p q : Path) : Bool := p.components = q.components

/-- The last component, unless it leads up, stays or is the root. -/
def fileName? (p : Path) : Option (List UInt8) :=
  match p.components.getLast? with
  | some (.normal name) => some name
  | _ => none

/-- The bytes before and after the last dot. -/
def splitLastDot? (name : List UInt8) : Option (List UInt8 × List UInt8) :=
  match name with
  | [] => none
  | b :: rest =>
    match splitLastDot? rest with
    | some (before, after) => some (b :: before, after)
    | none => if b = dot then some ([], rest) else none

/-- Stem and extension of a file name. A dot that starts the name starts no extension. -/
def splitName (name : List UInt8) : List UInt8 × Option (List UInt8) :=
  match splitLastDot? name with
  | none => (name, none)
  | some ([], _) => (name, none)
  | some (before, after) => (before, some after)

def stem? (p : Path) : Option (List UInt8) := p.fileName?.map fun name => (splitName name).1

def extension? (p : Path) : Option (List UInt8) := p.fileName?.bind fun name => (splitName name).2

/-- Continues a path by another, which stands alone if it is absolute. -/
def join (p q : Path) : Path :=
  if q.isAbsolute then q
  else if p.bytes = [] ∨ p.bytes.getLast? = some slash then ⟨p.bytes ++ q.bytes⟩
  else ⟨p.bytes ++ slash :: q.bytes⟩

/-- Whether bytes come first in the order of their values. -/
def bytesLe : List UInt8 → List UInt8 → Bool
  | [], _ => true
  | _ :: _, [] => false
  | a :: as, b :: bs => if a = b then bytesLe as bs else a < b

/-- Position of the kinds of components in their order. -/
def Component.rank : Component → Nat
  | root => 0 | current => 1 | parent => 2 | normal _ => 3

def Component.le : Component → Component → Bool
  | normal a, normal b => bytesLe a b
  | a, b => a.rank ≤ b.rank

def componentsLe : List Component → List Component → Bool
  | [], _ => true
  | _ :: _, [] => false
  | a :: as, b :: bs => if a = b then componentsLe as bs else a.le b

/-- The order of paths: component by component. -/
def le (p q : Path) : Bool := componentsLe p.components q.components

end Path

end PluginHost
