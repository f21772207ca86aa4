import PluginHost.Log
import PluginHost.Text.Pattern

namespace PluginHost.Log

/-- The filter for the targets that begin in some way, or for all. -/
structure Limit where
  start? : Option String
  filter : Filter
  deriving DecidableEq, Repr

/-- What is wrong with a specification. -/
inductive SpecificationFault where
  /-- no level or no target can be read from this -/
  | piece (text : String)
  /-- more than one text follows a slash -/
  | slashes (specification : String)
  | pattern (fault : Text.Pattern.Fault)
  deriving DecidableEq, Repr

namespace SpecificationFault

def message : SpecificationFault → String
  | piece text => "invalid logging spec '" ++ text ++ "'"
  | slashes specification => "invalid logging spec '" ++ specification ++ "' (too many '/'s)"
  | pattern fault => "invalid regex filter - " ++ fault.message

def warning (f : SpecificationFault) : String := "warning: " ++ f.message ++ ", ignoring it"

end SpecificationFault

namespace Limit

/-- The beginning of the targets of a limit. -/
def start (l : Limit) : String := l.start?.getD ""

/--
One piece of a specification: the name of a filter, which is for all targets, or the beginning of
targets, which are taken whole unless an equality sign leads to the name of their filter.
-/
def ofPiece (piece : String) : Except SpecificationFault Limit :=
  match Text.split '=' piece with
  | [name] =>
    match Filter.ofName? name with
    | some filter => .ok ⟨none, filter⟩
    | none => .ok ⟨name, .upTo .trace⟩
  | [start, name] =>
    let name := Text.trim name
    if name = "" then .ok ⟨start, .upTo .trace⟩
    else match Filter.ofName? name with
      | some filter => .ok ⟨start, filter⟩
      | none => .error (.piece name)
  | _ => .error (.piece piece)

def fits (l : Limit) (target : String) : Bool := l.start.toList.isPrefixOf target.toList

/-- Adds a limit to others. It takes the place of one for the same targets. -/
def put : List Limit → Limit → List Limit
  | [], l => [l]
  | other :: rest, l => if other.start? = l.start? then l :: rest else other :: put rest l

end Limit

structure Selection where
  limits : List Limit
  /-- what has to occur in the text of a record -/
  pattern? : Option Text.Pattern
  deriving DecidableEq, Repr

namespace Selection

/-- The selection of one filter for all targets. -/
def all (filter : Filter) : Selection := ⟨[⟨none, filter⟩], none⟩

/-- The selection of limits; errors alone where there is no limit. -/
def ofLimits (limits : List Limit) (pattern? : Option Text.Pattern) : Selection :=
  ⟨if limits.isEmpty then (all (.upTo .error)).limits else limits, pattern?⟩

/-- The limits in comma-separated pieces, and what is wrong with the other pieces. -/
def limitsOf (text : String) : List Limit × List SpecificationFault :=
  let pieces := ((Text.split ',' text).map Text.trim).filter (· ≠ "")
  pieces.foldl
    (fun (limits, faults) piece =>
      match Limit.ofPiece piece with
      | .ok l => (Limit.put limits l, faults)
      | .error fault => (limits, faults ++ [fault]))
    ([], [])

/-- The selection that a text specifies, a pattern after a slash, and what cannot be taken from the text. -/
def ofText (text : String) : Selection × List SpecificationFault :=
  match Text.split '/' text with
  | [pieces] =>
    let (limits, faults) := limitsOf pieces
    (ofLimits limits none, faults)
  | [pieces, pattern] =>
    let (limits, faults) := limitsOf pieces
    match Text.Pattern.ofText pattern with
    | .ok pattern => (ofLimits limits (some pattern), faults)
    | .error fault => (ofLimits limits none, faults ++ [.pattern fault])
  | _ => (ofLimits [] none, [.slashes text])

/-- The filter for a target: the longest beginning counts, and of equals the last. -/
def filterFor (s : Selection) (target : String) : Filter :=
  let fitting := s.limits.filter (·.fits target)
  (fitting.foldl (fun best l => if best.start.length ≤ l.start.length then l else best)
    ⟨none, .off⟩).filter

/-- The filter that lets through whatever is taken of any target. -/
def widest (s : Selection) : Filter := s.limits.foldl (fun widest l => widest.max l.filter) .off

/-- Whether a record is taken. -/
def takes (s : Selection) (r : Record) : Bool :=
  (s.filterFor r.target).admits r.level && s.pattern?.all (·.occursIn r.text)

def select (s : Selection) (records : List Record) : List Record := records.filter s.takes

end Selection

end PluginHost.Log
