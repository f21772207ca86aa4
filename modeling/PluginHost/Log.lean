import PluginHost.Text.Control

namespace PluginHost.Log

/-- Seriousness, most serious first. -/
inductive Level where
  | error | warn | info | debug | trace
  deriving DecidableEq, Repr

namespace Level

/-- Position in the order of seriousness, counted from one. -/
def rank : Level → Nat
  | error => 1 | warn => 2 | info => 3 | debug => 4 | trace => 5

def display : Level → String
  | error => "ERROR" | warn => "WARN" | info => "INFO" | debug => "DEBUG" | trace => "TRACE"

def debugText : Level → String
  | error => "Error" | warn => "Warn" | info => "Info" | debug => "Debug" | trace => "Trace"

def all : List Level := [error, warn, info, debug, trace]

end Level

/-- What a logger lets through: nothing, or everything up to a level. -/
inductive Filter where
  | off
  | upTo (level : Level)
  deriving DecidableEq, Repr

namespace Filter

def admits : Filter → Level → Bool
  | off, _ => false
  | upTo limit, level => level.rank ≤ limit.rank

/-- The more generous of two filters. -/
def max : Filter → Filter → Filter
  | off, g => g
  | f, off => f
  | upTo a, upTo b => if a.rank ≤ b.rank then upTo b else upTo a

def display : Filter → String
  | off => "OFF"
  | upTo level => level.display

def debugText : Filter → String
  | off => "Off"
  | upTo level => level.debugText

/-- A filter by its name, in upper or lower case. -/
def ofName? (name : String) : Option Filter :=
  let upper := name.map Char.toUpper
  if upper = "OFF" then some off
  else (Level.all.find? (·.display == upper)).map upTo

end Filter

/-- One line of the log. The target names the part of the program that wrote it. -/
structure Record where
  level : Level
  target : String
  text : String
  deriving DecidableEq, Repr

/-- The text of a record as it stands in the log, where its further lines are indented. -/
def Record.indented (r : Record) : String := "\n    ".intercalate (Text.split '\n' r.text)

/-- A record as it is read in the log. Its text brings no control sequences into the log. -/
def Record.line (r : Record) : String :=
  let shown := Text.withoutControls (r.level.display ++ " " ++ r.target ++ ": " ++ r.indented)
  "\n".intercalate (Text.lines shown)

/-- The records that a filter lets through. -/
def filter (limit : Filter) (records : List Record) : List Record :=
  records.filter fun record => limit.admits record.level

end PluginHost.Log
