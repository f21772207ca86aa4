import PluginHost.Text.Blank

namespace PluginHost.Log

/-- What is before and after the first end of brackets. A blank follows the end. -/
def cutAtBracket : List Char → Option (List Char × List Char)
  | ']' :: ' ' :: rest => some ([], rest)
  | c :: rest => (cutAtBracket rest).map fun (head, text) => (c :: head, text)
  | [] => none

/-- The words of a text, between its blanks. -/
def words (cs : List Char) : List (List Char) :=
  (Text.splitAt ' ' (cs.map fun c => if Text.isBlank c then ' ' else c)).filter (· ≠ [])

/-- What the entry begins with that a line begins, if it begins one. The time is left out. -/
def beginning? (line : String) : Option String :=
  match line.toList with
  | '[' :: rest => do
    let (head, text) ← cutAtBracket rest
    match words head with
    | [_, level, target] => some (String.ofList (level ++ ' ' :: target ++ ':' :: ' ' :: text))
    | _ => none
  | _ => none

/-- The entries that have been read, the last first, and one line more. -/
def withLine (read : List String) (line : String) : List String :=
  match beginning? line, read with
  | some entry, read => entry :: read
  | none, last :: before => (last ++ "\n" ++ line) :: before
  | none, [] => [line]

/-- The entries in some lines. A line that begins no entry belongs to the one before it. -/
def entries (lines : List String) : List String := (lines.foldl withLine []).reverse

end PluginHost.Log
