import PluginHost.Toml.Moment

namespace PluginHost.Toml

/-- The key that makes a table stand for a date or a time. -/
def momentKey : String := "$__toml_private_datetime"

/-- The value under the reserved key, in a table that stands for a moment. -/
def Table.tag? : Table → Option Value
  | (key, value) :: _ => if key = momentKey then some value else none
  | [] => none

mutual

/-- A value with its tagged tables replaced by their moments. There is none if a tag says no moment. -/
def Value.untag? : Value → Option Value
  | .array items => (untagItems? items).map .array
  | .table entries =>
    match Table.tag? entries with
    | some tag => (tag.asString?.bind Moment.ofText?).map .moment
    | none => (untagEntries? entries).map .table
  | value => some value

def untagItems? : List Value → Option (List Value)
  | [] => some []
  | item :: rest => do
    let item ← item.untag?
    let rest ← untagItems? rest
    some (item :: rest)

def untagEntries? : List (String × Value) → Option (List (String × Value))
  | [] => some []
  | (key, value) :: rest => do
    let value ← value.untag?
    let rest ← untagEntries? rest
    some ((key, value) :: rest)

end

/-- A table with the tagged tables inside it replaced by their moments. It is no moment itself. -/
def Table.untag? (table : Table) : Option Table := untagEntries? table

end PluginHost.Toml
