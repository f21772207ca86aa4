import PluginHost.Config.Basic

namespace PluginHost.Toml.Value

/-- A text, or the text of a date. -/
def text? : Value → Option String
  | string text => some text
  | moment m => some m.text
  | _ => none

/-- An integer of one byte. -/
def byte? (v : Value) : Option UInt8 := do
  let n ← v.asInt?
  if 0 ≤ n.toInt ∧ n.toInt ≤ 255 then some (UInt8.ofNat n.toInt.toNat) else none

def texts? : Value → Option (List String)
  | array items => items.mapM text?
  | _ => none

def ints? : Value → Option (List Int64)
  | array items => items.mapM asInt?
  | _ => none

def intTable? : Value → Option (List (String × Int64))
  | table entries => entries.mapM fun (key, value) => value.asInt?.map (key, ·)
  | _ => none

/-- A plugin configuration: a table, or an array of no more than its three fields. -/
def pluginConfig? : Value → Option PluginConfig
  | table entries => PluginConfig.ofTable? text? entries
  | array items => if items.length ≤ 3 then PluginConfig.ofItems? text? items else none
  | _ => none

end PluginHost.Toml.Value
