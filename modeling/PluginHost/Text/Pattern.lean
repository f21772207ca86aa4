import PluginHost.Text.Pattern.Machine
import PluginHost.Text.Pattern.Meaning
import PluginHost.Text.Pattern.Reader
import PluginHost.Text.Pattern.Spelling

namespace PluginHost.Text.Pattern

/-- A pattern, unless it needs more than there is to match it. -/
def granted (p : Pattern) : Except Fault Pattern :=
  if p.isLookedFor then .ok p
  else if p.isTooLarge false then .error (.size Machine.sizeLimit)
  else if p.asksWords then .error .wordEdge
  else if p.isTooLarge true then .error (.size Machine.sizeLimit)
  else .ok p

/-- The pattern that a text describes. -/
def ofText (text : String) : Except Fault Pattern :=
  match Tree.ofText text >>= Tree.meaning with
  | .error report => .error (.mistake report text)
  | .ok p => p.granted

end PluginHost.Text.Pattern
