import Scratchpad.RunId
import Scratchpad.Script

/-!
Requests: snippets to be run, and what may be wrong with a request before anything runs.
-/

set_option autoImplicit false
set_option relaxedAutoImplicit false

namespace Scratchpad

structure Request where
  id : RunId
  language : Language
  code : Text
  probes : List Probe
  /-- Whether bare expressions are echoed; none leaves it to the engine. -/
  echo : Option Bool

inductive SubmitFault where
  | instrumentation (f : Template.Fault)
  | duplicate (id : RunId)

def SubmitFault.message : SubmitFault → Text
  | .instrumentation f => "failed to instrument snippet: ".toList ++ f.message
  | .duplicate id => "execution ".toList ++ id.hyphenated ++ " is already running".toList

/-- A request for a snippet, with the probes that are found in it. -/
def Request.ofSnippet (id : RunId) (l : Language) (code : Text) : Request where
  id := id
  language := l
  code := code
  probes := l.probes code
  echo := none

end Scratchpad
