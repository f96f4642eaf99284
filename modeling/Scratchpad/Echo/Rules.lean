import Scratchpad.Pattern

/-!
Rules for echoing bare expressions. To echo an expression is to wrap it in a call that puts out its
value. The rules of a language say how its lines are judged: what comments, strings and blocks look
like, which lines are statements, and which texts are expressions.
-/

set_option autoImplicit false
set_option relaxedAutoImplicit false

namespace Scratchpad.Echo

/-- How the lines of a language are judged and expressions are wrapped. -/
structure Rules where
  lineComments : List Text
  blockComment : Option (Text × Text)
  blockStrings : List Text
  keywords : List Text
  /-- The operators with an equals sign that assign nothing, in the order in which they are taken
  out of a line. -/
  nonAssignments : List Text
  /-- The ends of lines that open a block or go on. -/
  blockOpeners : List Text
  outputCalls : List Text
  topLevelOnly : Bool
  /-- The texts that are bare expressions; without a pattern no line is echoed. -/
  expression : Option Pattern
  simpleName : Option Pattern
  wrap : Text → Bool → Text
  terminator : Text

namespace Rules

def enabled (r : Rules) : Bool :=
  r.expression.isSome

end Rules

end Scratchpad.Echo
