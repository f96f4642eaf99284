import Scratchpad.Json.Quoted

/-!
Literals that stand for a text in a program: in double quotes with the escapes of JSON, which
JavaScript and Python read too, and in single quotes as PHP and Ruby read them, where a backslash is
only needed before a quote or another backslash.
-/

set_option autoImplicit false
set_option relaxedAutoImplicit false

namespace Scratchpad.Literal

def json (t : Text) : Text :=
  '"' :: Json.Quoted.encode t ++ ['"']

def escapeSingle (c : Char) : Text :=
  if c = '\\' ∨ c = '\x27' then ['\\', c] else [c]

def singleQuoted (t : Text) : Text :=
  '\x27' :: t.flatMap escapeSingle ++ ['\x27']

end Scratchpad.Literal
