import Scratchpad.Text.Basic

/-!
Templates: texts with placeholders, which are names between pairs of at signs. Rendering puts a text
in the place of each and never looks into what it has put in.
-/

set_option autoImplicit false
set_option relaxedAutoImplicit false

namespace Scratchpad.Template

inductive Fault where
  | unterminated
  | unknown (name : Text)
  deriving DecidableEq, Repr

def Fault.message : Fault → Text
  | .unterminated => "unterminated template placeholder".toList
  | .unknown name => "unknown template placeholder `".toList ++ name ++ ['\x60']

/-- Where rendering stands in a template. -/
inductive Place where
  | between
  /-- In a placeholder, of whose name these characters have been read, the latest first. -/
  | inside (name : Text)

def renderFrom (values : List (Text × Text)) : Place → Text → Except Fault Text
  | .between, [] => .ok []
  | .between, '@' :: '@' :: t => renderFrom values (.inside []) t
  | .between, c :: t => (renderFrom values .between t).map (c :: ·)
  | .inside _, [] => .error .unterminated
  | .inside name, '@' :: '@' :: t =>
    match values.lookup name.reverse with
    | some v => (renderFrom values .between t).map (v ++ ·)
    | none => .error (.unknown name.reverse)
  | .inside name, c :: t => renderFrom values (.inside (c :: name)) t

/-- Renders a template: each placeholder gives way to the first text with its name. -/
def render (template : Text) (values : List (Text × Text)) : Except Fault Text :=
  renderFrom values .between template

end Scratchpad.Template
