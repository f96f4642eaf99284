import Scratchpad.Text.Blank
import Scratchpad.Text.Letter
import Scratchpad.Text.Line

/-!
Probes. A probe is a line comment that starts with a dollar sign: what follows is an expression
whose value is wanted for that line. `Probe.extract` finds the probes of a snippet, at most one on
a line, by trying the comment markers of the line from the left.
-/

set_option autoImplicit false
set_option relaxedAutoImplicit false

namespace Scratchpad

/-- An expression whose value is wanted, and the line that asks for it. -/
structure Probe where
  line : Nat
  /-- The expression, without blanks around it. -/
  expression : Text
  deriving DecidableEq, Repr

namespace Probe

structure CommentStyle where
  markers : List Text
  /-- Whether a dollar sign right before a letter or an underscore belongs to the name of a
  variable, so that it stays with the expression. -/
  dollarIsSigil : Bool

/-- The expression asked for by a comment whose text, after the marker, is given. -/
def expression? (dollarIsSigil : Bool) (comment : Text) : Option Text :=
  match Text.trimStart comment with
  | '$' :: rest =>
    let isSigil := dollarIsSigil && match rest with
      | c :: _ => Text.isAlphabetic c || c == '_'
      | [] => false
    let e := if isSigil then '$' :: Text.trimEnd rest else Text.trim rest
    if e.isEmpty then none else some e
  | _ => none

/-- The first expression asked for on a line, after leaving out the first `skip` characters. A
marker that asks for nothing is passed over as a whole. -/
def searchFrom (style : CommentStyle) : (skip : Nat) → Text → Option Text
  | _, [] => none
  | k + 1, _ :: t => searchFrom style k t
  | 0, c :: t =>
    match Text.firstAt? style.markers (c :: t) with
    | none => searchFrom style 0 t
    | some m =>
      match expression? style.dollarIsSigil ((c :: t).drop m.length) with
      | some e => some e
      | none => searchFrom style (m.length - 1) t

def search? (style : CommentStyle) (line : Text) : Option Text :=
  searchFrom style 0 line

def collect (style : CommentStyle) : (number : Nat) → List Text → List Probe
  | _, [] => []
  | n, l :: ls =>
    match search? style l with
    | some e => ⟨n, e⟩ :: collect style (n + 1) ls
    | none => collect style (n + 1) ls

def extract (style : CommentStyle) (code : Text) : List Probe :=
  collect style 1 (Text.lines code)

end Probe

end Scratchpad
