import Scratchpad.Echo.Rules

/-!
The scan over the lines of a snippet. It keeps the depth of braces and parentheses, counted
character by character, and whether a line starts inside a block comment or a string that goes over
several lines.
-/

set_option autoImplicit false
set_option relaxedAutoImplicit false

namespace Scratchpad.Echo

/-- What a line starts inside of. -/
inductive Within where
  | code
  | blockComment
  | blockString (delimiter : Text)
  deriving DecidableEq, Repr

/-- What is known at the start of a line. -/
structure Scan where
  braces : Int := 0
  parens : Int := 0
  within : Within := .code
  deriving DecidableEq, Repr

namespace Scan

def atTop (s : Scan) : Bool :=
  s.braces ≤ 0 && s.parens ≤ 0

/-- Counts the braces and parentheses of a line, wherever they stand in it. -/
def countDepth (s : Scan) (line : Text) : Scan :=
  { s with
    braces := s.braces + (line.count '\x7b' : Int) - line.count '\x7d'
    parens := s.parens + (line.count '(' : Int) - line.count ')' }

/-- Whether a block comment is open at the end of a text, if it is open (or not) at the start; the
first `skip` characters are left out. -/
def commentAfter (opening closing : Text) (isOpen : Bool) : (skip : Nat) → Text → Bool
  | _, [] => isOpen
  | k + 1, _ :: t => commentAfter opening closing isOpen k t
  | 0, c :: t =>
    let mark := if isOpen then closing else opening
    if Text.startsWith mark (c :: t) then
      commentAfter opening closing (!isOpen) (mark.length - 1) t
    else commentAfter opening closing isOpen 0 t

/-- The delimiter of the string that is open at the end of a text, if any, given the one that is
open at its start; the first `skip` characters are left out. -/
def stringAfter (delimiters : List Text) (opened : Option Text) : (skip : Nat) → Text → Option Text
  | _, [] => opened
  | k + 1, _ :: t => stringAfter delimiters opened k t
  | 0, c :: t =>
    match opened with
    | some d =>
      if Text.startsWith d (c :: t) then stringAfter delimiters none (d.length - 1) t
      else stringAfter delimiters opened 0 t
    | none =>
      match Text.firstAt? delimiters (c :: t) with
      | some d => stringAfter delimiters (some d) (d.length - 1) t
      | none => stringAfter delimiters none 0 t

def trackComment (s : Scan) (rules : Rules) (line : Text) : Scan :=
  match rules.blockComment with
  | none => s
  | some (opening, closing) =>
    { s with
      within :=
        if commentAfter opening closing (s.within = .blockComment) 0 line then .blockComment
        else .code }

def trackString (s : Scan) (rules : Rules) (line : Text) : Scan :=
  let opened := match s.within with
    | .blockString d => some d
    | _ => none
  { s with
    within := match stringAfter rules.blockStrings opened 0 line with
      | some d => .blockString d
      | none => .code }

end Scan

end Scratchpad.Echo
