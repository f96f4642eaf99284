import Scratchpad.Text.Basic

/-!
Outermost pairs of braces. Braces are paired like parentheses; inside a pair, what stands between
quotes does not count. `Braces.groups` gives the pairs that lie in no other pair, as ranges of
positions.
-/

set_option autoImplicit false
set_option relaxedAutoImplicit false

namespace Scratchpad.Braces

inductive Quotation where
  | outside
  | inside
  | escaped
  deriving DecidableEq, Repr

structure Scan where
  /-- The positions of the open braces, the innermost first. -/
  opens : List Nat := []
  /-- The ranges found so far, the latest first. -/
  groups : List (Nat × Nat) := []
  quotation : Quotation := .outside
  deriving DecidableEq, Repr

/-- Closes the pair that opens at a position; it swallows the ranges inside of it. -/
def close (groups : List (Nat × Nat)) (opened closed : Nat) : List (Nat × Nat) :=
  (opened, closed + 1) :: groups.dropWhile fun g => opened < g.1

def step (s : Scan) (position : Nat) (c : Char) : Scan :=
  match s.quotation with
  | .escaped => { s with quotation := .inside }
  | .inside =>
    if c = '\\' then { s with quotation := .escaped }
    else if c = '"' then { s with quotation := .outside }
    else s
  | .outside =>
    if c = '"' then (if s.opens.isEmpty then s else { s with quotation := .inside })
    else if c = '\x7b' then { s with opens := position :: s.opens }
    else if c = '\x7d' then
      match s.opens with
      | [] => s
      | o :: os => { s with opens := os, groups := close s.groups o position }
    else s

def run (s : Scan) : (position : Nat) → Text → Scan
  | _, [] => s
  | n, c :: t => run (step s n c) (n + 1) t

/-- The ranges of the outermost pairs, from the opening brace to behind the closing one, in
order. -/
def groups (t : Text) : List (Nat × Nat) :=
  (run {} 0 t).groups.reverse

def slice (t : Text) (range : Nat × Nat) : Text :=
  (t.drop range.1).take (range.2 - range.1)

end Scratchpad.Braces
