import Scratchpad.Text.Blank
import Scratchpad.Text.Letter

/-!
Patterns for whole texts. `Matches` says which texts a pattern stands for; `accepts` decides it by
reading the text once, keeping the set of patterns that the rest of the text may still match. Each
of these residuals is made of parts of the pattern, so their number does not grow with the text.
-/

set_option autoImplicit false
set_option relaxedAutoImplicit false

namespace Scratchpad

inductive CharRange where
  | span (low high : Char)
  | word
  /-- The decimal digits of any script. -/
  | decimal
  | blank
  deriving DecidableEq, Repr

/-- A set of characters, given by its parts or by those of its complement. -/
structure CharSet where
  /-- Whether the parts say what is not in the set. -/
  negated : Bool
  parts : List CharRange
  deriving DecidableEq, Repr

namespace CharRange

def has : CharRange → Char → Bool
  | .span low high, c => low ≤ c && c ≤ high
  | .word, c => Text.isWord c
  | .decimal, c => Text.isDecimal c
  | .blank, c => Text.isBlank c

end CharRange

namespace CharSet

def has (s : CharSet) (c : Char) : Bool :=
  s.parts.any (·.has c) != s.negated

def of (t : Text) : CharSet :=
  ⟨false, t.map fun c => .span c c⟩

def except (t : Text) : CharSet :=
  ⟨true, t.map fun c => .span c c⟩

def lettersAnd (t : Text) : CharSet :=
  ⟨false, .span 'A' 'Z' :: .span 'a' 'z' :: t.map fun c => .span c c⟩

def wordAnd (t : Text) : CharSet :=
  ⟨false, .word :: t.map fun c => .span c c⟩

def decimalAnd (t : Text) : CharSet :=
  ⟨false, .decimal :: t.map fun c => .span c c⟩

def blanks : CharSet :=
  ⟨false, [.blank]⟩

def inLine : CharSet :=
  except ['\n']

end CharSet

/-- A pattern for whole texts. -/
inductive Pattern where
  | empty
  | one (s : CharSet)
  | seq (p q : Pattern)
  | alt (p q : Pattern)
  | star (p : Pattern)
  deriving DecidableEq, Repr

namespace Pattern

/-- The texts that a pattern stands for. -/
inductive Matches : Pattern → Text → Prop
  | empty : Matches .empty []
  | one {s : CharSet} {c : Char} : s.has c = true → Matches (.one s) [c]
  | seq {p q : Pattern} {t u : Text} : Matches p t → Matches q u → Matches (.seq p q) (t ++ u)
  | left {p q : Pattern} {t : Text} : Matches p t → Matches (.alt p q) t
  | right {p q : Pattern} {t : Text} : Matches q t → Matches (.alt p q) t
  | none {p : Pattern} : Matches (.star p) []
  | more {p : Pattern} {t u : Text} :
      Matches p t → Matches (.star p) u → Matches (.star p) (t ++ u)

/-- Whether a pattern stands for the empty text too. -/
def nullable : Pattern → Bool
  | .empty => true
  | .one _ => false
  | .seq p q => nullable p && nullable q
  | .alt p q => nullable p || nullable q
  | .star _ => true

/-- One pattern after another; nothing stays in front for an empty one. -/
def followedBy : Pattern → Pattern → Pattern
  | .empty, q => q
  | p, q => .seq p q

/-- The patterns for what may follow a character. -/
def residuals : Pattern → Char → List Pattern
  | .empty, _ => []
  | .one s, c => if s.has c then [.empty] else []
  | .seq p q, c =>
    (residuals p c).map (followedBy · q) ++ if nullable p then residuals q c else []
  | .alt p q, c => residuals p c ++ residuals q c
  | .star p, c => (residuals p c).map (followedBy · (.star p))

def advance (ps : List Pattern) (c : Char) : List Pattern :=
  (ps.flatMap (residuals · c)).eraseDups

def accepts (p : Pattern) (t : Text) : Bool :=
  (t.foldl advance [p]).any nullable

def chain : List Pattern → Pattern
  | [] => .empty
  | [p] => p
  | p :: ps => .seq p (chain ps)

def oneOf (p : Pattern) : List Pattern → Pattern
  | [] => p
  | q :: ps => .alt p (oneOf q ps)

def optional (p : Pattern) : Pattern :=
  .alt p .empty

def plus (p : Pattern) : Pattern :=
  .seq p (.star p)

def anyOf (t : Text) : Pattern :=
  .one (.of t)

def word (t : Text) : Pattern :=
  chain (t.map fun c => .one (.of [c]))

def anything : Pattern :=
  .star (.one ⟨true, []⟩)

end Pattern

end Scratchpad
