import Scratchpad.Json.Number
import Scratchpad.Json.Quoted

/-!
Tokens of a JSON text. The scanner takes one character at a time: `Scanner.step` says what a
character does to the tokens found so far and to the token that is still open. A run of digits,
signs, points and exponent letters is one numeral, and a run of letters is one word.
-/

set_option autoImplicit false
set_option relaxedAutoImplicit false

namespace Scratchpad.Json

/-- The smallest parts of a JSON text that carry meaning. -/
inductive Token where
  | openArray
  | closeArray
  | openObject
  | closeObject
  | comma
  | colon
  | word (t : Text)
  | numeral (t : Text)
  /-- A string, given by what stands between its quotes. -/
  | quoted (body : Text)
  deriving DecidableEq

/-- The token that the scanner has begun; its characters are kept latest first. -/
inductive Pending where
  | blank
  | word (acc : Text)
  | numeral (acc : Text)
  | quoted (acc : Text)
  /-- A string in which a backslash has just been read. -/
  | escaped (acc : Text)
  deriving DecidableEq

/-- What the scanner has found so far; the tokens are kept latest first. -/
structure Scanner where
  /-- The tokens that are complete, the latest first. -/
  found : List Token := []
  pending : Pending := .blank
  deriving DecidableEq

namespace Scanner

/-- The four blanks that may stand between tokens. -/
def isGap (c : Char) : Bool :=
  c == ' ' || c == '\t' || c == '\n' || c == '\r'

/-- The characters that numerals are made of, besides the exponent letters. -/
def isNumeralChar (c : Char) : Bool :=
  c.isDigit || c == '-' || c == '+' || c == '.'

def mark? (c : Char) : Option Token :=
  if c = '[' then some .openArray
  else if c = ']' then some .closeArray
  else if c = '{' then some .openObject
  else if c = '}' then some .closeObject
  else if c = ',' then some .comma
  else if c = ':' then some .colon
  else none

def start (found : List Token) (c : Char) : Option Scanner :=
  if isGap c then some ⟨found, .blank⟩
  else match mark? c with
    | some t => some ⟨t :: found, .blank⟩
    | none =>
      if c = '"' then some ⟨found, .quoted []⟩
      else if isNumeralChar c then some ⟨found, .numeral [c]⟩
      else if c.isLower then some ⟨found, .word [c]⟩
      else none

def step (s : Scanner) (c : Char) : Option Scanner :=
  match s.pending with
  | .blank => start s.found c
  | .word acc =>
    if c.isLower then some ⟨s.found, .word (c :: acc)⟩ else start (.word acc.reverse :: s.found) c
  | .numeral acc =>
    if isNumeralChar c || c == 'e' || c == 'E' then some ⟨s.found, .numeral (c :: acc)⟩
    else start (.numeral acc.reverse :: s.found) c
  | .quoted acc =>
    if c = '"' then some ⟨.quoted acc.reverse :: s.found, .blank⟩
    else if c = '\\' then some ⟨s.found, .escaped (c :: acc)⟩
    else some ⟨s.found, .quoted (c :: acc)⟩
  | .escaped acc => some ⟨s.found, .quoted (c :: acc)⟩

/-- The tokens found when the text ends, in order; none if it ends inside a string. -/
def finish? (s : Scanner) : Option (List Token) :=
  match s.pending with
  | .blank => some s.found.reverse
  | .word acc => some (.word acc.reverse :: s.found).reverse
  | .numeral acc => some (.numeral acc.reverse :: s.found).reverse
  | .quoted _ => none
  | .escaped _ => none

end Scanner

def Token.scan? (t : Text) : Option (List Token) :=
  t.foldlM Scanner.step {} >>= Scanner.finish?

end Scratchpad.Json
