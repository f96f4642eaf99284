import Scratchpad.Pattern

/-!
Reading patterns from their usual notation: characters, dots, classes in square brackets, the
classes of word characters, digits and blanks by a backslash and a letter, groups in parentheses,
bars between alternatives, and a star, a plus or a question mark for repetition. A pattern is
sought anywhere in a text unless a caret in front or a dollar sign at the end ties it down; the two
stand nowhere else.
-/

set_option autoImplicit false
set_option relaxedAutoImplicit false

namespace Scratchpad.Pattern.Source

def escaped? (c : Char) : Option CharSet :=
  if c = 'w' then some ⟨false, [.word]⟩
  else if c = 'd' then some ⟨false, [.decimal]⟩
  else if c = 's' then some ⟨false, [.blank]⟩
  else if c = 'W' then some ⟨true, [.word]⟩
  else if c = 'D' then some ⟨true, [.decimal]⟩
  else if c = 'S' then some ⟨true, [.blank]⟩
  else if c.isAlphanum then none
  else some (.of [c])

def parts? : (fuel : Nat) → Text → Option (List CharRange × Text)
  | 0, _ => none
  | _ + 1, ']' :: t => some ([], t)
  | fuel + 1, '\\' :: c :: t => do
    let s ← escaped? c
    if s.negated then none
    let (ps, r) ← parts? fuel t
    return (s.parts ++ ps, r)
  | fuel + 1, a :: '-' :: b :: t =>
    if b = ']' then (parts? fuel ('-' :: b :: t)).map fun (ps, r) => (.span a a :: ps, r)
    else if b < a then none
    else (parts? fuel t).map fun (ps, r) => (.span a b :: ps, r)
  | fuel + 1, a :: t => (parts? fuel t).map fun (ps, r) => (.span a a :: ps, r)
  | _ + 1, [] => none

/-- The class after its opening bracket, and what follows. A closing bracket in front is one of its
characters. -/
def class? (t : Text) : Option (CharSet × Text) :=
  let (negated, t) := match t with
    | '^' :: t => (true, t)
    | t => (false, t)
  match t with
  | ']' :: t => (parts? (t.length + 1) t).map fun (ps, r) => (⟨negated, .span ']' ']' :: ps⟩, r)
  | t => (parts? (t.length + 1) t).map fun (ps, r) => (⟨negated, ps⟩, r)

def repeated (p : Pattern) : Text → Pattern × Text
  | '*' :: t => repeated (.star p) t
  | '+' :: t => repeated (plus p) t
  | '?' :: t => repeated (optional p) t
  | t => (p, t)

def isSpecial (c : Char) : Bool :=
  ['(', ')', '[', '*', '+', '?', '\x7b', '|', '^', '$'].contains c

mutual

def alternatives? : (fuel : Nat) → Text → Option (Pattern × Text)
  | 0, _ => none
  | fuel + 1, t => do
    match ← sequence? fuel t with
    | (p, '|' :: t) =>
      let (q, t) ← alternatives? fuel t
      return (.alt p q, t)
    | (p, t) => return (p, t)

def sequence? : (fuel : Nat) → Text → Option (Pattern × Text)
  | 0, _ => none
  | fuel + 1, t =>
    match t with
    | [] => some (.empty, [])
    | ')' :: _ => some (.empty, t)
    | '|' :: _ => some (.empty, t)
    | t => do
      let (p, t) ← atom? fuel t
      let (p, t) := repeated p t
      let (q, t) ← sequence? fuel t
      return (if q = .empty then p else .seq p q, t)

def atom? : (fuel : Nat) → Text → Option (Pattern × Text)
  | 0, _ => none
  | fuel + 1, t =>
    match t with
    | '(' :: '?' :: ':' :: t => group? fuel t
    | '(' :: t => group? fuel t
    | '[' :: t => (class? t).map fun (s, t) => (.one s, t)
    | '.' :: t => some (.one .inLine, t)
    | '\\' :: c :: t => (escaped? c).map fun s => (.one s, t)
    | c :: t => if isSpecial c ∨ c = '\\' then none else some (.one (.of [c]), t)
    | [] => none

def group? : (fuel : Nat) → Text → Option (Pattern × Text)
  | 0, _ => none
  | fuel + 1, t => do
    match ← alternatives? fuel t with
    | (p, ')' :: t) => return (p, t)
    | _ => none

end

/-- Takes the dollar sign off the end, if there is one that no backslash escapes. -/
def splitEnd (t : Text) : Text × Bool :=
  match t.reverse with
  | '$' :: '\\' :: _ => (t, false)
  | '$' :: r => (r.reverse, true)
  | _ => (t, false)

end Source

/-- The pattern for the texts in which a notated pattern is found. -/
def read? (t : Text) : Option Pattern := do
  let (atStart, t) := match t with
    | '^' :: t => (true, t)
    | t => (false, t)
  let (t, atEnd) := Source.splitEnd t
  match ← Source.alternatives? (4 * t.length + 4) t with
  | (p, []) =>
    let p := if atStart then p else .seq anything p
    return if atEnd then p else .seq p anything
  | _ => none

end Scratchpad.Pattern
