import Scratchpad.Echo.Scan
import Scratchpad.Text.Line

/-!
Echoing the bare expressions of a snippet, line by line. A line is wrapped in an output call if it
is code at depth zero that neither assigns nor starts a statement, and if all of it, up to a
semicolon and a comment, is an expression. All other lines stay as they are.
-/

set_option autoImplicit false
set_option relaxedAutoImplicit false

namespace Scratchpad.Echo

namespace Rules

def isComment (rules : Rules) (t : Text) : Bool :=
  (Text.firstAt? rules.lineComments t).isSome

/-- The part of a text from the first line comment on. -/
def comment? (rules : Rules) : Text → Option Text
  | [] => none
  | c :: t => if rules.isComment (c :: t) then some (c :: t) else comment? rules t

def splitComment (rules : Rules) (t : Text) : Text × Option Text :=
  match rules.comment? t with
  | some c => (Text.trimEnd (t.take (t.length - c.length)), some c)
  | none => (t, none)

/-- Whether an equals sign is left when the operators that assign nothing are taken out. -/
def isAssignment (rules : Rules) (code : Text) : Bool :=
  (rules.nonAssignments.foldl (fun t op => Text.replace op [' '] t) code).any (· = '=')

def expressionOf (code : Text) : Text :=
  Text.trimEnd (if code.getLast? = some ';' then code.dropLast else code)

/-- Whether the code of a line may be a bare expression, judged by how it starts and ends and by its
operators. -/
def isCandidate (rules : Rules) (code : Text) : Bool :=
  !code.isEmpty &&
  !rules.blockOpeners.any (Text.endsWith · code) &&
  !rules.keywords.contains (Text.leadingWord code) &&
  !rules.outputCalls.any (Text.startsWith · code) &&
  !rules.isAssignment code

def call? (rules : Rules) (code : Text) : Option Text :=
  let e := expressionOf code
  match rules.expression with
  | none => none
  | some p =>
    if !e.isEmpty && p.accepts e then
      some (rules.wrap e (rules.simpleName.any (·.accepts e)) ++ rules.terminator)
    else none

/-- The echo of a line of code at depth zero, if it is a bare expression: the same indentation, the
output call, and the same comment. -/
def echoLine? (rules : Rules) (line : Text) : Option Text :=
  let indent := Text.indentation line
  let trimmed := Text.trim line
  if trimmed.head? = some '\x7b' ∨ trimmed.head? = some '\x7d' then none
  else if rules.topLevelOnly ∧ indent ≠ [] then none
  else
    let (code, comment) := rules.splitComment trimmed
    if rules.isCandidate code then
      (rules.call? code).map fun call =>
        indent ++ call ++ match comment with
          | some c => ' ' :: c
          | none => []
    else none

/-- What a line, given without its line end, does to the scan, and its echo if there is one. -/
def step (rules : Rules) (s : Scan) (line : Text) : Scan × Option Text :=
  let trimmed := Text.trim line
  let opensComment := match rules.blockComment with
    | some (opening, _) => Text.startsWith opening trimmed
    | none => false
  match s.within with
  | .blockString _ => (s.trackString rules line, none)
  | .blockComment => (s.trackComment rules trimmed, none)
  | .code =>
    if opensComment then (s.trackComment rules trimmed, none)
    else
      let counted := s.countDepth line
      if rules.isComment trimmed then (counted, none)
      else
        let s' := counted.trackString rules line
        if trimmed.isEmpty || !s.atTop || s'.within ≠ .code then (s', none)
        else (s', rules.echoLine? line)

def stepPiece (rules : Rules) (s : Scan) (piece : Text) : Scan × Text :=
  let (line, ret) := Text.splitReturn piece
  match rules.step s line with
  | (s, some echo) => (s, echo ++ ret)
  | (s, none) => (s, piece)

/-- The pieces of a snippet with their lines echoed, from a state of the scan on. -/
def transformPieces (rules : Rules) : Scan → List Text → List Text
  | _, [] => []
  | s, p :: ps =>
    let (s, p) := rules.stepPiece s p
    p :: transformPieces rules s ps

def transform (rules : Rules) (code : Text) : Text :=
  Text.joinPieces (rules.transformPieces {} (Text.pieces code))

end Rules

end Scratchpad.Echo
