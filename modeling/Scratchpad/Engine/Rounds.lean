import Scratchpad.Engine.Course

/-!
Runs that go on side by side. In each round every run makes its next move, in the order of
registration; a run whose interpreter does not end waits. Only when nothing else moves is the time
of the first run that waits up.
-/

set_option autoImplicit false
set_option relaxedAutoImplicit false

namespace Scratchpad

namespace Course

/-- Whether a run waits for an interpreter that only its time limit can end. -/
def waits (c : Course) (e : Engine) (r : Run) : Bool :=
  match r.phase, e.settings.timeLimit with
  | .running _, some 0 => false
  | .running script, _ =>
    match (c.behaviour (c.invocation e r.request script)).ending with
    | .never => !r.isSignalled e.registry
    | _ => false
  | _, _ => false

/-- The engine after the run with this number has made its next move, unless it waits. -/
def turn? (c : Course) (n : Nat) (e : Engine) : Option Engine := do
  let r ← e.runs[n]?
  if c.waits e r then none else c.advance? n e

/-- One round for the runs that take these courses, the first of them the run with number `n`; none
if no run moves. -/
def round? : (n : Nat) → List Course → Engine → Option Engine
  | _, [], _ => none
  | n, c :: cs, e =>
    match c.turn? n e with
    | some e => some ((round? (n + 1) cs e).getD e)
    | none => round? (n + 1) cs e

/-- The engine after the first of these runs that can move has moved, even if it waits. -/
def expire? : (n : Nat) → List Course → Engine → Option Engine
  | _, [], _ => none
  | n, c :: cs, e =>
    match c.advance? n e with
    | some e => some e
    | none => expire? (n + 1) cs e

end Course

namespace Engine

/-- Lets the runs take these courses, in the order of their registration, until the run with number
`n` is over or nothing moves any more, for at most the given number of rounds. -/
def settle (courses : List Course) (n : Nat) : (rounds : Nat) → Engine → Engine
  | 0, e => e
  | k + 1, e =>
    if (e.answer? n).isSome then e
    else
      match Course.round? 0 courses e with
      | some e => settle courses n k e
      | none =>
        match Course.expire? 0 courses e with
        | some e => settle courses n k e
        | none => e

def await (e : Engine) (courses : List Course) (n : Nat) : Engine :=
  e.settle courses n (Course.length * courses.length)

end Engine

end Scratchpad
