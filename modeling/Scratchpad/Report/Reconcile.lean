import Scratchpad.Report

/-!
Reconciling the readings of a run with the probes that were asked for: in the end every line that
was reported or asked for has one reading, and the lines increase.
-/

set_option autoImplicit false
set_option relaxedAutoImplicit false

namespace Scratchpad.Reading

def backfill (rs : List Reading) (p : Probe) : List Reading :=
  if rs.any (·.line = p.line) then rs else rs ++ [.unevaluated p]

/-- Leaves out the readings up to the first one of another line than `line`, and from there on those
that repeat the line before them. -/
def dropRepeatsOf (line : Nat) : List Reading → List Reading
  | [] => []
  | r :: rs => if r.line = line then dropRepeatsOf line rs else r :: dropRepeatsOf r.line rs

def dropRepeats : List Reading → List Reading
  | [] => []
  | r :: rs => r :: dropRepeatsOf r.line rs

/-- The readings in the order of their lines, one for each line: the first that was reported, or
that the probe of the first request was not evaluated. -/
def reconcile (requested : List Probe) (reported : List Reading) : List Reading :=
  dropRepeats ((requested.foldl backfill reported).mergeSort fun a b => a.line ≤ b.line)

end Scratchpad.Reading
