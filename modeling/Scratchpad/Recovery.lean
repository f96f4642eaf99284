import Scratchpad.Recovery.Braces
import Scratchpad.Recovery.Framed
import Scratchpad.Report.OfValue

/-!
Recovering a report from the streams of a run. The streams cannot be trusted: a report may be cut
off, mixed with other output or missing. `recover` always finds a report and says on which rung of
the ladder: framed, standard error, embedded without a frame, plain output, or nothing at all.
-/

set_option autoImplicit false
set_option relaxedAutoImplicit false

namespace Scratchpad

inductive Recovery where
  | framed
  | stderr
  /-- As an object that looks like a report, without a whole frame. -/
  | embedded
  | raw
  | empty
  deriving DecidableEq, Repr

namespace Recovery

def reportKeys : List Text :=
  ["output".toList, "error".toList, "probes".toList, "value".toList]

/-- The report that a text holds as an object with a key of a report. -/
def embeddedReport? (t : Text) : Option Report := do
  match ← Json.Value.read? t with
  | .object members =>
    if reportKeys.any fun k => members.any fun m => m.1 = k then Report.ofValue? (.object members)
    else none
  | _ => none

def embedded? (stdout : Text) : Option Report :=
  (Braces.groups stdout).findSome? fun g => embeddedReport? (Braces.slice stdout g)

def nothingLeft : Text :=
  "No output produced".toList

def trimLineEnds (t : Text) : Text :=
  Text.trimEndWhile (fun c => c == '\r' || c == '\n') t

/-- The report of a run that left no readable report: its output as one piece, with standard error
as the error, or else the error that there is nothing. -/
def plain (stdout err : Text) : Report × Recovery :=
  if Text.isAllBlank stdout then (.ofError nothingLeft, .empty)
  else
    ({ output := [.ofText (trimLineEnds stdout)]
       error := if err.isEmpty then none else some (.ofMessage err) }, .raw)

def recover (frame : Frame) (stdout stderr : Text) : Report × Recovery :=
  match frame.report? stdout with
  | some r => (r, .framed)
  | none =>
    let err := Text.trim stderr
    if Text.occurs frame.opening stdout then
      match embedded? stdout with
      | some r => (r, .embedded)
      | none => plain stdout err
    else if err.isEmpty then plain stdout err
    else (.ofError err, .stderr)

end Recovery

end Scratchpad
