import Scratchpad.Conventions
import Scratchpad.Recovery
import Scratchpad.Report.Reconcile

/-!
What is delivered when a run has ended. A run that was asked to stop delivers nothing, whatever it
left behind. Otherwise the recovered report gets the statistics of the run, a reading for every line
that asked for one, and the error that the time was up if it was.
-/

set_option autoImplicit false
set_option relaxedAutoImplicit false

namespace Scratchpad

inductive Outcome where
  | finished (r : Report)
  | cancelled

/-- What an interpreter left behind. -/
structure Remains where
  stdout : Text
  stderr : Text
  /-- The exit code; none if the interpreter did not exit by itself. -/
  exitCode : Option Int32
  /-- The limit in milliseconds at which the run was stopped, if it was. -/
  timedOut : Option Nat
  nanoseconds : Nat

namespace Delivery

def timeoutMessage (milliseconds : Nat) : Text :=
  "Execution timed out after ".toList ++ Nat.toDigits 10 milliseconds ++ "ms".toList

/-- Whether a report was written by the script itself, in whole. -/
def isReported : Recovery → Bool
  | .framed => true
  | .embedded => true
  | .stderr => false
  | .raw => false
  | .empty => false

/-- The error of a run: that the time was up if it was, unless the script reported one itself. -/
def errorOf (r : Report) (how : Recovery) (timedOut : Option Nat) : Option Fault :=
  match timedOut with
  | none => r.error
  | some limit =>
    if r.error.isNone || !isReported how then some (.ofMessage (timeoutMessage limit)) else r.error

def isRejected (l : Language) (how : Recovery) (stderr : Text) : Bool :=
  how ≠ .framed && l.fatalMarkers.any (Text.occurs · stderr)

end Delivery

/-- What a run comes to, and whether its script is worth keeping because the interpreter turned it
down. -/
def deliver (l : Language) (probes : List Probe) (remains : Remains) (asked : Bool) :
    Outcome × Bool :=
  if asked then (.cancelled, false)
  else
    let (r, how) := Recovery.recover l.frame remains.stdout remains.stderr
    let report := { r with
      error := Delivery.errorOf r how remains.timedOut
      probes := Reading.reconcile probes r.probes
      stats := some ⟨remains.nanoseconds, remains.exitCode⟩ }
    (.finished report, Delivery.isRejected l how remains.stderr)

end Scratchpad
