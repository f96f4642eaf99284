import Scratchpad.Report.OfTree
import Scratchpad.Text.Blank

/-!
The frame around a report on standard output: a line with the opening mark, the report, and a line
that starts with the closing mark. Anything may stand around the frame, and an opening mark that
opens no readable report is passed over.
-/

set_option autoImplicit false
set_option relaxedAutoImplicit false

namespace Scratchpad

/-- The two marks around a report. -/
structure Frame where
  /-- The mark on the line before the report. -/
  opening : Text
  /-- The mark at the start of the line after the report. -/
  closing : Text
  deriving DecidableEq

namespace Frame

/-- What follows the line break at the start of a text: a line feed, with or without a carriage
return before it. -/
def afterBreak? : Text → Option Text
  | '\n' :: t => some t
  | '\r' :: '\n' :: t => some t
  | _ => none

/-- What stands before the first line that starts with `w`, less its line feed. -/
def beforeLine? (w t : Text) : Option Text :=
  if Text.startsWith w t then some [] else (Text.cut? ('\n' :: w) t).map Prod.fst

/-- The report framed by an opening mark, given what follows the mark. -/
def reportAfter? (frame : Frame) (rest : Text) : Option Report := do
  let body ← afterBreak? rest
  let inner ← beforeLine? frame.closing body
  Report.read? (Text.trim inner)

/-- The first framed report in a text, after leaving out the first `skip` characters. -/
def searchFrom (frame : Frame) : (skip : Nat) → Text → Option Report
  | _, [] => none
  | k + 1, _ :: t => searchFrom frame k t
  | 0, c :: t =>
    match Text.after? frame.opening (c :: t) with
    | none => searchFrom frame 0 t
    | some rest =>
      match frame.reportAfter? rest with
      | some r => some r
      | none => searchFrom frame (frame.opening.length - 1) t

def report? (frame : Frame) (stdout : Text) : Option Report :=
  frame.searchFrom 0 stdout

end Frame

end Scratchpad
