import Scratchpad.Text.Basic

/-!
Lines of a text. A text is cut at its line feeds into *pieces*; a piece may end in a carriage
return, which belongs to the line end and not to the line. `joinPieces` puts the pieces together
again.
-/

set_option autoImplicit false
set_option relaxedAutoImplicit false

namespace Scratchpad.Text

/-- The parts of a text between its line feeds: one more than it has line feeds. -/
def pieces (t : Text) : List Text :=
  t.splitOn '\n'

def joinPieces (ps : List Text) : Text :=
  List.intercalate ['\n'] ps

/-- A piece without the carriage return at its end, and that carriage return. -/
def splitReturn (p : Text) : Text × Text :=
  if p.getLast? = some '\r' then (p.dropLast, ['\r']) else (p, [])

/-- The lines of a text: what stands before each line end, which is a line feed or a carriage return
and a line feed, and what stands after the last one unless that is empty. -/
def lines (t : Text) : List Text :=
  let ps := pieces t
  ps.dropLast.map (fun p => (splitReturn p).1) ++ ps.getLast?.toList.filter (· ≠ [])

def ofLines (ls : List String) : Text :=
  ls.flatMap fun l => l.toList ++ ['\n']

theorem splitReturn_append (p : Text) : (splitReturn p).1 ++ (splitReturn p).2 = p := by
  unfold splitReturn
  split
  · next h =>
    obtain ⟨l, rfl⟩ := List.getLast?_eq_some_iff.1 h
    simp
  · simp

end Scratchpad.Text
