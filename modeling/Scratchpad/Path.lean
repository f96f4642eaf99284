import Scratchpad.Text.Line

/-!
Paths as texts with slashes. A path with a slash in front is absolute; empty components and single
dots name nothing.
-/

set_option autoImplicit false
set_option relaxedAutoImplicit false

namespace Scratchpad.Path

def isAbsolute (p : Text) : Bool :=
  Text.startsWith ['/'] p

/-- The path `p` seen from the directory `base`; an absolute path stays as it is. -/
def join (base p : Text) : Text :=
  if isAbsolute p then p
  else if base.isEmpty ∨ base.getLast? = some '/' then base ++ p
  else base ++ '/' :: p

def components (p : Text) : List Text :=
  (p.splitOn '/').filter fun c => c ≠ [] ∧ c ≠ ['.']

/-- The last component of a path, unless it leads upwards. -/
def fileName? (p : Text) : Option Text :=
  match (components p).getLast? with
  | some c => if c = ['.', '.'] then none else some c
  | none => none

/-- What follows the last dot of the file name. A dot in front does not count. -/
def extension? (p : Text) : Option Text := do
  let name ← fileName? p
  let tail := name.reverse.takeWhile (· ≠ '.')
  match name.reverse.dropWhile (· ≠ '.') with
  | [] => none
  | [_] => none
  | _ => return tail.reverse

def splitList (t : Text) : List Text :=
  t.splitOn ':'

/-- A list of directories with colons between them; a directory with a colon in it cannot be
listed. -/
def joinList? (ds : List Text) : Option Text :=
  if ds.any (·.contains ':') then none else some (List.intercalate [':'] ds)

end Scratchpad.Path
