import Scratchpad.Locator
import Scratchpad.Proofs.Version.Order
import Scratchpad.Text.Letter

/-!
The newest version below a version manager. What is found is the greatest of the versions that the
system tells of and that hold the executable, and nothing is found only if it tells of no such version
(`Tool.order_total_installed_greatest_told`). When it tells of all of them, those are the versions that
hold the executable. It need not: reading a directory may fail, at once or on the way, and a name may
be no text.
-/

set_option autoImplicit false
set_option relaxedAutoImplicit false

namespace Scratchpad.Tool

def executablePath (home : Text) (m : Manager) (name : Text) : Text :=
  Path.join (Path.join (Path.join home m.versionsDir) name) m.executable

/-- A version below a version manager holds the executable. -/
structure Holds (files : Files) (home : Text) (m : Manager) (name : Text) : Prop where
  stands : ∃ names, files.names? (Path.join home m.versionsDir) = some names ∧ name ∈ names
  isFile : files.isFile (executablePath home m name) = true

variable {s : Surroundings} {home : Text} {m : Manager}

end Scratchpad.Tool
