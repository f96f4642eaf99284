import Scratchpad.Harness

/-!
The variables that make an interpreter find the packages of a language. A search path keeps what the
variable holds already and puts the directory of the packages in front.
-/

set_option autoImplicit false
set_option relaxedAutoImplicit false

namespace Scratchpad

/-- The variables that are set, with their contents. -/
abbrev Environment := List (Text × Text)

namespace SearchPath

/-- A search path with a directory in front. A directory that cannot be listed stands alone. -/
def prepend (dir : Text) (existing : Option Text) : Text :=
  let rest := match existing with
    | some list => Path.splitList list
    | none => []
  (Path.joinList? (dir :: rest)).getD dir

end SearchPath

namespace Language

def packageVariables (l : Language) (packagesDir : Text) (env : Environment) : Environment :=
  let extended (name : Text) : Text × Text :=
    (name, SearchPath.prepend (l.modulesDir packagesDir) (env.lookup name))
  match l with
  | .javaScript => [extended "NODE_PATH".toList]
  | .python =>
    [extended "PYTHONPATH".toList, ("PYTHONIOENCODING".toList, "utf-8".toList)]
  | .php => []
  | .ruby => [extended "GEM_PATH".toList]

end Language

end Scratchpad
