import Scratchpad.Engine
import Scratchpad.SearchPath

/-!
The course of a run: how it goes from move to move when the system answers in a known way. A run
goes on until it is over, or until its interpreter neither ends nor is stopped.
-/

set_option autoImplicit false
set_option relaxedAutoImplicit false

namespace Scratchpad

/-- How an interpreter is called. -/
structure Invocation where
  program : Text
  /-- The arguments, the path of the script file last. -/
  arguments : List Text
  environment : Environment
  script : Script

inductive Ending where
  | exits (code : Int32)
  | killed
  | never

/-- What an interpreter does. Its streams are made up only when they are read. -/
structure Behaviour where
  stdout : Thunk Text
  stderr : Thunk Text
  ending : Ending

namespace Behaviour

/-- What is left behind when the time limit in milliseconds is kept: none if nothing ends the
interpreter. A limit of zero is up before anything is put out. -/
def remains? (b : Behaviour) (limit : Option Nat) : Option Remains :=
  match limit, b.ending with
  | some 0, _ => some ⟨[], [], none, some 0, 0⟩
  | _, .exits code => some ⟨b.stdout.get, b.stderr.get, some code, none, 0⟩
  | _, .killed => some ⟨b.stdout.get, b.stderr.get, none, none, 0⟩
  | some limit, .never => some ⟨b.stdout.get, b.stderr.get, none, some limit, 0⟩
  | none, .never => none

end Behaviour

/-- How the system treats a run. -/
structure Course where
  interpreter : Text
  environment : Environment
  startFault : Invocation → Option Files.Fault
  behaviour : Invocation → Behaviour

namespace Course

def invocation (c : Course) (e : Engine) (r : Request) (script : Script) : Invocation where
  program := c.interpreter
  arguments := script.language.interpreterFlags ++ [e.scriptPath r]
  environment :=
    script.language.packageVariables (e.settings.packagesDir script.language) c.environment ++
      c.environment
  script := script

def move? (c : Course) (e : Engine) (r : Run) : Option Move :=
  match r.phase with
  | .registered => some (.prepare c.interpreter)
  | .prepared _ _ => some (.write (e.files.writeFault? (e.scriptPath r.request)))
  | .written script _ => some (.start (c.startFault (c.invocation e r.request script)))
  | .running script =>
    if r.isSignalled e.registry then some .stop
    else
      ((c.behaviour (c.invocation e r.request script)).remains? e.settings.timeLimit).map .close
  | .ended _ _ => some .decide
  | .decided _ _ => some .clean
  | .leaving _ => some .leave
  | .over _ => none

/-- The engine after the run with this number has made its next move. -/
def advance? (c : Course) (n : Nat) (e : Engine) : Option Engine := do
  let r ← e.runs[n]?
  e.step? (.advance n (← c.move? e r))

/-- The number of moves from registration to the end. -/
def length : Nat := 7

def follow (c : Course) (n : Nat) : (moves : Nat) → Engine → Engine
  | 0, e => e
  | k + 1, e =>
    match c.advance? n e with
    | some e => follow c n k e
    | none => e

end Course

namespace Engine

def proceed (e : Engine) (n : Nat) (c : Course) : Engine :=
  c.follow n Course.length e

def answer? (e : Engine) (n : Nat) : Option Answer :=
  e.runs[n]? >>= Run.answer?

end Engine

end Scratchpad
