import Scratchpad.Delivery
import Scratchpad.Files
import Scratchpad.Registry
import Scratchpad.Request
import Scratchpad.Settings

/-!
The engine: many runs under way at once. A run is registered, its script is prepared and written,
the interpreter is started and comes to an end, the outcome is decided, the script file is removed
or kept, and the registration is released. Each of these is one event, and so is each request to
cancel; `Engine.step?` says what an event does, or that it cannot happen now. Events of different
runs may come in any order.

A run looks at its signal before its script is written, while the interpreter runs, and when the
outcome is decided.
-/

set_option autoImplicit false
set_option relaxedAutoImplicit false

namespace Scratchpad

/-- What a request comes to. -/
abbrev Answer := Except SubmitFault Outcome

/-- How far a run has come. -/
inductive Phase where
  | registered
  /-- The script is made and the interpreter is known. -/
  | prepared (script : Script) (interpreter : Text)
  | written (script : Script) (interpreter : Text)
  | running (script : Script)
  /-- The interpreter has ended, or was stopped because the time was up. -/
  | ended (script : Script) (remains : Remains)
  /-- The outcome is settled; the script file is still to be removed or kept. -/
  | decided (outcome : Outcome) (keep : Bool)
  /-- Nothing is left to do but to release the registration. -/
  | leaving (answer : Answer)
  | over (answer : Answer)

/-- A run that got past its registration. -/
structure Run where
  request : Request
  registration : Registration
  phase : Phase

structure Engine where
  settings : Settings
  registry : Registry := {}
  files : Files
  runs : List Run := []

inductive Move where
  | prepare (interpreter : Text)
  /-- It writes its script file, unless the system refuses. It must refuse where the file cannot be
  written. -/
  | write (fault : Option Files.Fault)
  /-- It starts to write its script file, and the system refuses to go on. This is what the file holds
  then. -/
  | breakOff (part : Text) (fault : Files.Fault)
  | start (fault : Option Files.Fault)
  | close (remains : Remains)
  /-- Its interpreter is stopped because the run was asked to stop. -/
  | stop
  | decide
  /-- It removes or keeps its script file. -/
  | clean
  | leave

inductive Event where
  | submit (r : Request)
  /-- The run with this number, in the order of registration, makes a move. -/
  | advance (n : Nat) (m : Move)
  | cancel (id : RunId)
  | cancelAll

namespace Run

def isSignalled (r : Run) (reg : Registry) : Bool :=
  reg.isSignalled r.registration

def answer? (r : Run) : Option Answer :=
  match r.phase with
  | .over a => some a
  | _ => none

end Run

namespace Engine

def scriptName (id : RunId) (l : Language) : Text :=
  "runbox-".toList ++ id.simple ++ l.scriptExtension

def scriptPath (e : Engine) (r : Request) : Text :=
  Path.join e.settings.tempDir (scriptName r.id r.language)

def scriptOf (e : Engine) (r : Request) : Except Template.Fault Script :=
  Script.build r.language r.code r.probes (r.echo.getD e.settings.echo)
    (e.settings.packagesDir r.language)

def writeMessage (path : Text) (fault : Files.Fault) : Text :=
  "Failed to write script to ".toList ++ path ++ ": ".toList ++ fault.message

def startMessage (l : Language) (interpreter : Text) (fault : Files.Fault) : Text :=
  "Failed to start ".toList ++ l.name ++ " interpreter at ".toList ++ interpreter ++
    ": ".toList ++ fault.message

def enter (e : Engine) (n : Nat) (r : Run) (p : Phase) : Engine :=
  { e with runs := e.runs.set n { r with phase := p } }

/-- The phase after a run has made its script. A run that has been asked to stop leaves without
writing it. -/
def preparedPhase (e : Engine) (r : Run) (interpreter : Text) : Phase :=
  match e.scriptOf r.request with
  | .error f => .leaving (.error (.instrumentation f))
  | .ok script =>
    if r.isSignalled e.registry then .leaving (.ok .cancelled) else .prepared script interpreter

/-- What a move of a run does, if it can be made now. -/
def move? (e : Engine) (n : Nat) (r : Run) (m : Move) : Option Engine :=
  match m, r.phase with
  | .prepare interpreter, .registered => some (e.enter n r (e.preparedPhase r interpreter))
  | .write none, .prepared script interpreter =>
    if (e.files.writeFault? (e.scriptPath r.request)).isNone then
      some { e.enter n r (.written script interpreter) with
        files := e.files.write (e.scriptPath r.request) script.source }
    else none
  | .write (some f), .prepared _ _ =>
    some (e.enter n r
      (.decided (.finished (.ofError (writeMessage (e.scriptPath r.request) f))) false))
  | .breakOff part f, .prepared _ _ =>
    if (e.files.writeFault? (e.scriptPath r.request)).isNone then
      some { e.enter n r
          (.decided (.finished (.ofError (writeMessage (e.scriptPath r.request) f))) false) with
        files := e.files.write (e.scriptPath r.request) part }
    else none
  | .start none, .written script _ => some (e.enter n r (.running script))
  | .start (some f), .written _ interpreter =>
    some (e.enter n r
      (.decided (.finished (.ofError (startMessage r.request.language interpreter f))) false))
  | .close remains, .running script => some (e.enter n r (.ended script remains))
  | .stop, .running _ =>
    if r.isSignalled e.registry then some (e.enter n r (.decided .cancelled false)) else none
  | .decide, .ended script remains =>
    let (outcome, keep) :=
      deliver script.language script.probes remains (r.isSignalled e.registry)
    some (e.enter n r (.decided outcome keep))
  | .clean, .decided outcome keep =>
    some { e.enter n r (.leaving (.ok outcome)) with
      files := if keep then e.files else e.files.removeFile (e.scriptPath r.request) }
  | .leave, .leaving answer =>
    some { e.enter n r (.over answer) with registry := e.registry.release r.registration }
  | _, _ => none

/-- Submits a request: a run is registered, or the request is turned down because a run with its
identifier is in flight. -/
def submit (e : Engine) (r : Request) : Engine × Except SubmitFault Nat :=
  match e.registry.register r.id with
  | (reg, some g) =>
    ({ e with registry := reg, runs := e.runs ++ [⟨r, g, .registered⟩] }, .ok e.runs.length)
  | (reg, none) => ({ e with registry := reg }, .error (.duplicate r.id))

/-- Asks the run with this identifier to stop; says whether there was one. -/
def cancel (e : Engine) (id : RunId) : Engine × Bool :=
  let (reg, found) := e.registry.cancel id
  ({ e with registry := reg }, found)

def cancelAll (e : Engine) : Engine × Nat :=
  let (reg, count) := e.registry.cancelAll
  ({ e with registry := reg }, count)

/-- What an event does, if it can happen now. -/
def step? (e : Engine) : Event → Option Engine
  | .submit r => some (e.submit r).1
  | .advance n m => e.runs[n]? >>= fun r => e.move? n r m
  | .cancel id => some (e.cancel id).1
  | .cancelAll => some e.cancelAll.1

/-- The engines that an engine can become. -/
inductive Reachable (start : Engine) : Engine → Prop
  | refl : Reachable start start
  | step {e e' : Engine} (event : Event) :
      Reachable start e → e.step? event = some e' → Reachable start e'

def isRunning (e : Engine) (id : RunId) : Bool :=
  e.registry.tracks id

def inFlight (e : Engine) : Nat :=
  e.registry.size

end Engine

end Scratchpad
