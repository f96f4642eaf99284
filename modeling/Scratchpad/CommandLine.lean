import Scratchpad.CommandLine.Usage
import Scratchpad.Engine.Course
import Scratchpad.Json.Layout
import Scratchpad.Locator

/-!
The command line: what is printed, and with which exit code, when arguments are given on a known
system. A run prints its report as JSON; a search prints what would be used for a language.
-/

set_option autoImplicit false
set_option relaxedAutoImplicit false

namespace Scratchpad.CommandLine

/-- The system on which a command is carried out. -/
structure Machine where
  user : User
  surroundings : Surroundings
  id : RunId
  startFault : Invocation → Option Files.Fault
  behaviour : Invocation → Behaviour
  /-- The milliseconds after which the user interrupts a run that is still going on. -/
  interruptAfter : Option Nat

structure Printed where
  exitCode : Nat
  stdout : Text
  stderr : Text
  files : Files

namespace Printed

def ok (m : Machine) (out : Text) : Printed :=
  ⟨0, out, [], m.surroundings.files⟩

def failed (m : Machine) (message : Text) : Printed :=
  ⟨1, [], "Error: ".toList ++ message ++ ['\n'], m.surroundings.files⟩

def failedBecause (m : Machine) (message reason : Text) : Printed :=
  failed m (message ++ "\n\nCaused by:\n    ".toList ++ reason)

end Printed

def interruptedCode : Nat := 130

/-- Whether the user interrupts a run before the time is up. -/
def interrupts (m : Machine) (limit : Option Nat) : Bool :=
  match m.interruptAfter, limit with
  | none, _ => false
  | some _, none => true
  | some t, some limit => t < limit

/-- Lets a run go on to its end; if the user interrupts it, it is cancelled once its interpreter has
started. -/
def conclude (m : Machine) (c : Course) (e : Engine) (n : Nat) (id : RunId) : Engine :=
  if interrupts m e.settings.timeLimit then ((c.follow n 3 e).cancel id).1.proceed n c
  else e.proceed n c

def reportText (r : Report) (pretty : Bool) : Text :=
  (if pretty then r.toTree.indented 0 else r.toTree.compact) ++ ['\n']

def answered (e : Engine) (pretty : Bool) : Answer → Printed
  | .ok (.finished r) => ⟨if r.isSuccess then 0 else 1, reportText r pretty, [], e.files⟩
  | .ok .cancelled => ⟨interruptedCode, [], [], e.files⟩
  | .error f =>
    ⟨1, [], "Error: Failed to run snippet\n\nCaused by:\n    ".toList ++ f.message ++ ['\n'],
      e.files⟩

def settingsOf (o : RunOptions) (l : Language) (u : User) : Settings :=
  let forLanguage (path : Option Text) : List (Language × Text) :=
    match path with
    | some p => [(l, p)]
    | none => []
  Settings.ofDraft {
    packagesDirs := forLanguage o.packagesDir
    interpreters := forLanguage o.interpreter
    tempDir := o.tempDir
    timeLimit := o.timeLimit
    echo := some o.echo } u

/-- Runs the snippet `code`. Nothing is printed for a run that neither ends nor is stopped. -/
def runSnippet (m : Machine) (o : RunOptions) (l : Language) (code : Text) : Printed :=
  let settings := settingsOf o l m.user
  let locator : Locator := { overrides := settings.interpreters, home := m.user.home? }
  let course : Course := {
    interpreter := (locator.interpreter m.surroundings l).2.path
    environment := m.user.environment
    startFault := m.startFault
    behaviour := m.behaviour }
  let engine : Engine := { settings, files := m.surroundings.files }
  match engine.submit (.ofSnippet m.id l code) with
  | (e, .error f) => answered e o.pretty (.error f)
  | (e, .ok n) =>
    let e := conclude m course e n m.id
    match e.answer? n with
    | some a => answered e o.pretty a
    | none => ⟨0, [], [], e.files⟩

def run (m : Machine) (o : RunOptions) : Printed :=
  match o.language.or (Language.ofPath? o.file) with
  | none =>
    .failed m ("Cannot infer the language of ".toList ++ o.file ++ ", pass --language".toList)
  | some l => match m.surroundings.files.read o.file with
    | .ok code => runSnippet m o l code
    | .error f => .failedBecause m ("Failed to read snippet: ".toList ++ o.file) f.message

def toolLine (title : String) (found : Located) : Text :=
  title.toList ++ found.path ++ " (".toList ++ found.origin.name ++ ")\n".toList

def locate (m : Machine) (l : Language) : Printed :=
  let settings := Settings.ofDraft {} m.user
  let locator : Locator := { home := m.user.home? }
  .ok m <|
    "language:        ".toList ++ l.name ++ ['\n'] ++
    toolLine "interpreter:     " (locator.interpreter m.surroundings l).2 ++
    toolLine "package manager: " (locator.packageManager m.surroundings l).2 ++
    "packages dir:    ".toList ++ settings.packagesDir l ++ ['\n']

def misuseCode : Nat := 2

def refused (m : Machine) : Refusal → Printed
  | .help topic => .ok m (helpText m.user.environment topic)
  | .version => .ok m versionText
  | .misuse =>
    ⟨misuseCode, [], "error: invalid arguments\n\nFor more information, try '--help'.\n".toList,
      m.surroundings.files⟩

def execute (m : Machine) (args : List Text) : Printed :=
  match parse m.user.environment args with
  | .ok (.run o) => run m o
  | .ok (.locate l) => locate m l
  | .error r => refused m r

end Scratchpad.CommandLine
