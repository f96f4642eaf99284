import Scratchpad.CommandLine

/-!
The program. It gathers what the command line asks the system for, lets it decide, and prints what
it says. The program does not start other programs: an interpreter that is found is refused when it
should start, and the report says so.
-/

set_option autoImplicit false
set_option relaxedAutoImplicit false

namespace Scratchpad.Main

def variableNames : List String :=
  ["HOME", "TMPDIR", "XDG_DATA_HOME", "PATH", "RUNBOX_TIMEOUT_MS", "RUNBOX_PACKAGES_DIR",
    "RUNBOX_TEMP_DIR", "NODE_PATH", "PYTHONPATH", "PYTHONIOENCODING", "GEM_PATH"]

def environment : IO Environment := do
  let found ← variableNames.mapM fun name => do
    return (← IO.getEnv name).map fun v => (name.toList, v.toList)
  return found.filterMap id

def isReadable (path : Text) : IO Bool := do
  try
    let h ← IO.FS.Handle.mk (String.ofList path) .read
    let _ ← h.read 1
    return true
  catch _ => return false

def withFile (files : Files) (path : Text) : IO Files := do
  try
    let content ← IO.FS.readFile (String.ofList path)
    return files.install path content.toList false
  catch _ => return files

/-- Adds a file without its content, if there is one. -/
def withTool (files : Files) (path : Text) : IO Files := do
  if ← isReadable path then return files.install path [] true else return files

def tools : List Tool.Hints :=
  Language.all.flatMap fun l => [l.interpreter, l.packageManager]

def candidates (env : Environment) (command : Text) : List Text :=
  match env.lookup "PATH".toList with
  | some list => (Path.splitList list).map fun d => Path.join d command
  | none => []

def filesFor (env : Environment) (tempDir : Text) (args : List Text) : IO Files := do
  let paths := tools.flatMap fun h => h.unixPaths ++ h.commands.flatMap (candidates env)
  let files ← paths.foldlM withTool (Files.empty.makeDir tempDir)
  match CommandLine.parse env args with
  | .ok (.run o) => withFile files o.file
  | _ => return files

def randomId : IO RunId := do
  let bytes ← IO.getRandomBytes 16
  return .ofRandom (BitVec.ofNat 128 (bytes.toList.foldl (fun n b => n * 256 + b.toNat) 0))

def machine (args : List Text) : IO CommandLine.Machine := do
  let env ← environment
  let user : User := ⟨env, none⟩
  let files ← filesFor env user.tempDir args
  return {
    user
    surroundings := {
      files
      lookup := fun command => (candidates env command).find? files.isFile }
    id := ← randomId
    startFault := fun i =>
      match files.programFault? (Path.splitList ((env.lookup "PATH".toList).getD [])) i.program with
      | some f => some f
      | none => some .unsupported
    behaviour := fun _ => ⟨.pure [], .pure [], .never⟩
    interruptAfter := none }

end Scratchpad.Main

def main (args : List String) : IO UInt32 := do
  let args := args.map String.toList
  let printed := Scratchpad.CommandLine.execute (← Scratchpad.Main.machine args) args
  IO.print (String.ofList printed.stdout)
  IO.eprint (String.ofList printed.stderr)
  return UInt32.ofNat printed.exitCode
