import Scratchpad.Path

/-!
Files and directories as data: what is found at which place below the root. `walk` follows a path
from directory to directory; everything else goes through it, so a path that leads through a missing
directory or through a file fails everywhere in the same way.
-/

set_option autoImplicit false
set_option relaxedAutoImplicit false

namespace Scratchpad

inductive Node where
  | directory
  | file (content : Text) (executable : Bool)

/-- The files and directories that exist. -/
structure Files where
  /-- The directory in which relative paths start. -/
  workingDir : Text
  /-- What stands where; a place is given by the names from the root on. -/
  nodes : List (List Text × Node)

namespace Files

inductive Fault where
  | missing
  | denied
  | notADirectory
  | isADirectory
  | noSpace
  | unsupported
  deriving DecidableEq, Repr

def Fault.message : Fault → Text
  | .missing => "No such file or directory (os error 2)".toList
  | .denied => "Permission denied (os error 13)".toList
  | .notADirectory => "Not a directory (os error 20)".toList
  | .isADirectory => "Is a directory (os error 21)".toList
  | .noSpace => "No space left on device (os error 28)".toList
  | .unsupported => "Operation not supported (os error 95)".toList

def empty : Files :=
  ⟨['/'], []⟩

/-- What stands at a place; the root is always a directory. -/
def at? (f : Files) (place : List Text) : Option Node :=
  if place.isEmpty then some .directory else f.nodes.lookup place

/-- The place one step further: upwards for two dots, the same place for one dot or nothing. -/
def next (place : List Text) (name : Text) : List Text :=
  if name = ['.', '.'] then place.dropLast
  else if name.isEmpty ∨ name = ['.'] then place
  else place ++ [name]

def nominalPlace (f : Files) (path : Text) : List Text :=
  ((Path.join f.workingDir path).splitOn '/').foldl next []

/-- Goes on from a place step by step; each step starts from a directory. The last place need not
hold anything. -/
def walk (f : Files) (place : List Text) : List Text → Except Fault (List Text)
  | [] => .ok place
  | c :: cs => match f.at? place with
    | some .directory => walk f (next place c) cs
    | some (.file _ _) => .error .notADirectory
    | none => .error .missing

def place (f : Files) (path : Text) : Except Fault (List Text) :=
  if path.isEmpty then .error .missing
  else f.walk [] ((Path.join f.workingDir path).splitOn '/')

def node (f : Files) (path : Text) : Except Fault Node := do
  match f.at? (← f.place path) with
  | some n => .ok n
  | none => .error .missing

def isFile (f : Files) (path : Text) : Bool :=
  match f.node path with
  | .ok (.file _ _) => true
  | _ => false

def read (f : Files) (path : Text) : Except Fault Text := do
  match ← f.node path with
  | .file content _ => .ok content
  | .directory => .error .isADirectory

def nameBelow? (place : List Text) (entry : List Text × Node) : Option Text :=
  match entry.1.getLast? with
  | some name => if entry.1.dropLast = place then some name else none
  | none => none

def names? (f : Files) (path : Text) : Option (List Text) :=
  match f.place path with
  | .ok spot => match f.at? spot with
    | some .directory => some (f.nodes.filterMap (nameBelow? spot))
    | _ => none
  | .error _ => none

/-- What the system says when it is asked for the next entry of a directory. -/
inductive Entry where
  | named (name : Text)
  /-- The name of the entry is no text. -/
  | unnamed
  /-- The system fails to go on. -/
  | failure

/-- The names that are learnt of before the system fails to go on. -/
def Entry.names : List Entry → List Text
  | [] => []
  | .named name :: es => name :: names es
  | .unnamed :: es => names es
  | .failure :: _ => []

def entries? (f : Files) (path : Text) : Option (List Entry) :=
  (f.names? path).map fun names => names.map .named

def put (f : Files) (place : List Text) (n : Node) : Files :=
  { f with nodes := (place, n) :: f.nodes.filter fun e => e.1 ≠ place }

def writeFault? (f : Files) (path : Text) : Option Fault :=
  match f.place path with
  | .error e => some e
  | .ok spot => match f.at? spot with
    | some .directory => some .isADirectory
    | _ => none

/-- Writes a file. Where that is impossible nothing changes. -/
def write (f : Files) (path content : Text) : Files :=
  match f.place path, f.writeFault? path with
  | .ok spot, none => f.put spot (.file content false)
  | _, _ => f

def startFault? (f : Files) (path : Text) : Option Fault :=
  match f.node path with
  | .error e => some e
  | .ok .directory => some .denied
  | .ok (.file _ executable) => if executable then none else some .denied

/-- Why a program cannot be started that is given by a path, or by a bare name that is sought in
directories. -/
def programFault? (f : Files) (dirs : List Text) (program : Text) : Option Fault :=
  if program.contains '/' then f.startFault? program
  else
    let faults := dirs.map fun d => f.startFault? (Path.join d program)
    if program.isEmpty then some .missing
    else if faults.contains none then none
    else if faults.contains (some .denied) then some .denied
    else some .missing

def upTo (place : List Text) : List (List Text) :=
  (List.range place.length).map fun n => place.take (n + 1)

def makeDir (f : Files) (path : Text) : Files :=
  (upTo (f.nominalPlace path)).foldl
    (fun f spot => if (f.at? spot).isSome then f else f.put spot .directory) f

def install (f : Files) (path content : Text) (executable : Bool) : Files :=
  let spot := f.nominalPlace path
  (f.makeDir (List.intercalate ['/'] ([] :: spot.dropLast))).put spot (.file content executable)

def removeFile (f : Files) (path : Text) : Files :=
  match f.place path with
  | .ok spot => match f.at? spot with
    | some (.file _ _) => { f with nodes := f.nodes.filter fun e => e.1 ≠ spot }
    | _ => f
  | .error _ => f

def removeTree (f : Files) (path : Text) : Files :=
  match f.place path with
  | .ok spot => { f with nodes := f.nodes.filter fun e => !spot.isPrefixOf e.1 }
  | .error _ => f

end Files

end Scratchpad
