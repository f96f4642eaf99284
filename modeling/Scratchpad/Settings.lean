import Scratchpad.SearchPath

/-!
Settings of an engine. A draft says what is wanted; what it leaves open is taken from the user's
directories: packages go below the data directory, and scripts into the temporary directory.
-/

set_option autoImplicit false
set_option relaxedAutoImplicit false

namespace Scratchpad

structure SettingsDraft where
  packagesRoot : Option Text := none
  packagesDirs : List (Language × Text) := []
  interpreters : List (Language × Text) := []
  tempDir : Option Text := none
  timeLimit : Option Nat := none
  echo : Option Bool := none

structure Settings where
  packagesRoot : Text
  packagesDirs : List (Language × Text)
  interpreters : List (Language × Text)
  tempDir : Text
  timeLimit : Option Nat
  /-- Whether bare expressions are echoed unless a request says otherwise. -/
  echo : Bool

/-- What is known about the user: the variables that are set, and the home directory of the account
in case no variable tells it. -/
structure User where
  environment : Environment
  accountHome : Option Text

namespace User

def home? (u : User) : Option Text :=
  match u.environment.lookup "HOME".toList with
  | some h => if h.isEmpty then u.accountHome else some h
  | none => u.accountHome

def tempDir (u : User) : Text :=
  (u.environment.lookup "TMPDIR".toList).getD "/tmp".toList

def dataDir? (u : User) : Option Text :=
  let below := u.home?.map fun h => Path.join h ".local/share".toList
  match u.environment.lookup "XDG_DATA_HOME".toList with
  | some d => if Path.isAbsolute d then some d else below
  | none => below

end User

namespace Settings

def defaultPackagesRoot (u : User) : Text :=
  Path.join (Path.join (u.dataDir?.getD u.tempDir) "runbox".toList) "packages".toList

def ofDraft (d : SettingsDraft) (u : User) : Settings where
  packagesRoot := d.packagesRoot.getD (defaultPackagesRoot u)
  packagesDirs := d.packagesDirs
  interpreters := d.interpreters
  tempDir := d.tempDir.getD u.tempDir
  timeLimit := d.timeLimit
  echo := d.echo.getD true

def packagesDir (s : Settings) (l : Language) : Text :=
  (s.packagesDirs.lookup l).getD (Path.join s.packagesRoot l.name)

end Settings

end Scratchpad
