import Scratchpad.Files
import Scratchpad.Text.Line
import Scratchpad.Toolchain
import Scratchpad.Version

/-!
Looking for interpreters and package managers. The newest version below a version manager comes
first, then what the search path holds, then the usual places; in the end there is the bare command,
so looking never fails. What has been found is remembered for each language.
-/

set_option autoImplicit false
set_option relaxedAutoImplicit false

namespace Scratchpad

inductive Origin where
  | override
  | versionManager
  | searchPath
  | usualPlace
  | bare
  deriving DecidableEq, Repr

def Origin.name : Origin → Text
  | .override => "override".toList
  | .versionManager => "version manager".toList
  | .searchPath => "PATH lookup".toList
  | .usualPlace => "well-known location".toList
  | .bare => "bare command".toList

structure Located where
  /-- A path or a bare command. -/
  path : Text
  origin : Origin

/-- What can be found on a system. -/
structure Surroundings where
  files : Files
  /-- What the system says about the entries of a directory, one after the other; none if it refuses
  to read the directory. -/
  entries? : Text → Option (List Files.Entry) := files.entries?
  /-- What the lookup in the search path says about a command; none if it fails. -/
  lookup : Text → Option Text

namespace Tool

def newest? (holds : Text → Bool) (names : List Text) : Option Text :=
  (Version.newestFirst names).find? holds

/-- The path of the newest executable below a version manager, among the versions that the system
tells of. -/
def installed? (s : Surroundings) (home : Text) (m : Manager) : Option Text := do
  let root := Path.join home m.versionsDir
  let candidate (name : Text) : Text := Path.join (Path.join root name) m.executable
  let entries ← s.entries? root
  let name ← newest? (fun name => s.files.isFile (candidate name)) (Files.Entry.names entries)
  return candidate name

/-- The file that the lookup of a command names in the first line that is not blank. -/
def found? (s : Surroundings) (command : Text) : Option Text := do
  let said ← s.lookup command
  let path ← ((Text.lines said).map Text.trim).find? (!·.isEmpty)
  if s.files.isFile path then return path else none

namespace Hints

def locate (h : Hints) (s : Surroundings) (home : Option Text) : Located :=
  match home.bind fun home => h.managers.findSome? (installed? s home) with
  | some path => ⟨path, .versionManager⟩
  | none => match h.commands.findSome? (found? s) with
    | some path => ⟨path, .searchPath⟩
    | none => match h.unixPaths.find? s.files.isFile with
      | some path => ⟨path, .usualPlace⟩
      | none => ⟨h.commands.headD [], .bare⟩

end Hints

end Tool

structure Locator where
  /-- Interpreters that need not be sought. -/
  overrides : List (Language × Text) := []
  home : Option Text
  interpreters : List (Language × Located) := []
  packageManagers : List (Language × Located) := []

namespace Locator

/-- The interpreter of a language: one that need not be sought, one that was found before, or one
that is found now and remembered. -/
def interpreter (loc : Locator) (s : Surroundings) (l : Language) : Locator × Located :=
  match loc.overrides.lookup l with
  | some path => (loc, ⟨path, .override⟩)
  | none => match loc.interpreters.lookup l with
    | some found => (loc, found)
    | none =>
      let found := l.interpreter.locate s loc.home
      ({ loc with interpreters := (l, found) :: loc.interpreters }, found)

def packageManager (loc : Locator) (s : Surroundings) (l : Language) : Locator × Located :=
  match loc.packageManagers.lookup l with
  | some found => (loc, found)
  | none =>
    let found := l.packageManager.locate s loc.home
    ({ loc with packageManagers := (l, found) :: loc.packageManagers }, found)

def clear (loc : Locator) : Locator :=
  { loc with interpreters := [], packageManagers := [] }

end Locator

end Scratchpad
