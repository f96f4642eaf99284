import Scratchpad.Echo.Rules
import Scratchpad.Engine
import Scratchpad.Locator

/-!
Texts that show an object to a developer: its name, its fields in braces, and two dots where there
is more than is shown.
-/

set_option autoImplicit false
set_option relaxedAutoImplicit false

namespace Scratchpad.Inspect

def escape (c : Char) : Text :=
  if c = '"' then ['\\', '"']
  else if c = '\\' then ['\\', '\\']
  else if c = '\n' then ['\\', 'n']
  else if c = '\r' then ['\\', 'r']
  else if c = '\t' then ['\\', 't']
  else if c = '\x00' then ['\\', '0']
  else if c.toNat < 0x20 ∨ (0x7F ≤ c.toNat ∧ c.toNat < 0xA0) then
    "\\u\x7b".toList ++ Nat.toDigits 16 c.toNat ++ ['\x7d']
  else [c]

def quoted (t : Text) : Text :=
  '"' :: t.flatMap escape ++ ['"']

def bool (b : Bool) : Text :=
  if b then "true".toList else "false".toList

def optional {α : Type} (f : α → Text) : Option α → Text
  | some a => "Some(".toList ++ f a ++ [')']
  | none => "None".toList

def pair (name value : Text) : Text :=
  name ++ ": ".toList ++ value

def listed (ts : List Text) : Text :=
  List.intercalate ", ".toList ts

/-- A record with some of its fields; `whole` says whether there are no more. -/
def record (name : Text) (fields : List (Text × Text)) (whole : Bool) : Text :=
  let shown := fields.map fun f => pair f.1 f.2
  name ++ " \x7b ".toList ++ listed (if whole then shown else shown ++ ["..".toList]) ++
    " \x7d".toList

def table (entries : List (Text × Text)) : Text :=
  '\x7b' :: listed (entries.map fun e => pair e.1 e.2) ++ ['\x7d']

def thousandths (n : Nat) : Text :=
  let digits := Text.trimEndWhile (· == '0') (Nat.toDigits 10 (1000 + n)).tail
  if digits.isEmpty then [] else '.' :: digits

/-- A time that is given in milliseconds, in the largest unit of which there is one. -/
def duration (milliseconds : Nat) : Text :=
  if milliseconds = 0 then "0ns".toList
  else if milliseconds < 1000 then Nat.toDigits 10 milliseconds ++ "ms".toList
  else
    Nat.toDigits 10 (milliseconds / 1000) ++ thousandths (milliseconds % 1000) ++ ['s']

def language : Language → Text
  | .javaScript => "JavaScript".toList
  | .python => "Python".toList
  | .php => "Php".toList
  | .ruby => "Ruby".toList

def paths (ps : List (Language × Text)) : Text :=
  table (ps.map fun p => (language p.1, quoted p.2))

def rules (r : Echo.Rules) : Text :=
  record "LineAutoLog".toList
    [("keywords".toList, Nat.toDigits 10 r.keywords.length),
      ("top_level_only".toList, bool r.topLevelOnly),
      ("enabled".toList, bool r.enabled)] false

def limits (s : Settings) : Text :=
  record "ResourceLimits".toList
    [("execution_timeout".toList, optional duration s.timeLimit)] true

def settings (s : Settings) : Text :=
  record "EngineConfig".toList
    [("packages_root".toList, quoted s.packagesRoot),
      ("packages_dirs".toList, paths s.packagesDirs),
      ("interpreters".toList, paths s.interpreters),
      ("temp_dir".toList, quoted s.tempDir),
      ("resource_limits".toList, limits s),
      ("auto_log".toList, bool s.echo)] true

def engine (e : Engine) : Text :=
  record "Engine".toList
    [("config".toList, settings e.settings),
      ("in_flight".toList, Nat.toDigits 10 e.inFlight)] false

def locator (loc : Locator) : Text :=
  record "RuntimeLocator".toList
    [("overrides".toList, paths loc.overrides),
      ("home".toList, optional quoted loc.home),
      ("cached_interpreters".toList, Nat.toDigits 10 loc.interpreters.length)] false

end Scratchpad.Inspect
