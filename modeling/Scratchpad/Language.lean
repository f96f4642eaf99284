import Scratchpad.Json.Tree
import Scratchpad.Path
import Scratchpad.Text.Blank

/-!
The languages that snippets are written in, and the ways to name one: by name or alias, by a JSON
value, or by the extension of a file.
-/

set_option autoImplicit false
set_option relaxedAutoImplicit false

namespace Scratchpad

inductive Language where
  | javaScript
  | python
  | php
  | ruby
  deriving DecidableEq, Repr

structure UnknownLanguage where
  name : Text
  deriving DecidableEq

namespace UnknownLanguage

/-- The wording of the error, which lists the names that would do. -/
def message (e : UnknownLanguage) : Text :=
  "unsupported language `".toList ++ e.name ++
    "` (expected one of: javascript, python, php, ruby)".toList

end UnknownLanguage

namespace Language

def all : List Language :=
  [.javaScript, .python, .php, .ruby]

def name : Language → Text
  | .javaScript => "javascript".toList
  | .python => "python".toList
  | .php => "php".toList
  | .ruby => "ruby".toList

def aliases : Language → List Text
  | .javaScript => ["js".toList, "node".toList]
  | .python => ["py".toList]
  | .php => []
  | .ruby => ["rb".toList]

def extensions : Language → List Text
  | .javaScript => ["js".toList, "cjs".toList, "mjs".toList]
  | .python => ["py".toList]
  | .php => ["php".toList]
  | .ruby => ["rb".toList]

/-- The language with exactly this name or alias. -/
def named? (t : Text) : Option Language :=
  all.find? fun l => t == l.name || l.aliases.contains t

/-- The language named by a text in letters of any case, with blanks around it. -/
def parse (t : Text) : Except UnknownLanguage Language :=
  match named? (Text.lower (Text.trim t)) with
  | some l => .ok l
  | none => .error ⟨t⟩

/-- The language of a file, judged by its extension in letters of any case. -/
def ofPath? (p : Text) : Option Language := do
  let e ← Path.extension? p
  all.find? fun l => l.extensions.contains (Text.lower e)

/-- The language that a JSON value names: a string, or an object with that single key and null. -/
def ofTree? : Json.Tree → Option Language
  | .string body => Json.Quoted.decode? body >>= named?
  | .object [(key, .null)] => Json.Quoted.decode? key >>= named?
  | _ => none

end Language

end Scratchpad
