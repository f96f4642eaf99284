import Scratchpad.Json.Value
import Scratchpad.Probe

/-!
Reports: what is known about a run of a snippet once it is over. A report holds the captured output,
the value of the snippet, the error that ended it, the readings of its probes, and the statistics of
the run. `Report.toTree` fixes the JSON form with its order of members and says what is left out.
-/

set_option autoImplicit false
set_option relaxedAutoImplicit false

namespace Scratchpad

inductive OutputKind where
  | log
  | warn
  | error
  | info
  deriving DecidableEq, Repr

structure Entry where
  kind : OutputKind
  text : Text
  deriving DecidableEq, Repr

/-- What came of a probe: a value or an error. -/
structure Reading where
  line : Nat
  expression : Text
  /-- The value of the expression; none if there is none, and for null. -/
  value : Option Json.Value
  error : Option Text

/-- An error that ended a snippet or was found in its place. -/
structure Fault where
  message : Text
  stack : Option Text
  deriving DecidableEq, Repr

structure Stats where
  nanoseconds : Nat
  /-- The exit code; none if the interpreter did not exit by itself. -/
  exitCode : Option Int32
  deriving DecidableEq

structure Report where
  output : List Entry := []
  /-- The value of the snippet: none if it has none, which differs from null. -/
  value : Option Json.Value := none
  error : Option Fault := none
  probes : List Reading := []
  stats : Option Stats := none

namespace OutputKind

def name : OutputKind → Text
  | .log => "log".toList
  | .warn => "warn".toList
  | .error => "error".toList
  | .info => "info".toList

def aliases : OutputKind → List Text
  | .log => ["debug".toList, "trace".toList]
  | .warn => ["warning".toList]
  | .error => []
  | .info => []

def named? (t : Text) : Option OutputKind :=
  [log, warn, error, info].find? fun k => t == k.name || k.aliases.contains t

end OutputKind

def Stats.maxMilliseconds : Nat := Nat.pow 2 64 - 1

def Stats.milliseconds (s : Stats) : Nat :=
  min (s.nanoseconds / 1000000) maxMilliseconds

def Fault.ofMessage (t : Text) : Fault :=
  ⟨t, none⟩

def Entry.ofText (t : Text) : Entry :=
  ⟨.log, t⟩

/-- The reading of a probe that was never evaluated. -/
def Reading.unevaluated (p : Probe) : Reading :=
  ⟨p.line, p.expression, none, some "probe was not evaluated".toList⟩

namespace Report

open Json (Tree)

def ofError (message : Text) : Report :=
  { error := some (.ofMessage message) }

def isSuccess (r : Report) : Bool :=
  r.error.isNone

/-- A member that is written only if there is something to write. -/
def optional {α : Type} (key : Text) (f : α → Tree) : Option α → List (Text × Tree)
  | some a => [(key, f a)]
  | none => []

/-- What may be missing, with null in its place. -/
def orNull {α : Type} (f : α → Tree) : Option α → Tree
  | some a => f a
  | none => .null

def entryTree (e : Entry) : Tree :=
  .ofMembers [("kind".toList, .ofText e.kind.name), ("text".toList, .ofText e.text)]

def faultTree (f : Fault) : Tree :=
  .ofMembers (("message".toList, .ofText f.message) :: optional "stack".toList .ofText f.stack)

def probeTree (p : Probe) : Tree :=
  .ofMembers [("line".toList, .ofNat p.line), ("expression".toList, .ofText p.expression)]

/-- The JSON form of a reading; its value is always written. -/
def readingTree (r : Reading) : Tree :=
  .ofMembers <|
    [("line".toList, .ofNat r.line), ("expression".toList, .ofText r.expression),
      ("value".toList, orNull Json.Value.toTree r.value)] ++
    optional "error".toList .ofText r.error

def statsTree (s : Stats) : Tree :=
  .ofMembers [("duration".toList, .ofNat s.milliseconds),
    ("exitCode".toList, orNull (fun c => .ofInt c.toInt) s.exitCode)]

/-- The JSON form of a report: no value and no statistics are left out, no error is null. -/
def toTree (r : Report) : Tree :=
  .ofMembers <|
    [("output".toList, .array (r.output.map entryTree))] ++
    optional "value".toList Json.Value.toTree r.value ++
    [("error".toList, orNull faultTree r.error),
      ("probes".toList, .array (r.probes.map readingTree))] ++
    optional "stats".toList statsTree r.stats

end Report

end Scratchpad
