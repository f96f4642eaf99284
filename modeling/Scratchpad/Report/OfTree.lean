import Scratchpad.Report.Fields

/-!
Reading a report straight from the tree of its text. Members that belong to no field are passed over
whatever they hold; a field that is written twice is refused.
-/

set_option autoImplicit false
set_option relaxedAutoImplicit false

namespace Scratchpad.Report

open Json (Tree Value)

namespace OfTree

def keyed? (members : List (Text × Tree)) : Option (List (Text × Tree)) :=
  members.mapM fun m => (Json.Quoted.decode? m.1).map fun k => (k, m.2)

def fields? (names : List Text) : Tree → Option (List (Slot Tree))
  | .object members => keyed? members >>= Slot.ofMembers? names
  | .array items => Slot.ofItems? names.length items
  | _ => none

def list? {α : Type} (f : Tree → Option α) : Tree → Option (List α)
  | .array items => items.mapM f
  | _ => none

def nullable? {α : Type} (f : Tree → Option α) : Tree → Option (Option α)
  | .null => some none
  | t => (f t).map some

/-- A kind of output: its name, or an object with that single key and null. -/
def kind? : Tree → Option OutputKind
  | .string body => Json.Quoted.decode? body >>= OutputKind.named?
  | .object [(key, .null)] => Json.Quoted.decode? key >>= OutputKind.named?
  | _ => none

def entry? (t : Tree) : Option Entry := do
  match ← fields? entryFields t with
  | [kind, text] => return ⟨← kind.required? kind?, ← text.required? Tree.text?⟩
  | _ => none

def fault? (t : Tree) : Option Fault := do
  match ← fields? faultFields t with
  | [message, stack] =>
    return ⟨← message.required? Tree.text?, ← stack.orElse? none (nullable? Tree.text?)⟩
  | _ => none

/-- A reading. Its value stands inside of `outer` containers. -/
def reading? (outer : Nat) (t : Tree) : Option Reading := do
  match ← fields? readingFields t with
  | [line, expression, value, error] =>
    return {
      line := ← line.required? Tree.nat?
      expression := ← expression.required? Tree.text?
      value := ← value.orElse? none (nullable? (Value.ofTree? (Json.maxDepth - outer)))
      error := ← error.orElse? none (nullable? Tree.text?) }
  | _ => none

def stats? (t : Tree) : Option Stats := do
  match ← fields? statsFields t with
  | [duration, exitCode] =>
    return {
      nanoseconds := ← duration.required? fun t => t.nat?.map nanosecondsOf
      exitCode := ← exitCode.absentOr? none (nullable? fun t => t.int? >>= exitCode?) }
  | _ => none

end OfTree

open OfTree in
/-- The report that a tree says. The value of the snippet stands inside of one container, the value
of a reading inside of three. -/
def ofTree? (t : Tree) : Option Report := do
  match ← fields? reportFields t with
  | [output, value, error, probes, stats] =>
    return {
      output := ← output.orElse? [] (list? entry?)
      value := ← value.orElse? none fun t => (Value.ofTree? (Json.maxDepth - 1) t).map some
      error := ← error.orElse? none (nullable? fault?)
      probes := ← probes.orElse? [] (list? (reading? 3))
      stats := ← stats.orElse? none (nullable? stats?) }
  | _ => none

def read? (t : Text) : Option Report :=
  Tree.read? t >>= ofTree?

end Scratchpad.Report
