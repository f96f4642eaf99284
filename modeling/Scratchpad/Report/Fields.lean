import Scratchpad.Report

/-!
Finding the fields of a record in a JSON container. A record may be written as an object, whose
unknown members do not matter, or as an array of its fields in order. In both forms a field can be
missing, and the two are told apart because only some fields may be missing from an array.
-/

set_option autoImplicit false
set_option relaxedAutoImplicit false

namespace Scratchpad.Report

/-- What a container holds for one field of a record. -/
inductive Slot (α : Type) where
  | given (a : α)
  /-- The field is no member of the object. -/
  | absent
  /-- The array ends before the field. -/
  | cutOff

namespace Slot

/-- A field that has to be there. -/
def required? {α β : Type} (f : α → Option β) : Slot α → Option β
  | .given a => f a
  | .absent => none
  | .cutOff => none

/-- A field that may be missing, with the value that it has then. -/
def orElse? {α β : Type} (missing : β) (f : α → Option β) : Slot α → Option β
  | .given a => f a
  | .absent => some missing
  | .cutOff => some missing

/-- A field that may be missing from an object, with the value that it has then, but not from an
array. -/
def absentOr? {α β : Type} (missing : β) (f : α → Option β) : Slot α → Option β
  | .given a => f a
  | .absent => some missing
  | .cutOff => none

/-- The field with a name among the members of an object, where it may stand only once. -/
def ofMember? {α : Type} (members : List (Text × α)) (name : Text) : Option (Slot α) :=
  match members.filter (fun m => m.1 = name) with
  | [] => some .absent
  | [m] => some (.given m.2)
  | _ => none

def ofMembers? {α : Type} (names : List Text) (members : List (Text × α)) :
    Option (List (Slot α)) :=
  names.mapM (ofMember? members)

/-- The fields of a record with `count` fields among the items of an array, which may not be
longer. -/
def ofItems? {α : Type} : (count : Nat) → List α → Option (List (Slot α))
  | 0, [] => some []
  | 0, _ :: _ => none
  | n + 1, [] => (ofItems? n []).map (.cutOff :: ·)
  | n + 1, a :: as => (ofItems? n as).map (.given a :: ·)

end Slot

def entryFields : List Text :=
  ["kind".toList, "text".toList]

def faultFields : List Text :=
  ["message".toList, "stack".toList]

def readingFields : List Text :=
  ["line".toList, "expression".toList, "value".toList, "error".toList]

def statsFields : List Text :=
  ["duration".toList, "exitCode".toList]

def reportFields : List Text :=
  ["output".toList, "value".toList, "error".toList, "probes".toList, "stats".toList]

def exitCode? (n : Int) : Option Int32 :=
  if Int32.minValue.toInt ≤ n ∧ n ≤ Int32.maxValue.toInt then some (Int32.ofInt n) else none

def nanosecondsOf (milliseconds : Nat) : Nat :=
  milliseconds * 1000000

end Scratchpad.Report
