import Scratchpad.Json.Tree

/-!
JSON values: what a JSON text means. An object has each key once, in the order of the texts; of
repeated keys the last one counts. `ofTree?` gives a tree its meaning and refuses a number that is
too large, a string that is no text, and more nesting than there is room for.
-/

set_option autoImplicit false
set_option relaxedAutoImplicit false

namespace Scratchpad.Json

/-- What a JSON text means. -/
inductive Value where
  | null
  | bool (b : Bool)
  | number (n : Number)
  | string (t : Text)
  | array (items : List Value)
  /-- An object by its members, in increasing order of their keys. -/
  | object (members : List (Text × Value))
  deriving Inhabited

/-- The containers that may be open around each other in a text. -/
def maxDepth : Nat := 127

namespace Value

/-- Puts a member in its place; one with the same key gives way. -/
def insert (k : Text) (v : Value) : List (Text × Value) → List (Text × Value)
  | [] => [(k, v)]
  | (k', v') :: ms => match compare k k' with
    | .lt => (k, v) :: (k', v') :: ms
    | .eq => (k, v) :: ms
    | .gt => (k', v') :: insert k v ms

def find? (k : Text) (ms : List (Text × Value)) : Option Value :=
  ms.lookup k

mutual

/-- The meaning of a tree in which at most `room` containers are open around each other. -/
def ofTree? (room : Nat) : Tree → Option Value
  | .null => some .null
  | .bool b => some (.bool b)
  | .number n => (Number.read? n).map .number
  | .string body => (Quoted.decode? body).map .string
  | .array items => match room with
    | 0 => none
    | room + 1 => (ofItems? room items).map .array
  | .object members => match room with
    | 0 => none
    | room + 1 => (ofMembers? room [] members).map .object

def ofItems? (room : Nat) : List Tree → Option (List Value)
  | [] => some []
  | t :: ts => do
    let v ← ofTree? room t
    return v :: (← ofItems? room ts)

def ofMembers? (room : Nat) (before : List (Text × Value)) :
    List (Text × Tree) → Option (List (Text × Value))
  | [] => some before
  | (k, t) :: ms => do
    let k ← Quoted.decode? k
    let v ← ofTree? room t
    ofMembers? room (insert k v before) ms

end

def read? (t : Text) : Option Value :=
  Tree.read? t >>= ofTree? maxDepth

mutual

def toTree : Value → Tree
  | .null => .null
  | .bool b => .bool b
  | .number n => .number n.text
  | .string t => .ofText t
  | .array items => .array (toTrees items)
  | .object members => .object (toMembers members)

def toTrees : List Value → List Tree
  | [] => []
  | v :: vs => toTree v :: toTrees vs

def toMembers : List (Text × Value) → List (Text × Tree)
  | [] => []
  | (k, v) :: ms => (Quoted.encode k, toTree v) :: toMembers ms

end

end Value

end Scratchpad.Json
