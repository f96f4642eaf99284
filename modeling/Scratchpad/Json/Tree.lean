import Scratchpad.Json.Token

/-!
The tree of a JSON text. It keeps what the text says and how it says it: members in their order
with repeated keys, numbers as they are written, strings with their escapes. Reading a tree checks
the grammar only; what a number or a string stands for is left to whoever needs it, so that a
member that nobody reads can neither overflow nor hold a wrong surrogate. The reader keeps the
containers that are still open on a stack, which makes nesting of any depth readable.
-/

set_option autoImplicit false
set_option relaxedAutoImplicit false

namespace Scratchpad.Json

/-- What a JSON text says, as it says it. -/
inductive Tree where
  | null
  | bool (b : Bool)
  | number (numeral : Text)
  | string (body : Text)
  | array (items : List Tree)
  /-- An object by its members in order; the keys are given like strings. -/
  | object (members : List (Text × Tree))
  deriving Inhabited

/-- A container that is still open around the place where the reader stands. -/
inductive Enclosure where
  /-- An array with the items before this one, the latest first. -/
  | array (before : List Tree)
  /-- An object with the members before this one, the latest first, and the key of this one. -/
  | object (before : List (Text × Tree)) (key : Text)

/-- What may come next. -/
inductive Place where
  | value
  | firstItem
  | firstKey
  /-- A key of an object, after the members before it, the latest first. -/
  | key (before : List (Text × Tree))
  | colon (before : List (Text × Tree)) (key : Text)
  | done (t : Tree)

/-- The state of the reader: the open containers, the innermost first, and the place in them. -/
structure Reader where
  /-- The containers that are open, the innermost first. -/
  enclosures : List Enclosure := []
  place : Place := .value

namespace Reader

def constant? (w : Text) : Option Tree :=
  if w = "null".toList then some .null
  else if w = "true".toList then some (.bool true)
  else if w = "false".toList then some (.bool false)
  else none

def value (es : List Enclosure) : Token → Option Reader
  | .openArray => some ⟨es, .firstItem⟩
  | .openObject => some ⟨es, .firstKey⟩
  | .word w => (constant? w).map fun t => ⟨es, .done t⟩
  | .numeral n => if (Numeral.read? n).isSome then some ⟨es, .done (.number n)⟩ else none
  | .quoted s => if Quoted.wellFormed s then some ⟨es, .done (.string s)⟩ else none
  | _ => none

def follow (es : List Enclosure) (t : Tree) : Token → Option Reader
  | .comma => match es with
    | .array before :: es => some ⟨.array (t :: before) :: es, .value⟩
    | .object before k :: es => some ⟨es, .key ((k, t) :: before)⟩
    | [] => none
  | .closeArray => match es with
    | .array before :: es => some ⟨es, .done (.array (t :: before).reverse)⟩
    | _ => none
  | .closeObject => match es with
    | .object before k :: es => some ⟨es, .done (.object ((k, t) :: before).reverse)⟩
    | _ => none
  | _ => none

def step (r : Reader) (token : Token) : Option Reader :=
  match r.place, token with
  | .value, token => value r.enclosures token
  | .firstItem, .closeArray => some ⟨r.enclosures, .done (.array [])⟩
  | .firstItem, token => value (.array [] :: r.enclosures) token
  | .firstKey, .closeObject => some ⟨r.enclosures, .done (.object [])⟩
  | .firstKey, .quoted k => if Quoted.wellFormed k then some ⟨r.enclosures, .colon [] k⟩ else none
  | .firstKey, _ => none
  | .key before, .quoted k =>
    if Quoted.wellFormed k then some ⟨r.enclosures, .colon before k⟩ else none
  | .key _, _ => none
  | .colon before k, .colon => some ⟨.object before k :: r.enclosures, .value⟩
  | .colon _ _, _ => none
  | .done t, token => follow r.enclosures t token

def finish? (r : Reader) : Option Tree :=
  match r.enclosures, r.place with
  | [], .done t => some t
  | _, _ => none

end Reader

namespace Tree

def ofTokens? (ts : List Token) : Option Tree :=
  ts.foldlM Reader.step {} >>= Reader.finish?

/-- Reads a text that holds one value and nothing else. -/
def read? (t : Text) : Option Tree :=
  Token.scan? t >>= ofTokens?

def ofText (t : Text) : Tree :=
  .string (Quoted.encode t)

def ofInt (n : Int) : Tree :=
  .number (Number.intText n)

def ofNat (n : Nat) : Tree :=
  .number (Nat.toDigits 10 n)

def ofMembers (ms : List (Text × Tree)) : Tree :=
  .object (ms.map fun m => (Quoted.encode m.1, m.2))

def text? : Tree → Option Text
  | .string body => Quoted.decode? body
  | _ => none

def int? : Tree → Option Int
  | .number n => match Number.read? n with
    | some (.int k) => some k
    | _ => none
  | _ => none

/-- The number from zero up that a number stands for. -/
def nat? (t : Tree) : Option Nat :=
  match t.int? with
  | some (.ofNat n) => some n
  | _ => none

end Tree

end Scratchpad.Json
