import Scratchpad.Json.Tree

/-!
Writing a tree. The compact layout has no blanks; the indented one puts every item and member on a
line of its own, two blanks deeper than its container, and a blank after the colon. An empty
container is written without a line break in both.
-/

set_option autoImplicit false
set_option relaxedAutoImplicit false

namespace Scratchpad.Json.Tree

def quote (body : Text) : Text :=
  '"' :: body ++ ['"']

mutual

def compact : Tree → Text
  | .null => "null".toList
  | .bool true => "true".toList
  | .bool false => "false".toList
  | .number n => n
  | .string body => quote body
  | .array items => '[' :: compactItems items ++ [']']
  | .object members => '{' :: compactMembers members ++ ['}']

def compactItems : List Tree → Text
  | [] => []
  | [t] => compact t
  | t :: ts => compact t ++ ',' :: compactItems ts

def compactMembers : List (Text × Tree) → Text
  | [] => []
  | [(k, t)] => quote k ++ ':' :: compact t
  | (k, t) :: ms => quote k ++ ':' :: (compact t ++ ',' :: compactMembers ms)

end

def newline (depth : Nat) : Text :=
  '\n' :: List.replicate (2 * depth) ' '

mutual

def indented (depth : Nat) : Tree → Text
  | .null => "null".toList
  | .bool true => "true".toList
  | .bool false => "false".toList
  | .number n => n
  | .string body => quote body
  | .array [] => ['[', ']']
  | .array (t :: ts) => '[' :: indentedItems (depth + 1) (t :: ts) ++ newline depth ++ [']']
  | .object [] => ['{', '}']
  | .object (m :: ms) => '{' :: indentedMembers (depth + 1) (m :: ms) ++ newline depth ++ ['}']

def indentedItems (depth : Nat) : List Tree → Text
  | [] => []
  | [t] => newline depth ++ indented depth t
  | t :: ts => newline depth ++ indented depth t ++ ',' :: indentedItems depth ts

def indentedMembers (depth : Nat) : List (Text × Tree) → Text
  | [] => []
  | [(k, t)] => newline depth ++ quote k ++ ':' :: ' ' :: indented depth t
  | (k, t) :: ms =>
    newline depth ++ quote k ++ ':' :: ' ' :: (indented depth t ++ ',' :: indentedMembers depth ms)

end

end Scratchpad.Json.Tree
