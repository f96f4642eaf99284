import Scratchpad.Language
import Scratchpad.Pattern

/-!
What counts as a bare expression in each language: operands with binary operators between them. An
operand is a name with member accesses, indices and calls behind it, a number, or a string on one
line; brackets do not nest and parentheses nest once.
-/

set_option autoImplicit false
set_option relaxedAutoImplicit false

namespace Scratchpad.Echo.Expression

open Pattern

def gap : Pattern :=
  .star (.one .blanks)

/-- A name: one character of a set and then any of another. -/
def name (first rest : CharSet) : Pattern :=
  .seq (.one first) (.star (.one rest))

def plainName : Pattern :=
  name (.lettersAnd ['_']) (.wordAnd [])

def dollarName : Pattern :=
  name (.lettersAnd ['_', '$']) (.wordAnd ['$'])

/-- The mark at the end of some names: a question or an exclamation mark. -/
def mark : Pattern :=
  optional (anyOf ['?', '!'])

/-- Something in square brackets, up to the first closing one. -/
def index : Pattern :=
  chain [anyOf ['['], .star (.one (.except [']'])), anyOf [']']]

/-- Arguments in parentheses, which may hold parentheses once more. -/
def call : Pattern :=
  chain [anyOf ['('],
    .star (.alt (.one (.except ['(', ')']))
      (chain [anyOf ['('], .star (.one (.except ['(', ')'])), anyOf [')']])),
    anyOf [')']]

def number : Pattern :=
  chain [.one (.decimalAnd []), .star (.one (.decimalAnd ['_'])),
    optional (.seq (anyOf ['.']) (plus (.one (.decimalAnd []))))]

/-- A string between two equal quotes, which a backslash keeps from ending it. -/
def quoted (quote : Char) : Pattern :=
  chain [anyOf [quote],
    .star (.alt (.one (.except [quote, '\\'])) (.seq (anyOf ['\\']) (.one .inLine))),
    anyOf [quote]]

def operations (operand operator : Pattern) : Pattern :=
  .seq operand (.star (chain [gap, operator, gap, operand]))

def wordOperator (w : Text) (ws : List Text) : Pattern :=
  chain [.one .blanks, oneOf (word w) (ws.map word), .one .blanks]

def javaScriptOperand : Pattern :=
  .seq (.star (anyOf ['!'])) <|
    oneOf
      (.seq dollarName <| .star <|
        oneOf (chain [optional (anyOf ['?']), anyOf ['.'], dollarName]) [index, call])
      [.seq number (optional (anyOf ['n'])), quoted '"', quoted '\x27', quoted '\x60']

def javaScriptOperator : Pattern :=
  oneOf (word "**".toList)
    [word "===".toList, word "!==".toList, word "==".toList, word "!=".toList, word "<=".toList,
      word ">=".toList, word "&&".toList, word "||".toList, word "??".toList,
      anyOf "-+*/%<>".toList]

def pythonOperand : Pattern :=
  .seq (optional (.alt (.seq (word "not".toList) (plus (.one .blanks))) (anyOf ['-']))) <|
    oneOf
      (.seq plainName <| .star <| oneOf (.seq (anyOf ['.']) plainName) [index, call])
      [.seq number (optional (anyOf ['j'])),
        .seq (optional (anyOf "rbfu".toList)) (quoted '"'),
        .seq (optional (anyOf "rbfu".toList)) (quoted '\x27')]

def pythonOperator : Pattern :=
  oneOf (word "**".toList)
    [word "//".toList, word "==".toList, word "!=".toList, word "<=".toList, word ">=".toList,
      anyOf "-+*/%<>@&|^".toList,
      wordOperator "and".toList
        ["or".toList, "in".toList, "not in".toList, "is not".toList, "is".toList]]

def phpOperand : Pattern :=
  .seq (.star (anyOf ['!'])) <|
    oneOf
      (chain [optional (anyOf ['$']), name (.lettersAnd ['_', '\\']) (.wordAnd ['\\']),
        .star <| oneOf (.seq (word "->".toList) plainName)
          [chain [word "::".toList, optional (anyOf ['$']), plainName], index, call]])
      [number, quoted '"', quoted '\x27']

def phpOperator : Pattern :=
  oneOf (word "**".toList)
    [word "===".toList, word "!==".toList, word "==".toList, word "!=".toList, word "<=>".toList,
      word "<=".toList, word ">=".toList, word "&&".toList, word "||".toList, word "??".toList,
      anyOf "-+*/%<>.".toList]

def rubyOperand : Pattern :=
  .seq (optional (oneOf (.seq (word "not".toList) (plus (.one .blanks)))
      [plus (anyOf ['!']), anyOf ['-']])) <|
    oneOf
      (chain [name (.lettersAnd ['_', '$']) (.wordAnd []), mark,
        .star <| oneOf (chain [anyOf ['.'], plainName, mark])
          [.seq (word "::".toList) (name ⟨false, [.span 'A' 'Z']⟩ (.wordAnd [])), index, call]])
      [.seq (anyOf ['@']) plainName, number, chain [anyOf [':'], plainName, mark], quoted '"',
        quoted '\x27']

def rubyOperator : Pattern :=
  oneOf (word "**".toList)
    [word "===".toList, word "==".toList, word "!=".toList, word "<=>".toList, word "<=".toList,
      word ">=".toList, word "&&".toList, word "||".toList, word "<<".toList,
      anyOf "-+*/%<>&|^".toList, wordOperator "and".toList ["or".toList]]

def ofLanguage : Language → Pattern
  | .javaScript => operations javaScriptOperand javaScriptOperator
  | .python => operations pythonOperand pythonOperator
  | .php => operations phpOperand phpOperator
  | .ruby => operations rubyOperand rubyOperator

def simpleName : Language → Pattern
  | .javaScript => dollarName
  | .python => plainName
  | .php => .seq (anyOf ['$']) plainName
  | .ruby => name ⟨false, [.span 'a' 'z', .span '_' '_']⟩ (.wordAnd [])

end Scratchpad.Echo.Expression
