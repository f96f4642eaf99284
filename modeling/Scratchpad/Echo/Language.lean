import Scratchpad.Echo.Expression
import Scratchpad.Echo.Transform

/-!
The echo rules of each language.
-/

set_option autoImplicit false
set_option relaxedAutoImplicit false

namespace Scratchpad

namespace Echo

open Text (ofStrings)

def javaScript : Rules where
  lineComments := ofStrings ["//"]
  blockComment := some ("/*".toList, "*/".toList)
  blockStrings := ofStrings ["`"]
  keywords := ofStrings [
    "const", "let", "var", "function", "class", "if", "else", "for", "while", "do", "switch",
    "case", "default", "return", "throw", "try", "catch", "finally", "import", "export", "break",
    "continue", "async", "await", "yield", "new", "delete", "typeof", "void", "debugger", "with"]
  nonAssignments := ofStrings ["===", "!==", "==", "!=", "<=", ">=", "=>"]
  blockOpeners := ofStrings ["\x7b"]
  outputCalls := ofStrings ["console."]
  topLevelOnly := false
  expression := some (Expression.ofLanguage .javaScript)
  simpleName := some (Expression.simpleName .javaScript)
  wrap := fun e _ => "console.log(".toList ++ e ++ [')']
  terminator := [';']

def python : Rules where
  lineComments := ofStrings ["#"]
  blockComment := none
  blockStrings := ofStrings ["\"\"\"", "'''"]
  keywords := ofStrings [
    "def", "class", "if", "elif", "else", "for", "while", "try", "except", "finally", "with",
    "return", "import", "from", "raise", "pass", "break", "continue", "global", "nonlocal",
    "assert", "del", "lambda", "yield", "async", "await", "match", "case", "print"]
  nonAssignments := ofStrings ["==", "!=", "<=", ">="]
  blockOpeners := ofStrings [":", "\x7b", "\\", ","]
  outputCalls := ofStrings ["print(", "sys.stdout.", "sys.stderr."]
  topLevelOnly := true
  expression := some (Expression.ofLanguage .python)
  simpleName := some (Expression.simpleName .python)
  wrap := fun e _ => "print(".toList ++ e ++ [')']
  terminator := []

def php : Rules where
  lineComments := ofStrings ["//", "#"]
  blockComment := some ("/*".toList, "*/".toList)
  blockStrings := []
  keywords := ofStrings [
    "echo", "print", "return", "function", "fn", "class", "interface", "trait", "enum", "abstract",
    "final", "if", "else", "elseif", "foreach", "for", "while", "do", "switch", "match", "case",
    "default", "try", "catch", "finally", "throw", "use", "namespace", "require", "require_once",
    "include", "include_once", "global", "static", "const", "break", "continue", "declare", "unset",
    "public", "private", "protected", "new", "exit", "die", "var_dump", "var_export", "print_r",
    "printf"]
  nonAssignments := ofStrings ["===", "!==", "==", "!=", "<=>", "<=", ">=", "=>"]
  blockOpeners := ofStrings ["\x7b"]
  outputCalls := ofStrings ["var_dump(", "var_export(", "print_r(", "printf(", "echo ", "print "]
  topLevelOnly := false
  expression := some (Expression.ofLanguage .php)
  simpleName := some (Expression.simpleName .php)
  wrap := fun e simple =>
    (if simple then "var_export(".toList else "var_dump(".toList) ++ e ++ [')']
  terminator := [';']

def ruby : Rules where
  lineComments := ofStrings ["#"]
  blockComment := some ("=begin".toList, "=end".toList)
  blockStrings := []
  keywords := ofStrings [
    "def", "class", "module", "if", "elsif", "else", "unless", "case", "when", "while", "until",
    "for", "begin", "rescue", "ensure", "end", "return", "require", "require_relative", "puts",
    "print", "p", "pp", "warn", "raise", "yield", "do", "then", "break", "next", "redo", "retry",
    "alias", "undef", "include", "extend", "attr_accessor", "attr_reader", "attr_writer", "private",
    "public", "protected", "loop", "lambda", "proc"]
  nonAssignments := ofStrings ["<=>", "===", "==", "!=", "<=", ">=", "=~", "=>"]
  blockOpeners := ofStrings [" do", "\x7b", "|", "\\", ","]
  outputCalls := ofStrings ["$stdout.", "$stderr.", "STDOUT.", "STDERR."]
  topLevelOnly := true
  expression := some (Expression.ofLanguage .ruby)
  simpleName := some (Expression.simpleName .ruby)
  wrap := fun e _ => "p(".toList ++ e ++ [')']
  terminator := []

end Echo

namespace Language

def echo : Language → Echo.Rules
  | .javaScript => Echo.javaScript
  | .python => Echo.python
  | .php => Echo.php
  | .ruby => Echo.ruby

end Language

end Scratchpad
