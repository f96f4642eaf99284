import Scratchpad.Conventions
import Scratchpad.Harness.JavaScript
import Scratchpad.Harness.Php
import Scratchpad.Harness.Python
import Scratchpad.Harness.Ruby
import Scratchpad.Json.Layout
import Scratchpad.Literal
import Scratchpad.Report
import Scratchpad.Template

/-!
The program around a snippet. For each language there is a template and a list of the texts to put
in: the marks of the frame, the snippet, its probes and the directory of its packages, each as a
literal of the language.
-/

set_option autoImplicit false
set_option relaxedAutoImplicit false

namespace Scratchpad

namespace Harness

def bracketed (ts : List Text) : Text :=
  '[' :: List.intercalate [',', ' '] ts ++ [']']

def probeObjects (ps : List Probe) : Text :=
  (Json.Tree.array (ps.map Report.probeTree)).compact

def probePairs (ps : List Probe) : Text :=
  (Json.Tree.array (ps.map fun p => .array [.ofNat p.line, .ofText p.expression])).compact

def quotedPairs (ps : List Probe) : Text :=
  bracketed (ps.map fun p => bracketed [Nat.toDigits 10 p.line, Literal.singleQuoted p.expression])

end Harness

namespace Language

open Harness

def template : Language → Text
  | .javaScript => Text.ofLines javaScriptLines
  | .python => Text.ofLines pythonLines
  | .php => Text.ofLines phpLines
  | .ruby => Text.ofLines rubyLines

/-- The directory that holds the packages themselves, given the directory of a language. -/
def modulesDir : Language → Text → Text
  | .javaScript, dir => Path.join dir "node_modules".toList
  | _, dir => dir

def literal : Language → Text → Text
  | .javaScript => Literal.json
  | .python => Literal.json
  | .php => Literal.singleQuoted
  | .ruby => Literal.singleQuoted

def probesLiteral : Language → List Probe → Text
  | .javaScript, ps => probeObjects ps
  | .python, ps => Literal.json (probePairs ps)
  | .php, ps => quotedPairs ps
  | .ruby, ps => quotedPairs ps ++ ".freeze".toList

def harnessValues (l : Language) (code : Text) (probes : List Probe) (packagesDir : Text) :
    List (Text × Text) :=
  [("START".toList, l.literal l.frame.opening),
    ("END".toList, l.literal l.frame.closing),
    ("CODE".toList, l.literal code),
    ("PROBES".toList, l.probesLiteral probes),
    ("PACKAGES".toList, l.literal (l.modulesDir packagesDir))]

def renderHarness (l : Language) (code : Text) (probes : List Probe) (packagesDir : Text) :
    Except Template.Fault Text :=
  Template.render l.template (l.harnessValues code probes packagesDir)

end Language

end Scratchpad
