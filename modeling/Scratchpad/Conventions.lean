import Scratchpad.Language
import Scratchpad.Probe
import Scratchpad.Recovery.Framed

/-!
What is agreed with the interpreter of each language: the frame around reports, the extension of
script files, the flags before the script, the line comments that may ask for a probe, and the texts
on standard error that say that a script was not even accepted.
-/

set_option autoImplicit false
set_option relaxedAutoImplicit false

namespace Scratchpad.Language

def frame : Language → Frame
  | .javaScript =>
    ⟨"<<RUNBOX:JAVASCRIPT>>_RESULT_START".toList, "<<RUNBOX:JAVASCRIPT>>_RESULT_END".toList⟩
  | .python => ⟨"<<RUNBOX:PYTHON>>_RESULT_START".toList, "<<RUNBOX:PYTHON>>_RESULT_END".toList⟩
  | .php => ⟨"<<RUNBOX:PHP>>_RESULT_START".toList, "<<RUNBOX:PHP>>_RESULT_END".toList⟩
  | .ruby => ⟨"<<RUNBOX:RUBY>>_RESULT_START".toList, "<<RUNBOX:RUBY>>_RESULT_END".toList⟩

def scriptExtension : Language → Text
  | .javaScript => ".cjs".toList
  | .python => ".py".toList
  | .php => ".php".toList
  | .ruby => ".rb".toList

def interpreterFlags : Language → List Text
  | .javaScript => []
  | .python => ["-u".toList]
  | .php =>
    ["-d".toList, "display_errors=stderr".toList, "-d".toList, "html_errors=0".toList, "-d".toList,
      "log_errors=0".toList]
  | .ruby => ["-EUTF-8".toList]

/-- The line comments that may ask for a probe. -/
def comments : Language → Probe.CommentStyle
  | .javaScript => ⟨["//".toList], false⟩
  | .python => ⟨["#".toList], false⟩
  | .php => ⟨["//".toList, "#".toList], true⟩
  | .ruby => ⟨["#".toList], false⟩

/-- The texts on standard error that tell of a script that was not accepted. -/
def fatalMarkers : Language → List Text
  | .javaScript => ["SyntaxError:".toList]
  | .python => ["SyntaxError:".toList, "IndentationError:".toList]
  | .php => ["PHP Parse error".toList, "Parse error:".toList]
  | .ruby => ["syntax error".toList, "(SyntaxError)".toList]

def probes (l : Language) (code : Text) : List Probe :=
  Probe.extract l.comments code

end Scratchpad.Language
