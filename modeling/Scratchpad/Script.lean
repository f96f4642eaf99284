import Scratchpad.Echo.Language
import Scratchpad.Harness

/-!
Scripts: snippets made into whole programs that report on themselves.
-/

set_option autoImplicit false
set_option relaxedAutoImplicit false

namespace Scratchpad

/-- A program that runs a snippet and reports on it. -/
structure Script where
  language : Language
  source : Text
  probes : List Probe

namespace Script

def prepared (l : Language) (code : Text) (echo : Bool) : Text :=
  if echo then l.echo.transform code else code

def build (l : Language) (code : Text) (probes : List Probe) (echo : Bool) (packagesDir : Text) :
    Except Template.Fault Script :=
  (l.renderHarness (prepared l code echo) probes packagesDir).map fun source =>
    { language := l, source, probes }

end Script

end Scratchpad
