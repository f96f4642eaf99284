import Scratchpad.Engine

/-!
Sessions run one snippet at a time. A session knows its current run; a new run takes its place, and
whoever takes the place of a run cancels it. `submit` and `cancel` put the single steps together as
they follow each other when nothing comes in between.
-/

set_option autoImplicit false
set_option relaxedAutoImplicit false

namespace Scratchpad

structure Session where
  current : Option RunId := none

namespace Session

/-- Makes a run the current one; gives the one before it, which is to be cancelled. -/
def replace (s : Session) (id : RunId) : Session × Option RunId :=
  (⟨some id⟩, s.current)

def take (s : Session) : Session × Option RunId :=
  (⟨none⟩, s.current)

/-- Forgets a run that is over, unless another has taken its place. -/
def clear (s : Session) (id : RunId) : Session :=
  if s.current = some id then ⟨none⟩ else s

def dismiss (e : Engine) : Option RunId → Engine × Bool
  | some id => e.cancel id
  | none => (e, false)

/-- Submits a request: its run becomes the current one, the one before it is cancelled, and then the
run is registered. -/
def submit (s : Session) (e : Engine) (r : Request) :
    Session × Engine × Except SubmitFault Nat :=
  let (s, previous) := s.replace r.id
  (s, (dismiss e previous).1.submit r)

def cancel (s : Session) (e : Engine) : Session × Engine × Bool :=
  let (s, current) := s.take
  (s, dismiss e current)

end Session

end Scratchpad
