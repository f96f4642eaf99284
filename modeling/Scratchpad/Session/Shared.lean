import Scratchpad.Engine.Course
import Scratchpad.Session

/-!
Sessions used by many at once. A submission takes the place of the current run, cancels it, enters
the engine, and tidies up when its run is over; who cancels a session first takes its current run and
then cancels it. Each of these is one event, and between any two of them others may come: events of
other submissions, and events of the engine.
-/

set_option autoImplicit false
set_option relaxedAutoImplicit false

namespace Scratchpad.Session

/-- How far a submission has come. -/
inductive Stage where
  /-- Its run is the current one. The run before it, if there was one, is still to be cancelled. -/
  | superseding (previous : Option RunId)
  | entering
  | entered (n : Nat)
  | refused (fault : SubmitFault)
  | returned (answer : Answer)

namespace Stage

def isSuperseding : Stage → Bool
  | .superseding _ => true
  | _ => false

def isWaiting : Stage → Bool
  | .superseding _ => true
  | .entering => true
  | _ => false

def ofSubmit : Except SubmitFault Nat → Stage
  | .ok n => .entered n
  | .error f => .refused f

/-- What a submission comes to, if that is settled and it has not returned yet. -/
def answer? (e : Engine) : Stage → Option Answer
  | .entered n => e.answer? n
  | .refused f => some (.error f)
  | _ => none

end Stage

structure Submission where
  request : Request
  stage : Stage

/-- A session with its engine and all who use it. -/
structure Shared where
  session : Session := {}
  engine : Engine
  /-- The submissions in the order in which they took the place of each other. -/
  submissions : List Submission := []
  /-- What was current when it was taken to be cancelled, and is still to be cancelled. -/
  taken : List (Option RunId) := []

namespace Shared

inductive Event where
  | replace (r : Request)
  | supersede (k : Nat)
  | enter (k : Nat)
  | finish (k : Nat)
  | take
  /-- The run taken at this place of the list is cancelled. -/
  | dismiss (k : Nat)
  | engine (event : Scratchpad.Event)

def put (s : Shared) (k : Nat) (sub : Submission) (stage : Stage) : Shared :=
  { s with submissions := s.submissions.set k { sub with stage } }

/-- What an event does, if it can happen now. -/
def step? (s : Shared) : Event → Option Shared
  | .replace r =>
    let (session, previous) := s.session.replace r.id
    some { s with session, submissions := s.submissions ++ [⟨r, .superseding previous⟩] }
  | .supersede k => do
    let sub ← s.submissions[k]?
    match sub.stage with
    | .superseding previous =>
      some { s.put k sub .entering with engine := (dismiss s.engine previous).1 }
    | _ => none
  | .enter k => do
    let sub ← s.submissions[k]?
    match sub.stage with
    | .entering =>
      let (engine, result) := s.engine.submit sub.request
      some { s.put k sub (.ofSubmit result) with engine }
    | _ => none
  | .finish k => do
    let sub ← s.submissions[k]?
    let answer ← sub.stage.answer? s.engine
    return { s.put k sub (.returned answer) with session := s.session.clear sub.request.id }
  | .take =>
    let (session, current) := s.session.take
    some { s with session, taken := s.taken ++ [current] }
  | .dismiss k => do
    let current ← s.taken[k]?
    return { s with engine := (Session.dismiss s.engine current).1, taken := s.taken.eraseIdx k }
  | .engine event => do
    let engine ← s.engine.step? event
    return { s with engine }

def ids (s : Shared) : List RunId :=
  s.submissions.map (·.request.id)

/-- The identifiers of the submissions whose runs are in flight. -/
def tracked (s : Shared) : List RunId :=
  s.ids.filter s.engine.isRunning

/-- Whether nobody is about to cancel a run that was current before. -/
def IsQuiet (s : Shared) : Prop :=
  (∀ sub ∈ s.submissions, sub.stage.isSuperseding = false) ∧ s.taken = []

end Shared

end Scratchpad.Session
