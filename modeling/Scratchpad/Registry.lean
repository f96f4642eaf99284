import Scratchpad.RunId

/-!
The registry of the runs in flight. A registration is an identifier with a generation of its own, so
that a run whose entry has been taken away cannot take away the entry of a later run with the same
identifier. To cancel a run is to take its entry away and to signal its generation for good.
-/

set_option autoImplicit false
set_option relaxedAutoImplicit false

namespace Scratchpad

structure Registration where
  id : RunId
  /-- A number that no other registration has. -/
  generation : Nat
  deriving DecidableEq

structure Registry where
  /-- The entries, the latest first. -/
  entries : List Registration := []
  next : Nat := 0
  /-- The generations that have been asked to stop. -/
  signalled : List Nat := []

namespace Registry

def tracks (r : Registry) (id : RunId) : Bool :=
  r.entries.any fun e => e.id = id

def size (r : Registry) : Nat :=
  r.entries.length

def isSignalled (r : Registry) (g : Registration) : Bool :=
  r.signalled.contains g.generation

/-- Registers a run, unless one with this identifier is in flight. Each attempt uses up a
generation. -/
def register (r : Registry) (id : RunId) : Registry × Option Registration :=
  let g : Registration := ⟨id, r.next⟩
  if r.tracks id then ({ r with next := r.next + 1 }, none)
  else ({ r with next := r.next + 1, entries := g :: r.entries }, some g)

/-- Asks the run with this identifier to stop and forgets it; says whether there was one. -/
def cancel (r : Registry) (id : RunId) : Registry × Bool :=
  match r.entries.find? fun e => e.id = id with
  | some e =>
    ({ r with
      entries := r.entries.filter fun e => e.id ≠ id
      signalled := e.generation :: r.signalled }, true)
  | none => (r, false)

def cancelAll (r : Registry) : Registry × Nat :=
  ({ r with entries := [], signalled := r.entries.map (·.generation) ++ r.signalled },
    r.entries.length)

/-- Takes the entry of a registration away. An entry of another generation stays. -/
def release (r : Registry) (g : Registration) : Registry :=
  { r with entries := r.entries.filter fun e => e ≠ g }

end Registry

end Scratchpad
