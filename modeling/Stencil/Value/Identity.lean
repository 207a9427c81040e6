/-!
# Stencil.Value.Identity — what makes two things the same

Sequences and objects are compared by identity, not by their contents. What comes from
outside carries a number of its own. What a render makes is known by the place at which
it was made. A place is told by the way that leads to it, through steps, passes and
bodies, so no two moments of a render are at one place, whatever runs beside them.
-/

namespace Stencil

/-- A place in the course of a render. -/
inductive Site where
  /-- Where the part of a render with this number starts. -/
  | start (n : Nat)
  /-- A step of the scope that runs at a place. -/
  | step (outer : Site) (i : Nat)
  /-- What a step runs: one of its alternatives, passes or bodies. -/
  | part (outer : Site) (i : Nat)
  /-- A call that a step makes. -/
  | call (outer : Site) (i : Nat)
deriving DecidableEq, Repr

/-- What a sequence or object is known by. One that is fresh has just been made, and no frame
holds it. -/
inductive Identity where
  | given (n : Nat)
  | made (site : Site)
  | fresh
deriving DecidableEq, Repr

namespace Identity

/-- Whether two identities are of one thing. What is fresh equals nothing, not even itself. -/
def same : Identity → Identity → Bool
  | fresh, _ | _, fresh => false
  | a, b => a = b

/-- The identity of a thing that a frame made at this place holds. -/
def heldAt (site : Site) : Identity → Identity
  | fresh => made site
  | id => id

end Identity

end Stencil
