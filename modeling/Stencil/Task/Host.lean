import Stencil.Program.Basic

/-!
# Stencil.Task.Host — what lies outside a render

A host is everything a render reaches out to: the functions in its data, the helpers of
custom blocks and the sink. It has a state, which every request may change.

A function gives its result at once or later; one that gives it later is polled until
it does. A helper works in turns. In a turn it may write, start bodies of its block and
poll the ones it has started, in any order; the turn ends when the helper is through or
waits for its next turn.
-/

namespace Stencil

/-- One turn of a block helper, whose resting state is in `Helper`. -/
inductive Turn (Helper : Type) : Type where
  /-- The helper is through. -/
  | finish (r : Except RenderError Unit)
  /-- The helper waits; `woken` tells whether it has arranged for its next turn. -/
  | wait (woken : Bool) (h : Helper)
  | write (text : String) (k : Except RenderError Unit → Turn Helper)
  | halt (k : Turn Helper)
  | isHalted (k : Bool → Turn Helper)
  /-- Starts a body with this number; the answer is the number of the started body. -/
  | start (body : Nat) (frame : Frame) (k : Nat → Turn Helper)
  /-- Polls a started body; the answer is its outcome, if it has one by now. -/
  | poll (child : Nat) (k : Option (Except RenderError Unit) → Turn Helper)

/-- What comes of a call or of a poll: the result, or what is to be polled. -/
inductive Progressed (Pending : Type) where
  | ready (r : Except RenderError Value)
  /-- The result is not there yet; `woken` tells whether a poll has been arranged for. -/
  | pending (woken : Bool) (d : Pending)

/-- The surroundings of a render. -/
structure Host where
  State : Type
  /-- A result that is not there yet. -/
  Pending : Type
  /-- A block helper between its turns. -/
  Helper : Type
  /-- Hands a text that is not empty to the sink. -/
  write : String → State → Except RenderError Unit × State
  /-- Makes sure that what was written has arrived. -/
  flush : State → Except RenderError Unit × State
  /-- Calls a function. -/
  call : Nat → Frame → List Value → State → Progressed Pending × State
  /-- Polls a result. -/
  poll : Pending → State → Progressed Pending × State
  /-- Hands a block with so many bodies to a function. Functions that have no use for blocks
  have no helper. -/
  help : Nat → Frame → Nat → State → Option Helper × State
  /-- Gives a helper its turn. -/
  turn : Helper → State → Turn Helper × State

end Stencil
