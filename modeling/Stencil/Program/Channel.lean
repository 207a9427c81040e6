import Stencil.Program.Basic

/-!
# Stencil.Program.Channel — writing through block modifiers

A text written inside blocks with modifiers passes through the modifiers of the
innermost block, then those of the block around it, and so on to the sink. What comes
out of one block's modifiers enters the next as text; an empty text goes no further.

All else that a block is asked for it passes on to the block around it, so the render is
stopped from inside a block just as it is from outside (`halt_eq`, `isHalted_eq`).
-/

namespace Stencil.Channel

/-- The way of a block with these modifiers. -/
def wrap (modifiers : List AppliedModifier) (channel : Channel) : Channel :=
  if modifiers.isEmpty then channel else modifiers :: channel

/-- Applies modifiers from left to right. -/
def applyAll : List AppliedModifier → Value → Action Value
  | [], v => return v
  | m :: ms, v => do applyAll ms (← Action.modify m v)

/-- Stops the render. -/
def halt : Channel → Action Unit
  | [] => Action.halt
  | _ :: outer => halt outer

/-- Whether the render has been stopped. -/
def isHalted : Channel → Action Bool
  | [] => Action.isHalted
  | _ :: outer => isHalted outer

/-- Halting reaches the render through any number of blocks. -/
theorem halt_eq (channel : Channel) : channel.halt = Action.halt := by
  induction channel with
  | nil => rfl
  | cons modifiers outer ih => exact ih

/-- Whether a render is halted can be asked through any number of blocks. -/
theorem isHalted_eq (channel : Channel) : channel.isHalted = Action.isHalted := by
  induction channel with
  | nil => rfl
  | cons modifiers outer ih => exact ih

/-- Sends a text on its way. A stopped render takes no text, not even an empty one. -/
def write : Channel → String → Action Unit
  | [], text => Action.write text
  | modifiers :: outer, text => do
    if ← isHalted outer then
      throw .aborted
    else if text = "" then
      return ()
    else
      let v ← applyAll modifiers (.text text)
      write outer v.display

/-- A block asks whether the render is halted, drops empty texts, and hands all others on when its
modifiers have been applied. -/
theorem write_cons (modifiers : List AppliedModifier) (outer : Channel) (text : String) :
    write (modifiers :: outer) text = (do
      if ← Action.isHalted then
        throw .aborted
      else if text = "" then
        return ()
      else
        let v ← applyAll modifiers (.text text)
        write outer v.display) := by
  rw [write, isHalted_eq]

end Stencil.Channel
