import Stencil.Program.Run

/-!
# Stencil.Program.Engine — what directives work with

A directive works with an engine: the session itself, or what a block with modifiers has wrapped
around the engine that it works with. A wrapper sends texts through the modifiers of its block, and
has iterations, helpers and partials work with itself; all else it hands on.

Programs know an engine by the way that its texts take, which is all they are told of the wrappers
around the session.
-/

namespace Stencil

/-- What a directive can do. -/
structure Engine where
  /-- The way that texts take: what those are given who are to work with the same engine. -/
  way : Channel
  write : String → Action Unit
  halt : Action Unit
  isHalted : Action Bool
  /-- Runs a body for each item of a collection. -/
  iterate : Value → Frame → Site → (Channel → Frame → Site → Action Unit) → Action Unit
  declare : String → Fragment → Action Unit
  resolve : String → Action (Option Fragment)
  /-- Hands bodies to the function at a path. -/
  invokeCustom : String → Frame → Site → List Scope → Action Unit
  /-- Renders another template. -/
  renderPartial : String → Frame → Site → Action Unit
  template : String → Action Scope
  modify : AppliedModifier → Value → Action Value

namespace Engine

/-- The engine of a render. -/
def session : Engine where
  way := []
  write := Action.write
  halt := Action.halt
  isHalted := Action.isHalted
  iterate collection base site body := runIteration collection base site (body [])
  declare := Action.declare
  resolve := Action.resolve
  invokeCustom := runCustom []
  renderPartial := runTemplate []
  template := Action.template
  modify := Action.modify

/-- Applies modifiers from left to right. -/
def applyAll (engine : Engine) : List AppliedModifier → Value → Action Value
  | [], v => return v
  | m :: ms, v => do engine.applyAll ms (← engine.modify m v)

/-- The engine with its texts sent through modifiers before. A stopped render takes no text, and an
empty one is not sent on. -/
def modified (inner : Engine) (chain : List AppliedModifier) : Engine where
  way := chain :: inner.way
  write text := do
    if ← inner.isHalted then
      throw .aborted
    else if text = "" then
      return ()
    else
      let v ← inner.applyAll chain (.text text)
      inner.write v.display
  halt := inner.halt
  isHalted := inner.isHalted
  iterate collection base site body := runIteration collection base site (body (chain :: inner.way))
  declare := inner.declare
  resolve := inner.resolve
  invokeCustom := runCustom (chain :: inner.way)
  renderPartial := runTemplate (chain :: inner.way)
  template := inner.template
  modify := inner.modify

/-- The engine of a block with these modifiers. -/
def withModifiers (inner : Engine) (chain : List AppliedModifier) : Engine :=
  if chain.isEmpty then inner else inner.modified chain

end Engine

end Stencil
