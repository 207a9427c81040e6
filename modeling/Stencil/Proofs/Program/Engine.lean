import Stencil.Program.Engine
import Stencil.Proofs.Program.Through

/-!
# Stencil.Proofs.Program.Engine — what directives work with, and what wraps it

A directive works with an engine: the session itself, or what a block with modifiers has wrapped
around the engine that it works with. A wrapper sends texts through the modifiers of its block and
hands all else on (`Engine.modified`). Programs know of wrappers only the way that texts take
through them, and that is all there is to know: any stack of them is the session, with its own texts
and those of all who work with it sent that way (`Engine.foldl_withModifiers`).
-/

namespace Stencil

/-- The way through the blocks with these modifiers, the outermost block first. -/
def Channel.around (chains : List (List AppliedModifier)) : Channel :=
  chains.foldl (fun outer chain => wrap chain outer) []

namespace Engine

/-- The session, with all texts sent on this way: its own, and those of whoever works with it. -/
def ofChannel (way : Channel) : Engine :=
  { session with
    way
    write := way.write
    iterate := fun collection base site body => runIteration collection base site (body way)
    invokeCustom := runCustom way
    renderPartial := runTemplate way }

/-- An engine applies modifiers as a channel does. -/
theorem applyAll_ofChannel (way : Channel) (ms : List AppliedModifier) (v : Value) :
    (ofChannel way).applyAll ms v = Channel.applyAll ms v := by
  induction ms generalizing v with
  | nil => rfl
  | cons m ms ih =>
    rw [applyAll, Channel.applyAll]
    exact bind_congr ih

/-- A wrapper makes the way of texts longer, and changes nothing else. -/
theorem withModifiers_ofChannel (way : Channel) (chain : List AppliedModifier) :
    (ofChannel way).withModifiers chain = ofChannel (Channel.wrap chain way) := by
  unfold withModifiers Channel.wrap
  split
  · rfl
  · have hwrite : ((ofChannel way).modified chain).write = Channel.write (chain :: way) := by
      funext text
      rw [Channel.write_cons, modified]
      simp only [applyAll_ofChannel]
      rfl
    exact congrArg (fun write => { ofChannel (chain :: way) with write }) hwrite

/-- Engines that are derived from one another write through the channels around one another. -/
theorem foldl_withModifiers (chains : List (List AppliedModifier)) :
    chains.foldl withModifiers session = ofChannel (Channel.around chains) := by
  have hfold : ∀ way : Channel, chains.foldl withModifiers (ofChannel way) =
      ofChannel (chains.foldl (fun outer chain => Channel.wrap chain outer) way) := by
    induction chains with
    | nil => exact fun way => rfl
    | cons chain chains ih =>
      intro way
      rw [List.foldl_cons, List.foldl_cons, withModifiers_ofChannel]
      exact ih (Channel.wrap chain way)
  exact hfold []

end Engine

end Stencil
