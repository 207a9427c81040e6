import Stencil.Proofs.Task.Similar

/-!
# Stencil.Proofs.Task.Passage — what becomes of a text on its way

In a block with modifiers a text is made into a value, sent through the modifiers from left to
right, and displayed (`Modifiers.pass`). What comes of it goes on through the blocks around it, as
long as the render has not been stopped (`World.runNow_write_wrap`).
-/

namespace Stencil

/-- What becomes of a text in a block with these modifiers. An empty text stays empty. -/
def Modifiers.pass (modifiers : Modifiers) (chain : List AppliedModifier) (text : String) :
    Except RenderError String :=
  if text = "" then .ok ""
  else do
    let v ← chain.foldlM (fun v m => modifiers.apply m.name v m.args) (.text text)
    return v.display

/-- A text passes no modifiers unchanged. -/
theorem Modifiers.pass_nil (modifiers : Modifiers) (text : String) :
    modifiers.pass [] text = .ok text := by
  unfold pass
  split
  · next h => rw [h]
  · rfl

namespace World

variable {H : Host} {w : World H}

/-- Running a sequence at once. -/
theorem runNow_bind {α β : Type} (p : Program α) (f : α → Program β) (w : World H) :
    w.runNow (p.bind f) = (w.runNow p).bind fun r => r.2.runNow (f r.1) := by
  induction p generalizing w with
  | done a => rfl
  | ask q k ih =>
    rw [Program.ask_bind]
    cases hq : w.answer? q with
    | none => rw [runNow, runNow, hq]; rfl
    | some r => rw [runNow_ask hq, runNow_ask hq, ih]

/-- The modifiers of a block ask for nothing but what the modifiers of the render do. -/
theorem runNow_applyAll (chain : List AppliedModifier) (v : Value) :
    w.runNow (Channel.applyAll chain v) =
      some (chain.foldlM (fun v m => w.modifiers.apply m.name v m.args) v, w) := by
  induction chain generalizing v with
  | nil => rfl
  | cons m chain ih =>
    have happly : w.runNow (Channel.applyAll (m :: chain) v) =
        w.runNow (ExceptT.bindCont (Channel.applyAll chain)
          (w.modifiers.apply m.name v m.args) : Program (Except RenderError Value)) := rfl
    rw [happly, List.foldlM_cons]
    cases w.modifiers.apply m.name v m.args with
    | error e => rfl
    | ok v' => exact ih v'

/-- An empty text goes nowhere. -/
theorem runNow_write_empty (hw : w.halted = false) (channel : Channel) :
    w.runNow (channel.write "") = some (.ok (), w) := by
  cases channel with
  | nil =>
    have hwrite : w.write "" = (.ok (), w) := by
      unfold write
      rw [hw]
      rfl
    show some (w.write "") = _
    rw [hwrite]
  | cons chain outer =>
    rw [Channel.write_cons]
    show w.runNow (if w.halted = true then throw .aborted else _ : Action Unit) = _
    rw [hw]
    rfl

/-- A text that is written in a block goes through the modifiers of the block, and what comes of it
goes on from there. -/
theorem runNow_write_wrap (hw : w.halted = false) (chain : List AppliedModifier)
    (outer : Channel) (text : String) :
    w.runNow ((Channel.wrap chain outer).write text) =
      match w.modifiers.pass chain text with
      | .ok passed => w.runNow (outer.write passed)
      | .error e => some (.error e, w) := by
  cases chain with
  | nil =>
    rw [Modifiers.pass_nil]
    rfl
  | cons m chain =>
    by_cases hempty : text = ""
    · -- the block keeps it back, and the blocks around it would do the same
      subst hempty
      exact (runNow_write_empty hw _).trans (runNow_write_empty hw outer).symm
    · have hwrite : w.runNow ((Channel.wrap (m :: chain) outer).write text) =
          w.runNow (Channel.applyAll (m :: chain) (.text text) >>= fun v =>
            outer.write v.display : Action Unit) := by
        show w.runNow (Channel.write ((m :: chain) :: outer) text) = _
        rw [Channel.write_cons]
        show w.runNow (if w.halted = true then throw .aborted else _ : Action Unit) = _
        rw [hw, if_neg (by decide), if_neg hempty]
      have hbind := runNow_bind (Channel.applyAll (m :: chain) (.text text))
        (ExceptT.bindCont fun v => outer.write v.display) w
      rw [hwrite]
      refine hbind.trans ?_
      rw [runNow_applyAll, Modifiers.pass, if_neg hempty]
      cases (m :: chain).foldlM (fun v m => w.modifiers.apply m.name v m.args) (.text text) with
      | error e => rfl
      | ok v => rfl

end World

end Stencil
