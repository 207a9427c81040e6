import Stencil.Proofs.Frame.Reach

/-!
# Stencil.Proofs.Frame.Doubled — an outermost frame that stands there twice

A template that is rendered by its name sees its data in a frame inside another frame with the same
data. Since a path that leads past the outermost frame stays there, no path can tell the difference
(`Frame.Doubled.lookup_eq`), wherever in a render it starts (`Frame.kinship_doubled`).
-/

namespace Stencil.Frame

/-- Whether a frame is another one, but that the outermost frame of its chain may stand there twice
and that the names of templates may be others. -/
inductive Doubled : Frame → Frame → Prop
  | outermost (data : Value) (name name' : Option String) :
      Doubled (mk data name none) (mk data name' none)
  | twice (data : Value) (name around name' : Option String) :
      Doubled (mk data name (some (mk data around none))) (mk data name' none)
  | inside {f f' : Frame} (data : Value) (name name' : Option String) (h : Doubled f f') :
      Doubled (mk data name (some f)) (mk data name' (some f'))

namespace Doubled

variable {f f' : Frame}

/-- The data are the same, once or twice. -/
theorem data_eq (h : Doubled f f') : f.data = f'.data := by
  cases h <;> rfl

theorem outermost_outermost (h : Doubled f f') : Doubled f.outermost f'.outermost := by
  induction h with
  | outermost data name name' => exact .outermost data name name'
  | twice data name around name' => exact .outermost data around name'
  | inside _ _ _ _ ih => exact ih

/-- Past the outermost frame there is nothing to go to, so that one of the chains may stay where it
is while the other one goes outwards. -/
theorem pop (h : Doubled f f') : Doubled f.pop f'.pop := by
  cases h with
  | outermost data name name' => exact .outermost data name name'
  | twice data name around name' => exact .outermost data around name'
  | inside _ _ _ h => exact h

theorem up (h : Doubled f f') (n : Nat) : Doubled (f.up n) (f'.up n) := by
  induction n generalizing f f' with
  | zero => exact h
  | succ n ih => exact ih h.pop

end Doubled

/-- All that is done with frames keeps them the same, but for an outermost frame that stands there
twice. -/
theorem kinship_doubled : Kinship fun _ => Doubled where
  data h := h.data_eq
  start {_ _ _ anchor} _ h := by
    cases anchor with
    | outermost => exact h.outermost_outermost
    | up n => exact h.up n
  push {_ f f'} v h := .inside v f.name f'.name h
  named {_ f f'} name h := by
    show Doubled (mk f.data (some name) (some f)) (mk f'.data (some name) (some f'))
    rw [h.data_eq]
    exact .inside f'.data (some name) (some name) h

/-- Every path leads to the same data, however far out it starts. -/
theorem Doubled.lookup_eq {f f' : Frame} (h : Doubled f f') (path : String) :
    f.lookup path = f'.lookup path :=
  kinship_doubled.lookup (r := .all) h (Reach.covers_all _)

/-- The frame of a template that is rendered by its name. -/
theorem doubled_named (data : Value) (name : String) :
    Doubled ((ofData data).named name) (ofData data) :=
  .twice data (some name) none none

end Stencil.Frame
