import Stencil.Proofs.Program.Order

/-!
# Stencil.Proofs.Program.Run — how the programs of scopes are put together

A branch is taken by its test (`runChoice_cons`). Making calls adds one result for each call
(`Call.always_runAll`).
-/

namespace Stencil

variable [Evaluator] (channel : Channel) (frame : Frame) (site : Site)

/-! ## Calls -/

namespace Call

/-- Calls in a row are made one after the other. -/
theorem runAll_append (cs ds : List Call) (slots : List Value) :
    runAll frame site (cs ++ ds) slots =
      (runAll frame site cs slots >>= fun slots => runAll frame site ds slots) := by
  induction cs generalizing slots with
  | nil => rfl
  | cons c cs ih =>
    rw [List.cons_append, runAll, runAll, bind_assoc]
    congr 1
    funext v
    exact ih (slots ++ [v])

/-- Each call adds its result to those that are there. -/
theorem always_runAll (cs : List Call) (slots : List Value) :
    Action.Always (fun s => ∃ new, s = slots ++ new ∧ new.length = cs.length)
      (runAll frame site cs slots) := by
  induction cs generalizing slots with
  | nil => exact Action.always_pure ⟨[], (List.append_nil slots).symm, rfl⟩
  | cons c cs ih =>
    refine (Action.always_true _).bind fun v _ => ?_
    refine (ih (slots ++ [v])).mono fun r hr s hs => ?_
    obtain ⟨new, rfl, hlen⟩ := hr s hs
    refine ⟨v :: new, ?_, ?_⟩
    · rw [List.append_assoc, List.singleton_append]
    · rw [List.length_cons, List.length_cons, hlen]

end Call

/-! ## Fragments -/

/-- A declaration makes its calls, and then declares its fragment. -/
theorem Step.run_declare (head : Head) (name : String) (body : Scope) :
    Step.run channel frame site (.declare head name body) =
      (Call.runAll frame site head.calls [] >>= head.declareNamed frame site name body) := by
  rw [Step.run]

/-- A directive that renders a fragment makes its calls, and then asks for the fragment. -/
theorem Step.run_render (head : Head) (name : String) :
    Step.run channel frame site (.render head name) =
      (Call.runAll frame site head.calls [] >>= head.renderNamed channel frame site name) := by
  rw [Step.run]

/-! ## Branches -/

/-- The first alternative whose test holds is taken. -/
theorem runChoice_cons (k : Nat) (head : Head) (test : Option Test) (body : Scope)
    (others : List Alternative) :
    runChoice channel frame site k (.mk head test body :: others) =
      (head.tested frame (.part site k) test >>= fun holds =>
        if holds then head.take channel frame (.part site k) body
        else runChoice channel frame site (k + 1) others) := rfl

end Stencil
