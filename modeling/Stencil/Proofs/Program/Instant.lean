import Stencil.Proofs.Program.Asks
import Stencil.Proofs.Program.Run

/-!
# Stencil.Proofs.Program.Instant — programs that never wait

A program is instant when it never asks for anything that may have to wait. The steps in the
front of a scope are (`Step.instant_run`).
-/

namespace Stencil

/-- Whether the request is answered without waiting. -/
def Request.isInstant : Request → Bool
  | .call .. | .custom .. | .enter .. => false
  | _ => true

/-- Whether the program asks only for what is answered without waiting. -/
def Program.Instant {α : Type} (p : Program α) : Prop :=
  p.Asks (fun q => q.isInstant = true) fun _ _ => True

theorem Request.isInstant_of_isPlain {q : Request} (h : q.isPlain = true) :
    q.isInstant = true := by
  cases q with
  | write | isHalted | halt | modify => rfl
  | declare | resolve | template | call | custom | enter => cases h

variable [Evaluator]

/-- Without calls there is nothing to wait for. -/
theorem Call.instant_runAll {calls : List Call} (h : calls.isEmpty = true) (frame : Frame)
    (site : Site) : Program.Instant (Call.runAll frame site calls []) := by
  rw [List.isEmpty_iff.1 h]
  exact trivial

/-- A test without calls is decided at once. -/
theorem Head.instant_tested {test : Option Test}
    (h : (match test with | some t => t.calls.isEmpty | none => true) = true) (head : Head)
    (frame : Frame) (site : Site) : Program.Instant (head.tested frame site test) := by
  cases test with
  | none => exact trivial
  | some test =>
    refine Action.asks_bind (Call.instant_runAll h frame site) fun slots => ?_
    exact Action.asks_bind (Action.asks_locate (Action.asks_ofExcept _) _) fun v => trivial

mutual

/-- A step that is immediate does not wait. -/
theorem Step.instant_run : ∀ (s : Step), s.isImmediate = true → ∀ channel frame site,
    Program.Instant (s.run channel frame site)
  | .text s, _, channel, frame, site => by
    rw [Step.run]
    exact Channel.asks_write (fun _ => Request.isInstant_of_isPlain) channel s
  | .output head value, h, channel, frame, site => by
    rw [Step.run]
    refine Action.asks_bind (Call.instant_runAll h frame site) fun slots => ?_
    refine Action.asks_locate ?_ _
    refine Action.asks_bind trivial fun v => ?_
    refine Action.asks_bind (asks_modifyAll (fun _ => Request.isInstant_of_isPlain) _ _ _ _) ?_
    intro v
    exact Channel.asks_write (fun _ => Request.isInstant_of_isPlain) channel v.display
  -- all alternatives are immediate, whichever is going to be taken
  | .choice alternatives, h, channel, frame, site => by
    rw [Step.run]
    exact instant_runChoice alternatives h channel frame site 0
  | .declare head name body, h, channel, frame, site => by
    rw [Step.run]
    refine Action.asks_bind (Call.instant_runAll h frame site) fun slots => ?_
    refine Action.asks_bind (Action.asks_locate (Action.asks_ofExcept _) _) fun modifiers => ?_
    exact ⟨rfl, fun _ _ => trivial⟩

/-- A choice without calls in it is made at once. -/
theorem instant_runChoice : ∀ (as : List Alternative), allImmediate as = true →
    ∀ channel frame site k, Program.Instant (runChoice channel frame site k as)
  | [], _, _, _, _, _ => trivial
  | .mk head test body :: as, h, channel, frame, site, k => by
    rw [allImmediate, Alternative.isImmediate.eq_def, Bool.and_eq_true, Bool.and_eq_true,
      Bool.and_eq_true] at h
    obtain ⟨⟨⟨hcalls, htest⟩, hbody⟩, has⟩ := h
    rw [runChoice_cons]
    refine Action.asks_bind (head.instant_tested htest frame _) fun holds => ?_
    split
    · refine Action.asks_bind (Call.instant_runAll hcalls frame _) fun slots => ?_
      refine Action.asks_bind (Action.asks_locate (Action.asks_ofExcept _) _) fun modifiers => ?_
      exact body.instant_run hbody _ _ _
    · exact instant_runChoice as has channel frame site (k + 1)

theorem Scope.instant_run : ∀ (s : Scope), s.isImmediate = true → ∀ channel frame site,
    Program.Instant (s.run channel frame site)
  | .mk steps, h, channel, frame, site => by
    rw [Scope.run_mk]
    exact instant_runSteps steps h channel frame site 0

theorem instant_runSteps : ∀ (steps : List Step), stepsImmediate steps = true →
    ∀ channel frame site i, Program.Instant (runSteps channel frame site i steps)
  | [], _, _, _, _, _ => trivial
  | s :: ss, h, channel, frame, site, i => by
    rw [stepsImmediate, Bool.and_eq_true] at h
    rw [runSteps]
    refine Action.asks_bind (s.instant_run h.1 channel frame _) fun _ => ?_
    exact instant_runSteps ss h.2 channel frame site (i + 1)

end

end Stencil
