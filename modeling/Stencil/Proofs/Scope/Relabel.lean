import Stencil.Proofs.Scope.Layout

/-!
# Stencil.Proofs.Scope.Relabel — the same scope with other places for its errors

Where the errors of a scope are placed has nothing to do with what its steps are. `Scope.relabel`
changes the places and nothing else: the same steps are immediate, and the same ones are run when
the scope is started (`Scope.now_relabel`, `Scope.later_relabel`).
-/

namespace Stencil

variable (place : Option Position → Option Position)

/-- The call with another place. -/
def Call.relabel (c : Call) : Call := { c with position := place c.position }

/-- A directive with other places, besides its expression. -/
def Head.relabel (h : Head) : Head :=
  { h with calls := h.calls.map (·.relabel place), position := place h.position }

/-- The test with other places. -/
def Test.relabel (t : Test) : Test := { t with calls := t.calls.map (·.relabel place) }

mutual

/-- The step with other places. -/
def Step.relabel : Step → Step
  | .text s => .text s
  | .output head value => .output (head.relabel place) value
  | .choice alternatives => .choice (relabelAlternatives alternatives)
  | .iterate head collection body => .iterate (head.relabel place) collection body.relabel
  | .custom head path bodies => .custom (head.relabel place) path (relabelBodies bodies)
  | .declare head name body => .declare (head.relabel place) name body.relabel
  | .render head name => .render (head.relabel place) name
  | .inclusion head name => .inclusion (head.relabel place) name

/-- The branches with other places. -/
def relabelAlternatives : List Alternative → List Alternative
  | [] => []
  | .mk head test body :: others =>
    .mk (head.relabel place) (test.map (·.relabel place)) body.relabel ::
      relabelAlternatives others

/-- The bodies with other places. -/
def relabelBodies : List Scope → List Scope
  | [] => []
  | body :: bodies => body.relabel :: relabelBodies bodies

/-- The scope with other places. -/
def Scope.relabel : Scope → Scope
  | .mk steps => .mk (relabelSteps steps)

/-- The steps with other places. -/
def relabelSteps : List Step → List Step
  | [] => []
  | s :: ss => s.relabel :: relabelSteps ss

end

theorem relabelSteps_eq (ss : List Step) : relabelSteps place ss = ss.map (·.relabel place) := by
  induction ss with
  | nil => rfl
  | cons s ss ih => rw [relabelSteps, ih, List.map_cons]

theorem relabelBodies_eq (bodies : List Scope) :
    relabelBodies place bodies = bodies.map (·.relabel place) := by
  induction bodies with
  | nil => rfl
  | cons body bodies ih => rw [relabelBodies, ih, List.map_cons]

/-! ## Steps that may have to wait -/

mutual

/-- Places do not change whether a step waits. -/
theorem Step.isImmediate_relabel : ∀ s : Step,
    (s.relabel place).isImmediate = s.isImmediate
  | .text _ => rfl
  | .output head _ => by
    rw [Step.relabel, Step.isImmediate, Step.isImmediate]
    exact List.isEmpty_map
  | .declare head _ body => by
    rw [Step.relabel, Step.isImmediate, Step.isImmediate]
    exact List.isEmpty_map
  | .choice alternatives => by
    rw [Step.relabel, Step.isImmediate, Step.isImmediate]
    exact allImmediate_relabel alternatives
  | .iterate .. | .custom .. | .render .. | .inclusion .. => rfl

/-- Nor whether a choice does. -/
theorem allImmediate_relabel : ∀ as : List Alternative,
    allImmediate (relabelAlternatives place as) = allImmediate as
  | [] => rfl
  | .mk head test body :: others => by
    have hcalls : (head.relabel place).calls.isEmpty = head.calls.isEmpty := List.isEmpty_map
    have hbody := body.isImmediate_relabel
    have hothers := allImmediate_relabel others
    rw [relabelAlternatives, allImmediate, allImmediate, Alternative.isImmediate.eq_def,
      Alternative.isImmediate.eq_def]
    -- there are as many calls in the test as before
    cases test with
    | none =>
      dsimp only [Option.map_none]
      rw [hcalls, hbody, hothers]
    | some t =>
      have htest : (t.relabel place).calls.isEmpty = t.calls.isEmpty := List.isEmpty_map
      dsimp only [Option.map_some]
      rw [hcalls, htest, hbody, hothers]

theorem Scope.isImmediate_relabel : ∀ s : Scope,
    (s.relabel place).isImmediate = s.isImmediate
  | .mk steps => by
    rw [Scope.relabel, Scope.isImmediate, Scope.isImmediate]
    exact stepsImmediate_relabel steps

theorem stepsImmediate_relabel : ∀ ss : List Step,
    stepsImmediate (relabelSteps place ss) = stepsImmediate ss
  | [] => rfl
  | s :: ss => by
    rw [relabelSteps, stepsImmediate, stepsImmediate, s.isImmediate_relabel,
      stepsImmediate_relabel ss]

end

namespace Scope

/-- The steps of a scope are given places one by one. -/
theorem steps_relabel (s : Scope) : (s.relabel place).steps = relabelSteps place s.steps := by
  obtain ⟨steps⟩ := s
  rfl

/-- The first step that waits is still the first one. -/
theorem isImmediate_comp_relabel : Step.isImmediate ∘ Step.relabel place = Step.isImmediate :=
  funext (Step.isImmediate_relabel place)

/-- Which steps are run at once does not depend on the places. -/
theorem now_relabel (s : Scope) : (s.relabel place).now = relabelSteps place s.now := by
  rw [now, steps_relabel, relabelSteps_eq, List.takeWhile_map, isImmediate_comp_relabel,
    relabelSteps_eq, now]

/-- The steps that run later are the same but for places. -/
theorem later_relabel (s : Scope) : (s.relabel place).later = relabelSteps place s.later := by
  rw [later, steps_relabel, relabelSteps_eq, List.dropWhile_map, isImmediate_comp_relabel,
    relabelSteps_eq, later]

end Scope

/-! ## No change at all -/

/-- Calls that keep their places are the same. -/
theorem Call.map_relabel_id (cs : List Call) : cs.map (·.relabel id) = cs := List.map_id cs

theorem Head.relabel_id (h : Head) : h.relabel id = h := by
  unfold relabel
  rw [Call.map_relabel_id]
  rfl

theorem Test.relabel_id (t : Test) : t.relabel id = t := by
  unfold relabel
  rw [Call.map_relabel_id]

mutual

theorem Step.relabel_id : ∀ s : Step, s.relabel id = s
  | .text _ => rfl
  | .output head _ => by rw [Step.relabel, head.relabel_id]
  | .choice alternatives => by rw [Step.relabel, relabelAlternatives_id alternatives]
  | .iterate head _ body => by rw [Step.relabel, head.relabel_id, body.relabel_id]
  | .custom head _ bodies => by rw [Step.relabel, head.relabel_id, relabelBodies_id bodies]
  | .declare head _ body => by rw [Step.relabel, head.relabel_id, body.relabel_id]
  | .render head _ => by rw [Step.relabel, head.relabel_id]
  | .inclusion head _ => by rw [Step.relabel, head.relabel_id]

theorem relabelAlternatives_id : ∀ as : List Alternative, relabelAlternatives id as = as
  | [] => rfl
  | .mk head test body :: others => by
    have htest : test.map (·.relabel id) = test := by
      cases test with
      | none => rfl
      | some t => exact congrArg some t.relabel_id
    rw [relabelAlternatives, head.relabel_id, htest, body.relabel_id,
      relabelAlternatives_id others]

theorem relabelBodies_id : ∀ bodies : List Scope, relabelBodies id bodies = bodies
  | [] => rfl
  | body :: bodies => by rw [relabelBodies, body.relabel_id, relabelBodies_id bodies]

theorem Scope.relabel_id : ∀ s : Scope, s.relabel id = s
  | .mk steps => by rw [Scope.relabel, relabelSteps_id steps]

theorem relabelSteps_id : ∀ ss : List Step, relabelSteps id ss = ss
  | [] => rfl
  | s :: ss => by rw [relabelSteps, s.relabel_id, relabelSteps_id ss]

end

end Stencil
