import Mathlib.Data.List.TakeWhile
import Stencil.Scope.Layout

/-!
# Stencil.Proofs.Scope.Layout — where a scope is cut

Whether a step can wait can be told from the step, without laying it out (`Step.isImmediate`). The
front of a scope holds the steps before the first one that can (`Scope.now`), the chain all others
(`Scope.later`). Here it is shown when there is a chain at all (`Scope.isAsync_eq`); what the two
parts do is shown in `Stencil.Proofs.Program.Order`.
-/

namespace Stencil

/-! ## Steps that never wait -/

mutual

/-- Whether a step can neither wait nor hand control to anything outside the scope. -/
def Step.isImmediate : Step → Bool
  | .text _ => true
  | .output head _ | .declare head .. => head.calls.isEmpty
  | .choice alternatives => allImmediate alternatives
  | .iterate .. | .custom .. | .render .. | .inclusion .. => false

/-- Whether all branches are immediate. -/
def allImmediate : List Alternative → Bool
  | [] => true
  | a :: as => a.isImmediate && allImmediate as

/-- Whether a branch makes no calls and its body is immediate. -/
def Alternative.isImmediate : Alternative → Bool
  | .mk head test body =>
    head.calls.isEmpty && (match test with | some t => t.calls.isEmpty | none => true) &&
      body.isImmediate

/-- Whether all steps of a scope are immediate. -/
def Scope.isImmediate : Scope → Bool
  | .mk steps => stepsImmediate steps

/-- Whether all steps of a list are immediate. -/
def stepsImmediate : List Step → Bool
  | [] => true
  | s :: ss => s.isImmediate && stepsImmediate ss

end

namespace Scope

/-- The steps before the first one that may have to wait. -/
def now (s : Scope) : List Step := s.steps.takeWhile Step.isImmediate

/-- The steps from the first one on that may have to wait. -/
def later (s : Scope) : List Step := s.steps.dropWhile Step.isImmediate

/-- No step is lost, and none is moved. -/
theorem now_append_later (s : Scope) : s.now ++ s.later = s.steps :=
  List.takeWhile_append_dropWhile

/-- Steps are immediate if each of them is. -/
theorem stepsImmediate_eq_all (steps : List Step) :
    stepsImmediate steps = steps.all Step.isImmediate := by
  induction steps with
  | nil => rfl
  | cons s ss ih => rw [stepsImmediate, ih, List.all_cons]

/-- Nothing is left for later just if no step may have to wait. -/
theorem isEmpty_later (s : Scope) : s.later.isEmpty = s.isImmediate := by
  obtain ⟨steps⟩ := s
  rw [isImmediate, stepsImmediate_eq_all, Bool.eq_iff_iff, List.isEmpty_iff, List.all_eq_true]
  exact List.dropWhile_eq_nil_iff

end Scope

/-- A step goes to the front just if neither it nor one before it may have to wait. -/
theorem takeWhile_isImmediate_concat (steps : List Step) (s : Step) :
    (steps ++ [s]).takeWhile Step.isImmediate = steps.takeWhile Step.isImmediate ++
      if steps.all Step.isImmediate && s.isImmediate then [s] else [] := by
  induction steps with
  | nil => cases h : s.isImmediate <;> simp [h]
  | cons t ts ih => cases h : t.isImmediate <;> simp [h, ih]

/-- A last step runs later, unless it and all before it are immediate. -/
theorem dropWhile_isImmediate_concat (steps : List Step) (s : Step) :
    (steps ++ [s]).dropWhile Step.isImmediate = steps.dropWhile Step.isImmediate ++
      if steps.all Step.isImmediate && s.isImmediate then [] else [s] := by
  induction steps with
  | nil => cases h : s.isImmediate <;> simp [h]
  | cons t ts ih => cases h : t.isImmediate <;> simp [h, ih]

/-! ## When the chain begins -/

namespace Builder

variable (b : Builder)

/-- Closing the open run leaves none open. -/
theorem run_flush : b.flush.run = none := by
  unfold flush
  split
  · unfold place
    split
    · rfl
    · rfl
  · assumption

@[simp] theorem next_flush : b.flush.next = b.next := by
  unfold flush
  split
  · unfold place
    split
    · rfl
    · rfl
  · rfl

/-- What is put behind all others does not begin the chain. -/
@[simp] theorem isEmpty_chain_place (step : SyncStep) :
    (b.place step).chain.isEmpty = b.chain.isEmpty := by
  unfold place
  split
  · rfl
  · next h =>
    simp [h]

@[simp] theorem isEmpty_chain_flush : b.flush.chain.isEmpty = b.chain.isEmpty := by
  unfold flush
  split
  · exact isEmpty_chain_place _ _
  · rfl

/-- A synchronous step joins the chain only when there is one already, or when it has calls. -/
theorem isEmpty_chain_pushSync (step : SyncStep) (calls : List Call) :
    (b.pushSync step calls).chain.isEmpty = (b.chain.isEmpty && calls.isEmpty) := by
  unfold pushSync
  cases calls with
  | nil => simp
  | cons c cs => simp

theorem isEmpty_chain_pushAsync (stage : Stage) (calls : List Call) :
    (b.pushAsync stage calls).chain.isEmpty = false := by
  unfold pushAsync
  simp

/-- An output begins one if it has calls. -/
theorem isEmpty_chain_output (head : Head) (value : Formula) :
    (b.output head value).chain.isEmpty = (b.chain.isEmpty && head.calls.isEmpty) := by
  unfold output
  split
  · next h =>
    rw [h, Bool.and_true]
    dsimp only
    split
    · exact b.isEmpty_chain_flush
    · rfl
  · exact b.isEmpty_chain_pushSync _ _

/-- So does a choice if there are any in its arms. -/
theorem isEmpty_chain_choice (arms : List Arm) :
    (b.choice arms).chain.isEmpty = (b.chain.isEmpty && !arms.any Arm.isAsync) := by
  unfold choice
  split
  · next h => rw [isEmpty_chain_pushAsync, h, Bool.not_true, Bool.and_false]
  · next h =>
    rw [Bool.not_eq_true] at h
    rw [isEmpty_chain_pushSync, h, List.isEmpty_nil, Bool.not_false]

end Builder

/-- A step stands where the builder is, and the builder stays there until it is told to go on. -/
theorem Builder.next_add (b : Builder) (s : Step) : (b.add s).next = b.next := by
  have hplace : ∀ (b : Builder) step, (b.place step).next = b.next := by
    intro b step
    unfold place
    split
    · rfl
    · rfl
  have hsync : ∀ step calls, (b.pushSync step calls).next = b.next := by
    intro step calls
    unfold pushSync
    dsimp only
    split
    · rw [hplace, next_flush]
    · exact b.next_flush
  -- numbers are counted when a step has been added, not while it is
  cases s with
  | text s => rfl
  | output head value =>
    show (b.output head value).next = b.next
    unfold output
    dsimp only
    split
    · split
      · exact b.next_flush
      · rfl
    · exact hsync _ _
  | choice alternatives =>
    show (b.choice (layoutArms alternatives)).next = b.next
    unfold choice
    split
    · exact b.next_flush
    · exact hsync _ _
  | declare head name body => exact hsync _ _
  | iterate | custom | render | inclusion => exact b.next_flush

mutual

/-- A step begins the chain just if it may have to wait. -/
theorem Builder.isEmpty_chain_add (b : Builder) : ∀ s : Step,
    (b.add s).chain.isEmpty = (b.chain.isEmpty && s.isImmediate)
  | .text s => by rw [Builder.add, Step.isImmediate, Bool.and_true, Builder.text]
  | .output head value => b.isEmpty_chain_output head value
  | .choice alternatives => by
    rw [Builder.add, Step.isImmediate, Builder.isEmpty_chain_choice, any_layoutArms, Bool.not_not]
  | .declare head name body => b.isEmpty_chain_pushSync _ _
  | .iterate .. | .custom .. | .render .. | .inclusion .. => by
    rw [Builder.add, Step.isImmediate, Builder.isEmpty_chain_pushAsync, Bool.and_false]

/-- The chain is empty as long as all steps are immediate. -/
theorem Builder.isEmpty_chain_addAll (b : Builder) : ∀ steps : List Step,
    (b.addAll steps).chain.isEmpty = (b.chain.isEmpty && stepsImmediate steps)
  | [] => by rw [Builder.addAll, stepsImmediate, Bool.and_true]
  | s :: ss => by
    rw [Builder.addAll, stepsImmediate, Builder.isEmpty_chain_addAll _ ss, Builder.advance,
      Builder.isEmpty_chain_add _ s,
      Bool.and_assoc]

/-- A choice may have to wait just if one of its branches is not immediate. -/
theorem any_layoutArms : ∀ alternatives : List Alternative,
    (layoutArms alternatives).any Arm.isAsync = !allImmediate alternatives
  | [] => rfl
  | .mk head test body :: others => by
    rw [layoutArms, List.any_cons, any_layoutArms others, Arm.isAsync, allImmediate,
      Alternative.isImmediate.eq_def]
    have hbody : body.layout.isAsync = !body.isImmediate := Scope.isAsync_eq body
    rw [hbody]
    cases test <;> simp [Bool.not_and, Bool.or_assoc, Bool.or_comm, Bool.or_left_comm]

/-- A scope has a chain just if one of its steps may have to wait. -/
theorem Scope.isAsync_eq : ∀ s : Scope, s.isAsync = !s.isImmediate
  | .mk steps => by
    rw [Scope.isAsync, Scope.layout, Builder.finish, Layout.isAsync, Layout.chain,
      Builder.isEmpty_chain_flush, Builder.isEmpty_chain_addAll, Scope.isImmediate, List.isEmpty_nil,
      Bool.true_and]

end

end Stencil
