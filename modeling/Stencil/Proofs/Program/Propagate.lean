import Stencil.Proofs.Program.Run

/-!
# Stencil.Proofs.Program.Propagate — errors are passed on

An action propagates errors if it asks for nothing more once it has been answered with an error,
and fails with that error, to which it may have given a place. Whatever a scope does, it
propagates errors (`Scope.propagates_run`).
-/

namespace Stencil

/-- A place does not change what an error is in the end. -/
theorem RenderError.root_locate (e : RenderError) (position : Option Position) :
    (e.locate position).root = e.root := by
  cases e <;> cases position <;> rfl

/-- The error, if it is one. -/
def failure? {α : Type} : Except RenderError α → Option RenderError
  | .error e => some e
  | .ok _ => none

/-- A result that has failed is its error. -/
theorem eq_error_of_failure? {α : Type} {r : Except RenderError α} {e : RenderError}
    (h : failure? r = some e) : r = .error e := by
  cases r with
  | ok a => cases h
  | error e' =>
    cases h
    rfl

/-- The error in an answer, if it is one. -/
def Request.failure? : (q : Request) → q.Answer → Option RenderError
  | .write _, r | .custom .., r | .enter .., r => Stencil.failure? (α := Unit) r
  | .modify .., r | .call .., r => Stencil.failure? (α := Value) r
  | .template _, r => Stencil.failure? (α := Scope) r
  | _, _ => none

namespace Action

variable {α β : Type}

/-- Whether nothing is left to do but to fail with this error, in some place. -/
def Raises (e : RenderError) (x : Action α) : Prop :=
  ∃ e', x = Program.done (.error e') ∧ e'.root = e.root

/-- Whether an answer that is an error ends the action, which fails with this error. -/
def Propagates : Program (Except RenderError α) → Prop
  | .done _ => True
  | .ask q k => (∀ a e, q.failure? a = some e → Raises e (k a)) ∧ ∀ a, Propagates (k a)

/-- A program that is over with an error raises it. -/
theorem raises_done {r : Except RenderError α} {e : RenderError} (h : failure? r = some e) :
    Raises e (Program.done r) :=
  ⟨e, congrArg Program.done (eq_error_of_failure? h), rfl⟩

/-- An error that is raised is raised by all that it is a part of. -/
theorem Raises.bind {e : RenderError} {x : Action α} (h : Raises e x) (f : α → Action β) :
    Raises e (x >>= f : Action β) := by
  obtain ⟨e', rfl, hroot⟩ := h
  exact ⟨e', rfl, hroot⟩

/-- It is raised with a place as well. -/
theorem Raises.locate {e : RenderError} {x : Action α} (h : Raises e x)
    (position : Option Position) : Raises e (x.locate position) := by
  obtain ⟨e', rfl, hroot⟩ := h
  exact ⟨e'.locate position, rfl, (e'.root_locate position).trans hroot⟩

/-- A sequence hands errors on if its parts do. -/
theorem Propagates.bind {x : Action α} {f : α → Action β} (hx : Propagates x)
    (hf : ∀ a, Propagates (f a)) : Propagates (x >>= f : Action β) := by
  induction x with
  | done r =>
    cases r with
    | ok a => exact hf a
    | error e => exact trivial
  | ask q k ih => exact ⟨fun a e h => (hx.1 a e h).bind f, fun a => ih a (hx.2 a)⟩

/-- A result has no request that could fail. -/
theorem propagates_ofExcept (r : Except RenderError α) : Propagates (ofExcept r) := trivial

theorem Propagates.locate {x : Action α} (hx : Propagates x) (position : Option Position) :
    Propagates (x.locate position) := by
  induction x with
  | done r => exact trivial
  | ask q k ih => exact ⟨fun a e h => (hx.1 a e h).locate position, fun a => ih a (hx.2 a)⟩

end Action

open Action (Propagates propagates_ofExcept raises_done)

/-! ## Texts, modifiers and calls -/

/-- A modifier that fails is an error of the action. -/
theorem Action.propagates_modify (m : AppliedModifier) (v : Value) : Propagates (modify m v) :=
  ⟨fun _ _ h => raises_done h, fun _ => trivial⟩

theorem Action.propagates_call (f : Nat) (frame : Frame) (args : List Value) :
    Propagates (call f frame args) :=
  ⟨fun _ _ h => raises_done h, fun _ => trivial⟩

/-- Modifiers in a row hand errors on. -/
theorem Channel.propagates_applyAll (ms : List AppliedModifier) (v : Value) :
    Propagates (applyAll ms v) := by
  induction ms generalizing v with
  | nil => exact trivial
  | cons m ms ih => exact (Action.propagates_modify m v).bind ih

/-- So does writing, through any number of blocks. -/
theorem Channel.propagates_write (channel : Channel) (text : String) :
    Propagates (channel.write text) := by
  induction channel generalizing text with
  | nil => exact ⟨fun _ _ h => raises_done h, fun _ => trivial⟩
  | cons modifiers outer ih =>
    have hasks : Propagates Action.isHalted := ⟨fun _ _ h => (nomatch h), fun _ => trivial⟩
    rw [write_cons]
    refine hasks.bind fun halted => ?_
    split
    · exact trivial
    split
    · exact trivial
    · exact (propagates_applyAll modifiers (.text text)).bind fun v => ih v.display

/-- So does an iteration, if its body does. -/
theorem propagates_runEntries {body : Frame → Site → Action Unit}
    (hbody : ∀ frame site, Propagates (body frame site)) (base : Frame) (site : Site)
    (es : Entries) : Propagates (runEntries body base site es) := by
  fun_induction runEntries body base site es with
  | case1 => exact trivial
  | case2 es p rest h ih => exact (hbody _ _).bind fun _ => ih

/-- So does a block that is handed to a function. -/
theorem propagates_runCustom (channel : Channel) (path : String) (frame : Frame) (site : Site)
    (bodies : List Scope) : Propagates (runCustom channel path frame site bodies) := by
  unfold runCustom
  split
  · exact ⟨fun _ _ h => raises_done h, fun _ => trivial⟩
  · exact trivial

theorem propagates_enter (body : Scope) (channel : Channel) (frame : Frame) (site : Site) :
    Propagates (Action.enter body channel frame site) :=
  ⟨fun _ _ h => raises_done h, fun _ => trivial⟩

/-- An inclusion passes failures on, and that there is no such template is one of them. -/
theorem propagates_runTemplate (channel : Channel) (name : String) (frame : Frame) (site : Site) :
    Propagates (runTemplate channel name frame site) := by
  have hasks : Propagates (Action.template name) :=
    ⟨fun _ _ h => raises_done h, fun _ => trivial⟩
  exact hasks.bind fun scope => propagates_enter scope channel _ _

variable [Evaluator]

theorem propagates_modifyAll (frame : Frame) (slots : List Value) (ms : List PendingModifier)
    (v : Value) : Propagates (modifyAll frame slots ms v) := by
  induction ms generalizing v with
  | nil => exact trivial
  | cons m ms ih =>
    exact (propagates_ofExcept _).bind fun m => (Action.propagates_modify m v).bind ih

theorem Call.propagates_runAll (frame : Frame) (site : Site) (cs : List Call)
    (slots : List Value) : Propagates (Call.runAll frame site cs slots) := by
  induction cs generalizing slots with
  | nil => exact trivial
  | cons c cs ih =>
    refine (Propagates.locate ?_ _).bind fun v => ih _
    unfold Call.run
    dsimp only
    split
    · next f _ =>
      refine (propagates_ofExcept _).bind fun args => ?_
      exact (Action.propagates_call f _ args).bind fun v => trivial
    · exact trivial

theorem Head.propagates_tested (frame : Frame) (site : Site) (head : Head)
    (test : Option Test) : Propagates (head.tested frame site test) := by
  cases test with
  | none => exact trivial
  | some test =>
    refine (Call.propagates_runAll frame site test.calls []).bind fun slots => ?_
    exact ((propagates_ofExcept _).locate _).bind fun v => trivial

/-! ## Scopes -/

mutual

/-- Whatever a step does, it propagates errors. -/
theorem Step.propagates_run : ∀ (s : Step) (channel : Channel) (frame : Frame) (site : Site),
    Propagates (s.run channel frame site)
  | .text s, channel, frame, site => by
    rw [Step.run]
    exact channel.propagates_write s
  | .output head value, channel, frame, site => by
    rw [Step.run]
    refine (Call.propagates_runAll frame site head.calls []).bind fun slots => ?_
    refine Propagates.locate ?_ _
    refine (propagates_ofExcept _).bind fun v => ?_
    refine (propagates_modifyAll _ slots head.modifiers v).bind fun v => ?_
    exact channel.propagates_write v.display
  | .choice alternatives, channel, frame, site => by
    rw [Step.run]
    exact propagates_runChoice alternatives channel frame site 0
  -- no pass is made after one that has failed
  | .iterate head collection body, channel, frame, site => by
    rw [Step.run]
    refine (Call.propagates_runAll frame site head.calls []).bind fun slots => ?_
    refine Propagates.locate ?_ _
    refine (propagates_ofExcept _).bind fun collection => ?_
    refine (propagates_ofExcept _).bind fun modifiers => ?_
    refine (propagates_ofExcept _).bind fun es => ?_
    exact propagates_runEntries (fun frame site => body.propagates_run _ frame site) _ site es
  | .custom head path bodies, channel, frame, site => by
    rw [Step.run]
    refine (Call.propagates_runAll frame site head.calls []).bind fun slots => ?_
    refine Propagates.locate ?_ _
    refine (propagates_ofExcept _).bind fun modifiers => ?_
    exact propagates_runCustom _ path _ site bodies
  | .declare head name body, channel, frame, site => by
    rw [Step.run]
    refine (Call.propagates_runAll frame site head.calls []).bind fun slots => ?_
    refine ((propagates_ofExcept _).locate _).bind fun modifiers => ?_
    exact ⟨fun _ _ h => (nomatch h), fun _ => trivial⟩
  | .render head name, channel, frame, site => by
    rw [Step.run]
    refine (Call.propagates_runAll frame site head.calls []).bind fun slots => ?_
    refine Propagates.locate ?_ _
    have hasks : Propagates (Action.resolve name) := ⟨fun _ _ h => (nomatch h), fun _ => trivial⟩
    refine hasks.bind fun found => ?_
    cases found with
    | none => exact trivial
    | some fragment =>
      refine (propagates_ofExcept _).bind fun modifiers => ?_
      exact propagates_enter fragment.body _ _ _
  | .inclusion head name, channel, frame, site => by
    rw [Step.run]
    refine (Call.propagates_runAll frame site head.calls []).bind fun slots => ?_
    refine Propagates.locate ?_ _
    refine Propagates.bind ?_ fun name => ?_
    · cases name with
      | fixed name => exact trivial
      | computed f => exact (propagates_ofExcept _).bind fun v => trivial
    · refine (propagates_ofExcept _).bind fun modifiers => ?_
      exact propagates_runTemplate _ name _ site

theorem propagates_runChoice : ∀ (as : List Alternative) (channel : Channel) (frame : Frame)
    (site : Site) (k : Nat), Propagates (runChoice channel frame site k as)
  | [], channel, frame, site, k => by
    rw [runChoice]
    exact trivial
  | .mk head test body :: as, channel, frame, site, k => by
    rw [runChoice_cons]
    refine (head.propagates_tested frame _ test).bind fun holds => ?_
    split
    · refine (Call.propagates_runAll frame _ head.calls []).bind fun slots => ?_
      refine ((propagates_ofExcept _).locate _).bind fun modifiers => ?_
      exact body.propagates_run _ _ _
    · exact propagates_runChoice as channel frame site (k + 1)

theorem Scope.propagates_run : ∀ (s : Scope) (channel : Channel) (frame : Frame) (site : Site),
    Propagates (s.run channel frame site)
  | .mk steps, channel, frame, site => by
    rw [Scope.run_mk]
    exact propagates_runSteps steps channel frame site 0

theorem propagates_runSteps : ∀ (steps : List Step) (channel : Channel) (frame : Frame)
    (site : Site) (i : Nat), Propagates (runSteps channel frame site i steps)
  | [], channel, frame, site, i => by
    rw [runSteps]
    exact trivial
  | s :: ss, channel, frame, site, i => by
    rw [runSteps]
    refine (s.propagates_run channel frame _).bind fun _ => ?_
    exact propagates_runSteps ss channel frame site (i + 1)

end

end Stencil
