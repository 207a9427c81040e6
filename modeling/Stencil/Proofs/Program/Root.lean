import Stencil.Proofs.Except
import Stencil.Proofs.Frame.Root
import Stencil.Proofs.Program.Directives

/-!
# Stencil.Proofs.Program.Root — scopes that run below a root

A scope that runs in a frame with some root evaluates expressions only in frames with that root:
it has the same program with every evaluator that agrees there (`Scope.run_agreesBelow`). Its
requests are made with such frames, as long as the fragments that it is given have been declared in
such frames (`Scope.keepsTo_run`), and so are the steps that it comes to
(`Step.Executes.outermost_eq`).
-/

namespace Stencil

/-! ## Evaluators -/

/-- Whether the evaluator gives every evaluation in a frame with this root what `Formula.eval` gives
it. What it does in other frames is left open. -/
def AgreesBelow (root : Frame) (eval : Formula → Frame → List Value → Except RenderError Value) :
    Prop :=
  ∀ (f : Formula) (frame : Frame) (slots : List Value), frame.outermost = root →
    eval f frame slots = f.eval frame slots

section Agree

variable {root : Frame} {eval : Formula → Frame → List Value → Except RenderError Value}

section Parts

variable (h : AgreesBelow root eval) {frame : Frame} (hframe : frame.outermost = root)
include h hframe

/-- Evaluations that agree below a root agree on formulas in a row. -/
theorem AgreesBelow.mapM_eq (fs : List Formula) (slots : List Value) :
    (fs.mapM fun f => eval f frame slots) = fs.mapM fun f => f.eval frame slots :=
  Except.mapM_congr fun f _ => h f frame slots hframe

/-- A call is the same with either of them. -/
theorem Call.run_agreesBelow (c : Call) (site : Site) (slots : List Value) :
    @Call.run ⟨eval⟩ c frame site slots = c.run frame site slots := by
  have htarget : (frame.reroot site c.context).outermost = root :=
    (frame.outermost_reroot site c.context).trans hframe
  have hargs := h.mapM_eq htarget c.args slots
  unfold Call.run
  dsimp only [Evaluator.eval]
  rw [hargs]

theorem Call.runAll_agreesBelow (site : Site) (cs : List Call) (slots : List Value) :
    @Call.runAll ⟨eval⟩ frame site cs slots = Call.runAll frame site cs slots := by
  induction cs generalizing slots with
  | nil => rfl
  | cons c cs ih =>
    unfold Call.runAll
    rw [c.run_agreesBelow h hframe]
    exact bind_congr fun v => ih _

theorem PendingModifier.apply_agreesBelow (m : PendingModifier) (slots : List Value) :
    @PendingModifier.apply ⟨eval⟩ m frame slots = m.apply frame slots := by
  have hargs := h.mapM_eq hframe m.args slots
  unfold PendingModifier.apply
  dsimp only [Evaluator.eval]
  rw [hargs]

theorem Head.applied_agreesBelow (head : Head) (slots : List Value) :
    @Head.applied ⟨eval⟩ head frame slots = head.applied frame slots := by
  unfold Head.applied
  rw [Except.mapM_congr fun m _ => m.apply_agreesBelow h hframe slots]

theorem modifyAll_agreesBelow (slots : List Value) (ms : List PendingModifier) (v : Value) :
    @modifyAll ⟨eval⟩ frame slots ms v = modifyAll frame slots ms v := by
  induction ms generalizing v with
  | nil => rfl
  | cons m ms ih =>
    unfold modifyAll
    rw [m.apply_agreesBelow h hframe]
    exact bind_congr fun m => bind_congr fun w => ih w

theorem TemplateName.eval_agreesBelow (name : TemplateName) (slots : List Value) :
    @TemplateName.eval ⟨eval⟩ name frame slots = name.eval frame slots := by
  cases name with
  | fixed name => rfl
  | computed f =>
    unfold TemplateName.eval
    dsimp only [Evaluator.eval]
    rw [h f frame slots hframe]

theorem Head.tested_agreesBelow (site : Site) (head : Head) (test : Option Test) :
    @Head.tested ⟨eval⟩ frame site head test = head.tested frame site test := by
  cases test with
  | none => rfl
  | some t =>
    have htarget : (frame.reroot site head.context).outermost = root :=
      (frame.outermost_reroot site head.context).trans hframe
    unfold Head.tested
    dsimp only [Evaluator.eval]
    rw [Call.runAll_agreesBelow h hframe]
    refine bind_congr fun slots => ?_
    rw [h t.formula _ slots htarget]

omit h in
/-- The frames of the passes have the root of the frame around them. -/
theorem runEntries_congr {body body' : Frame → Site → Action Unit}
    (hbody : ∀ g site, g.outermost = root → body g site = body' g site) (site : Site)
    (es : Entries) : runEntries body frame site es = runEntries body' frame site es := by
  fun_induction runEntries body frame site es with
  | case1 es hnone =>
    rw [runEntries.eq_def]
    split
    · rfl
    · next hsome =>
      rw [hnone] at hsome
      cases hsome
  | case2 es p rest hnext ih =>
    rw [runEntries.eq_def body' frame site es]
    split
    · next hnone =>
      rw [hnext] at hnone
      cases hnone
    · next hsome =>
      rw [hnext] at hsome
      cases hsome
      have hpass : (p.frame frame site).outermost = root := hframe
      rw [ih, hbody _ _ hpass]

/-- So is a branch that is taken, if its body is. -/
theorem Head.take_agreesBelow (channel : Channel) (site : Site) (head : Head) {body : Scope}
    (hbody : ∀ channel g site, g.outermost = root →
      @Scope.run ⟨eval⟩ channel g site body = body.run channel g site) :
    @Head.take ⟨eval⟩ channel frame site head body = head.take channel frame site body := by
  have htarget : (frame.reroot site head.context).outermost = root :=
    (frame.outermost_reroot site head.context).trans hframe
  unfold Head.take
  rw [Call.runAll_agreesBelow h hframe]
  refine bind_congr fun slots => ?_
  rw [Head.applied_agreesBelow h htarget]
  exact bind_congr fun modifiers => hbody _ _ site htarget

end Parts

mutual

/-- A step has the same program with every evaluator that agrees below the root of its frame. -/
theorem Step.run_agreesBelow (h : AgreesBelow root eval) : ∀ (s : Step) (channel : Channel)
    (frame : Frame) (site : Site), frame.outermost = root →
      @Step.run ⟨eval⟩ channel frame site s = s.run channel frame site
  | .text s, channel, frame, site, hframe => by
    unfold Step.run
    rfl
  | .output head value, channel, frame, site, hframe => by
    -- a context keeps the root, so the evaluations agree in it too
    have htarget := (frame.outermost_reroot site head.context).trans hframe
    unfold Step.run
    dsimp only
    rw [Call.runAll_agreesBelow h hframe]
    refine bind_congr fun slots => ?_
    dsimp only [Evaluator.eval]
    rw [h value _ slots htarget]
    simp only [modifyAll_agreesBelow h htarget]
  | .choice alternatives, channel, frame, site, hframe => by
    unfold Step.run
    exact runChoice_agreesBelow h alternatives channel frame site 0 hframe
  | .iterate head collection body, channel, frame, site, hframe => by
    have htarget := (frame.outermost_reroot site head.context).trans hframe
    have hbody := fun channel g site hg => body.run_agreesBelow h channel g site hg
    unfold Step.run
    dsimp only
    rw [Call.runAll_agreesBelow h hframe]
    refine bind_congr fun slots => ?_
    unfold Head.iterate
    dsimp only [Evaluator.eval]
    rw [h collection _ slots htarget, Head.applied_agreesBelow h htarget]
    simp only [runIteration, runEntries_congr htarget (hbody _)]
  | .custom head path bodies, channel, frame, site, hframe => by
    have htarget := (frame.outermost_reroot site head.context).trans hframe
    unfold Step.run
    dsimp only
    rw [Call.runAll_agreesBelow h hframe]
    refine bind_congr fun slots => ?_
    unfold Head.invokeCustom
    dsimp only
    rw [Head.applied_agreesBelow h htarget]
  | .declare head name body, channel, frame, site, hframe => by
    have htarget := (frame.outermost_reroot site head.context).trans hframe
    unfold Step.run
    dsimp only
    rw [Call.runAll_agreesBelow h hframe]
    refine bind_congr fun slots => ?_
    unfold Head.declareNamed
    dsimp only
    rw [Head.applied_agreesBelow h htarget]
  | .render head name, channel, frame, site, hframe => by
    have htarget := (frame.outermost_reroot site head.context).trans hframe
    unfold Step.run
    dsimp only
    rw [Call.runAll_agreesBelow h hframe]
    refine bind_congr fun slots => ?_
    unfold Head.renderNamed
    dsimp only
    rw [Head.applied_agreesBelow h htarget]
  | .inclusion head name, channel, frame, site, hframe => by
    have htarget := (frame.outermost_reroot site head.context).trans hframe
    unfold Step.run
    dsimp only
    rw [Call.runAll_agreesBelow h hframe]
    refine bind_congr fun slots => ?_
    unfold Head.renderPartial
    dsimp only
    rw [TemplateName.eval_agreesBelow h htarget, Head.applied_agreesBelow h htarget]

theorem runChoice_agreesBelow (h : AgreesBelow root eval) : ∀ (as : List Alternative)
    (channel : Channel) (frame : Frame) (site : Site) (k : Nat), frame.outermost = root →
      @runChoice ⟨eval⟩ channel frame site k as = runChoice channel frame site k as
  | [], channel, frame, site, k, hframe => by
    unfold runChoice
    rfl
  | .mk head test body :: others, channel, frame, site, k, hframe => by
    have hbody := fun channel g site hg => body.run_agreesBelow h channel g site hg
    rw [@runChoice_cons ⟨eval⟩, runChoice_cons, Head.tested_agreesBelow h hframe]
    refine bind_congr fun holds => ?_
    rw [runChoice_agreesBelow h others channel frame site (k + 1) hframe,
      Head.take_agreesBelow h hframe channel _ head hbody]

/-- A scope has the same program with every evaluator that agrees below the root of its frame. -/
theorem Scope.run_agreesBelow (h : AgreesBelow root eval) : ∀ (s : Scope) (channel : Channel)
    (frame : Frame) (site : Site), frame.outermost = root →
      @Scope.run ⟨eval⟩ channel frame site s = s.run channel frame site
  | .mk steps, channel, frame, site, hframe => by
    rw [@Scope.run_mk ⟨eval⟩, Scope.run_mk]
    exact runSteps_agreesBelow h steps channel frame site 0 hframe

theorem runSteps_agreesBelow (h : AgreesBelow root eval) : ∀ (steps : List Step)
    (channel : Channel) (frame : Frame) (site : Site) (i : Nat), frame.outermost = root →
      @runSteps ⟨eval⟩ channel frame site i steps = runSteps channel frame site i steps
  | [], channel, frame, site, i, hframe => by
    unfold runSteps
    rfl
  | s :: ss, channel, frame, site, i, hframe => by
    unfold runSteps
    rw [s.run_agreesBelow h channel frame _ hframe]
    exact bind_congr fun _ => runSteps_agreesBelow h ss channel frame site (i + 1) hframe

end

end Agree

/-! ## Requests -/

/-- The frame that a request is made with, if it is made with one. -/
def Request.frame? : Request → Option Frame
  | .declare _ fragment => some fragment.frame
  | .call _ frame _ => some frame
  | .custom _ block => some block.frame
  | .enter _ _ frame _ => some frame
  | .write _ | .isHalted | .halt | .modify .. | .resolve _ | .template _ => none

/-- Whether the frame of a request, if it has one, has this root. -/
def Request.KeepsTo (root : Frame) (q : Request) : Prop :=
  ∀ frame, q.frame? = some frame → frame.outermost = root

/-- Whether the fragment in an answer, if there is one, has been declared in a frame with this
root. -/
def Request.Returns (root : Frame) : (q : Request) → q.Answer → Prop
  | .resolve _, found => ∀ fragment : Fragment, found = some fragment →
      fragment.frame.outermost = root
  | _, _ => True

/-- Whether all requests of the program are made with frames with this root, when it is given only
fragments that have been declared in such frames. -/
def Program.KeepsTo {α : Type} (root : Frame) (p : Program α) : Prop :=
  p.Asks (Request.KeepsTo root) (Request.Returns root)

variable {root : Frame}

/-- A request in a frame with the root keeps to it. -/
theorem Request.keepsTo_of_frame? {q : Request} {frame : Frame} (hq : q.frame? = some frame)
    (hframe : frame.outermost = root) : q.KeepsTo root := by
  intro g hg
  cases hq.symm.trans hg
  exact hframe

theorem Request.keepsTo_of_isPlain (q : Request) (h : q.isPlain = true) : q.KeepsTo root := by
  intro frame hframe
  cases q with
  | write | isHalted | halt | modify => cases hframe
  | declare | resolve | template | call | custom | enter => cases h

theorem Channel.keepsTo_write (channel : Channel) (text : String) :
    Program.KeepsTo root (channel.write text) :=
  channel.asks_write Request.keepsTo_of_isPlain text

section Parts

variable {frame : Frame} (hframe : frame.outermost = root)
include hframe

/-- An iteration keeps to the root if its body does. -/
theorem keepsTo_runEntries {body : Frame → Site → Action Unit}
    (hbody : ∀ g site, g.outermost = root → Program.KeepsTo root (body g site)) (site : Site)
    (es : Entries) : Program.KeepsTo root (runEntries body frame site es) :=
  asks_runEntries frame site es fun _ _ => hbody _ _ hframe

/-- A block is handed over in a frame with the same root. -/
theorem keepsTo_runCustom (channel : Channel) (path : String) (site : Site)
    (bodies : List Scope) : Program.KeepsTo root (runCustom channel path frame site bodies) := by
  unfold runCustom
  split
  · exact ⟨Request.keepsTo_of_frame? rfl hframe, fun _ _ => trivial⟩
  · exact trivial

/-- A template is included in one. -/
theorem keepsTo_runTemplate (channel : Channel) (name : String) (site : Site) :
    Program.KeepsTo root (runTemplate channel name frame site) := by
  refine ⟨fun _ h => (nomatch h), fun found _ => ?_⟩
  cases found with
  | error e => exact trivial
  | ok scope => exact ⟨Request.keepsTo_of_frame? rfl hframe, fun _ _ => trivial⟩

omit hframe in
/-- A fragment is rendered in a frame inside the one of its declaration. -/
theorem Fragment.keepsTo_run {fragment : Fragment} (hfragment : fragment.frame.outermost = root)
    (channel : Channel) (data : Value) (site : Site) :
    Program.KeepsTo root (runFragment fragment channel data site) :=
  ⟨Request.keepsTo_of_frame? rfl hfragment, fun _ _ => trivial⟩

variable [Evaluator]

/-- Calls are made in such frames. -/
theorem Call.keepsTo_runAll (site : Site) (cs : List Call) (slots : List Value) :
    Program.KeepsTo root (Call.runAll frame site cs slots) := by
  induction cs generalizing slots with
  | nil => exact trivial
  | cons c cs ih =>
    refine Action.asks_bind (Action.asks_locate ?_ _) fun v => ih _
    unfold Call.run
    dsimp only
    split
    · refine Action.asks_bind (Action.asks_ofExcept _) fun args => ?_
      refine Action.asks_bind ⟨?_, fun _ _ => trivial⟩ fun _ => trivial
      exact Request.keepsTo_of_frame? rfl ((frame.outermost_reroot _ c.context).trans hframe)
    · exact trivial

/-- A directive makes its calls, and then does its work. -/
theorem Head.keepsTo_directive (site : Site) (head : Head) {work : List Value → Action Unit}
    (hwork : ∀ slots, Program.KeepsTo root (work slots)) :
    Program.KeepsTo root (do
      let slots ← Call.runAll frame site head.calls []
      (work slots).locate head.position : Action Unit) := by
  refine Action.asks_bind (Call.keepsTo_runAll hframe site head.calls []) fun slots => ?_
  exact Action.asks_locate (hwork slots) head.position

theorem Head.keepsTo_tested (site : Site) (head : Head) (test : Option Test) :
    Program.KeepsTo root (head.tested frame site test) := by
  cases test with
  | none => exact trivial
  | some test =>
    refine Action.asks_bind (Call.keepsTo_runAll hframe site test.calls []) fun slots => ?_
    exact Action.asks_bind (Action.asks_locate (Action.asks_ofExcept _) _) fun v => trivial

end Parts

variable [Evaluator]

mutual

/-- A step makes its requests with frames that have the root of its own frame. -/
theorem Step.keepsTo_run : ∀ (s : Step) (channel : Channel) (frame : Frame) (site : Site),
    frame.outermost = root → Program.KeepsTo root (s.run channel frame site)
  | .text s, channel, frame, site, hframe => by
    rw [Step.run]
    exact channel.keepsTo_write s
  | .output head value, channel, frame, site, hframe => by
    rw [Step.run]
    refine head.keepsTo_directive hframe site fun slots => ?_
    refine Action.asks_bind (Action.asks_ofExcept _) fun v => ?_
    refine Action.asks_bind (asks_modifyAll Request.keepsTo_of_isPlain _ _ _ _) fun v => ?_
    exact channel.keepsTo_write v.display
  | .choice alternatives, channel, frame, site, hframe => by
    rw [Step.run]
    exact keepsTo_runChoice alternatives channel frame site 0 hframe
  | .iterate head collection body, channel, frame, site, hframe => by
    have htarget := (frame.outermost_reroot site head.context).trans hframe
    rw [Step.run]
    refine head.keepsTo_directive hframe site fun slots => ?_
    refine Action.asks_bind (Action.asks_ofExcept _) fun collection => ?_
    refine Action.asks_bind (Action.asks_ofExcept _) fun modifiers => ?_
    refine Action.asks_bind (Action.asks_ofExcept _) fun es => ?_
    exact keepsTo_runEntries htarget (body.keepsTo_run _) site es
  | .custom head path bodies, channel, frame, site, hframe => by
    have htarget := (frame.outermost_reroot site head.context).trans hframe
    rw [Step.run]
    refine head.keepsTo_directive hframe site fun slots => ?_
    refine Action.asks_bind (Action.asks_ofExcept _) fun modifiers => ?_
    exact keepsTo_runCustom htarget _ path site bodies
  | .declare head name body, channel, frame, site, hframe => by
    have htarget := (frame.outermost_reroot site head.context).trans hframe
    rw [Step.run]
    refine Action.asks_bind (Call.keepsTo_runAll hframe site head.calls []) fun slots => ?_
    refine Action.asks_bind (Action.asks_locate (Action.asks_ofExcept _) _) fun modifiers => ?_
    exact ⟨Request.keepsTo_of_frame? rfl htarget, fun _ _ => trivial⟩
  | .render head name, channel, frame, site, hframe => by
    rw [Step.run]
    refine head.keepsTo_directive hframe site fun slots => ?_
    -- only here an answer brings a frame along
    refine ⟨fun _ h => (nomatch h), fun found hfound => ?_⟩
    cases found with
    | none => exact trivial
    | some fragment =>
      refine Action.asks_bind (Action.asks_ofExcept _) fun modifiers => ?_
      exact Fragment.keepsTo_run (hfound fragment rfl) _ _ site
  | .inclusion head name, channel, frame, site, hframe => by
    have htarget := (frame.outermost_reroot site head.context).trans hframe
    rw [Step.run]
    refine head.keepsTo_directive hframe site fun slots => ?_
    refine Action.asks_bind ?_ fun name => ?_
    · cases name with
      | fixed name => exact trivial
      | computed f => exact Action.asks_bind (Action.asks_ofExcept _) fun v => trivial
    · refine Action.asks_bind (Action.asks_ofExcept _) fun modifiers => ?_
      exact keepsTo_runTemplate htarget _ name site

/-- A choice keeps to the root. -/
theorem keepsTo_runChoice : ∀ (as : List Alternative) (channel : Channel) (frame : Frame)
    (site : Site) (k : Nat), frame.outermost = root →
      Program.KeepsTo root (runChoice channel frame site k as)
  | [], channel, frame, site, k, hframe => by
    rw [runChoice]
    exact trivial
  | .mk head test body :: others, channel, frame, site, k, hframe => by
    have htarget := (frame.outermost_reroot (.part site k) head.context).trans hframe
    rw [runChoice_cons]
    refine Action.asks_bind (head.keepsTo_tested hframe _ test) fun holds => ?_
    split
    · refine Action.asks_bind (Call.keepsTo_runAll hframe _ head.calls []) fun slots => ?_
      refine Action.asks_bind (Action.asks_locate (Action.asks_ofExcept _) _) fun modifiers => ?_
      exact body.keepsTo_run _ _ _ htarget
    · exact keepsTo_runChoice others channel frame site (k + 1) hframe

/-- A scope makes its requests with frames that have the root of its own frame. -/
theorem Scope.keepsTo_run : ∀ (s : Scope) (channel : Channel) (frame : Frame) (site : Site),
    frame.outermost = root → Program.KeepsTo root (s.run channel frame site)
  | .mk steps, channel, frame, site, hframe => by
    rw [Scope.run_mk]
    exact keepsTo_runSteps steps channel frame site 0 hframe

theorem keepsTo_runSteps : ∀ (steps : List Step) (channel : Channel) (frame : Frame)
    (site : Site) (i : Nat), frame.outermost = root →
      Program.KeepsTo root (runSteps channel frame site i steps)
  | [], channel, frame, site, i, hframe => by
    rw [runSteps]
    exact trivial
  | s :: ss, channel, frame, site, i, hframe => by
    rw [runSteps]
    refine Action.asks_bind (s.keepsTo_run channel frame _ hframe) fun _ => ?_
    exact keepsTo_runSteps ss channel frame site (i + 1) hframe

end

/-- The steps that a step comes to are run in frames that have the root of its own frame. -/
theorem Step.Executes.outermost_eq {frame frame' : Frame} {site site' : Site} {s s' : Step}
    (h : s.Executes frame site frame' site' s') : frame'.outermost = frame.outermost := by
  induction h with
  | self => rfl
  | branch _ _ _ ih => exact ih.trans (Frame.outermost_reroot _ _ _)
  | pass _ _ _ _ _ ih => exact ih.trans (Frame.outermost_reroot _ _ _)

end Stencil
