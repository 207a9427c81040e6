import Stencil.Proofs.Except
import Stencil.Proofs.Scope.Relabel
import Stencil.Proofs.Scope.Slots

/-!
# Stencil.Proofs.Scope.Details — compiling with details of errors and without

Whether details of errors are asked for decides where errors are placed, and nothing else. A list of
segments is compiled without details to the very scope that it is compiled to with details, without
its places, or to the same fault (`Scope.compile_bare`).
-/

namespace Stencil

/-! ## Without places -/

/-- The error without its place. -/
def CompileError.bare (e : CompileError) : CompileError := ⟨e.fault, none⟩

/-- The error without its details. -/
def TemplateError.bare : TemplateError → TemplateError
  | syntaxError e => syntaxError e
  | compileError e => compileError e.bare

/-- The scope without places for its errors. -/
def Scope.bare (s : Scope) : Scope := s.relabel fun _ => none

/-- Whether the second result is the first one without places. -/
def WithoutPlaces {α β : Type} (strip : α → β) (x : Except CompileError α)
    (y : Except CompileError β) : Prop :=
  y = (x.map strip).mapError CompileError.bare

namespace WithoutPlaces

variable {α β γ δ : Type} {strip : α → β} {strip' : γ → δ}

theorem ok (a : α) : WithoutPlaces strip (.ok a) (.ok (strip a)) := rfl

theorem fault (s : Segment) (fault : CompileFault) :
    WithoutPlaces strip (.error (.ofFault true s fault)) (.error (.ofFault false s fault)) := rfl

/-- What is built in parts is the same without places if its parts are. -/
theorem bind {x : Except CompileError α} {y : Except CompileError β} (h : WithoutPlaces strip x y)
    {f : α → Except CompileError γ} {g : β → Except CompileError δ}
    (hfg : ∀ a, WithoutPlaces strip' (f a) (g (strip a))) :
    WithoutPlaces strip' (x >>= f) (y >>= g) := by
  cases h
  cases x with
  | ok a => exact hfg a
  | error e => rfl

end WithoutPlaces

/-! ## Expressions -/

namespace Formula

variable (place : Option Position → Option Position) (context : Option String)
  (position : Option Position)

mutual

/-- The calls that are taken out of an expression have the places that they are given, and nothing
else depends on these. -/
theorem relabel_ofPostfix : ∀ (e : Expr.Postfix) (calls : List Call),
    ofPostfix context (place position) e (calls.map (·.relabel place)) =
      ((ofPostfix context position e calls).1,
        (ofPostfix context position e calls).2.map (·.relabel place))
  | [], calls => by rw [ofPostfix, ofPostfix]
  -- the arguments, the call and the rest are taken out one after the other
  | .call path args property :: rest, calls => by
    have hargs := relabel_ofArguments args calls
    have hrest := relabel_ofPostfix rest ((ofArguments context position args calls).2 ++
      [callOf context position path args property calls])
    have hcall : callOf context (place position) path args property
        (calls.map (·.relabel place)) =
          (callOf context position path args property calls).relabel place := by
      unfold callOf
      rw [hargs]
      rfl
    rw [List.map_append, List.map_singleton] at hrest
    rw [ofPostfix_call, ofPostfix_call, hcall, hargs, hrest, List.length_map]
  | .literal l :: rest, calls => by rw [ofPostfix, ofPostfix, relabel_ofPostfix rest calls]
  | .path p :: rest, calls => by rw [ofPostfix, ofPostfix, relabel_ofPostfix rest calls]
  | .operator op :: rest, calls => by rw [ofPostfix, ofPostfix, relabel_ofPostfix rest calls]
  | .negate n :: rest, calls => by rw [ofPostfix, ofPostfix, relabel_ofPostfix rest calls]
  | .opening :: rest, calls => by rw [ofPostfix, ofPostfix, relabel_ofPostfix rest calls]
  | .closing :: rest, calls => by rw [ofPostfix, ofPostfix, relabel_ofPostfix rest calls]
  | .separator :: rest, calls => by rw [ofPostfix, ofPostfix, relabel_ofPostfix rest calls]

/-- The calls of arguments have only their places from outside. -/
theorem relabel_ofArguments : ∀ (es : List Expr.Postfix) (calls : List Call),
    ofArguments context (place position) es (calls.map (·.relabel place)) =
      ((ofArguments context position es calls).1,
        (ofArguments context position es calls).2.map (·.relabel place))
  | [], calls => by rw [ofArguments, ofArguments]
  | e :: es, calls => by
    rw [ofArguments_cons, ofArguments_cons, relabel_ofPostfix e calls,
      relabel_ofArguments es (ofPostfix context position e calls).2]

end

theorem relabel_ofModifiers (ms : List ModifierCall) (calls : List Call) :
    ofModifiers context (place position) ms (calls.map (·.relabel place)) =
      ((ofModifiers context position ms calls).1,
        (ofModifiers context position ms calls).2.map (·.relabel place)) := by
  induction ms generalizing calls with
  | nil => rfl
  | cons m ms ih =>
    rw [ofModifiers, ofModifiers, relabel_ofArguments place context position m.args calls]
    dsimp only
    rw [ih]

end Formula

/-! ## Directives -/

namespace Scope

/-- Nothing is placed. -/
abbrev nowhere : Option Position → Option Position := fun _ => none

/-- Without details, a formula has the same calls without places. -/
theorem formula_bare (s : Segment) (e : Expr.Postfix) :
    formula false s e [] =
      ((formula true s e []).1, (formula true s e []).2.map (·.relabel nowhere)) :=
  Formula.relabel_ofPostfix nowhere s.context (place true s) e []

theorem head_bare (s : Segment) (calls : List Call) :
    head false s (calls.map (·.relabel nowhere)) = (head true s calls).relabel nowhere := by
  have h := Formula.relabel_ofModifiers nowhere s.context (place true s) s.modifiers calls
  rw [head_eq, head_eq]
  show Head.mk _ (Formula.ofModifiers s.context none s.modifiers _).2
    (Formula.ofModifiers s.context none s.modifiers _).1 none = _
  rw [h]
  rfl

theorem head_bare_nil (s : Segment) : head false s [] = (head true s []).relabel nowhere :=
  head_bare s []

/-- An expression that is required is missing in either case. -/
theorem requireExpression_bare (s : Segment) :
    WithoutPlaces id (requireExpression true s) (requireExpression false s) := by
  unfold requireExpression
  cases s.expression with
  | none => exact .fault s _
  | some e => exact .ok e

theorem requireName_bare (s : Segment) :
    WithoutPlaces id (requireName true s) (requireName false s) := by
  refine (requireExpression_bare s).bind fun e => ?_
  dsimp only [id]
  cases e.path?.or e.text? with
  | none => exact .fault s _
  | some name => exact .ok name

theorem requirePath_bare (s : Segment) :
    WithoutPlaces id (requirePath true s) (requirePath false s) := by
  refine (requireExpression_bare s).bind fun e => ?_
  dsimp only [id]
  cases e.path? with
  | none => exact .fault s _
  | some path => exact .ok path

/-- Branches too many are refused in either case. -/
theorem requireSingle_bare (s : Segment) (more : List Branch) :
    WithoutPlaces id (requireSingle true s more) (requireSingle false s more) := by
  cases more with
  | nil => exact .ok ()
  | cons extra more => exact .fault extra.head _

/-- A text has no place in either case. -/
theorem textStep_bare (s : Segment) :
    WithoutPlaces (Step.relabel nowhere) (textStep true s) (textStep false s) := by
  unfold textStep
  dsimp only
  split
  · exact .fault s _
  · exact .ok (Step.text _)

/-- An output is the same without places. -/
theorem outputStep_bare (s : Segment) :
    WithoutPlaces (Step.relabel nowhere) (outputStep true s) (outputStep false s) := by
  refine (requireExpression_bare s).bind fun e => ?_
  dsimp only [id]
  rw [formula_bare, head_bare]
  exact .ok (Step.output _ _)

/-- So is a directive in one line. -/
theorem inlineStep_bare (s : Segment) :
    WithoutPlaces (Step.relabel nowhere) (inlineStep true s) (inlineStep false s) := by
  unfold inlineStep
  rw [head_bare_nil]
  split
  · exact (requireName_bare s).bind fun name => .ok (Step.render _ name)
  · refine (requireExpression_bare s).bind fun e => ?_
    dsimp only [id]
    cases e.text?.or e.path? with
    | some name => exact .ok (Step.inclusion _ (.fixed name))
    | none =>
      dsimp only
      rw [formula_bare, head_bare]
      exact .ok (Step.inclusion _ (.computed _))
  · exact (requirePath_bare s).bind fun path => .ok (Step.custom _ path [])

/-- So is a test, and a missing one is missed in either case. -/
theorem readTest_bare (first last : Bool) (s : Segment) :
    WithoutPlaces (Option.map (Test.relabel nowhere)) (readTest true first last s)
      (readTest false first last s) := by
  unfold readTest
  cases s.expression with
  | some e =>
    dsimp only
    rw [formula_bare]
    exact .ok (some _)
  | none =>
    dsimp only
    split
    · exact .fault s _
    split
    · exact .ok none
    · exact .fault s _

/-! ## Nodes -/

/-- Texts are joined whatever the places of other steps are. -/
theorem consStep_relabel (place : Option Position → Option Position) (step : Step)
    (steps : List Step) :
    relabelSteps place (consStep step steps) =
      consStep (step.relabel place) (relabelSteps place steps) := by
  cases step with
  | text a =>
    -- a text is joined with a text behind it, and an empty one with nothing
    cases steps with
    | nil =>
      rw [Step.relabel, relabelSteps]
      unfold consStep
      dsimp only
      split <;> rfl
    | cons next steps =>
      cases next with
      | text b => rfl
      | output | choice | iterate | custom | declare | render | inclusion =>
        rw [Step.relabel, relabelSteps, Step.relabel]
        unfold consStep
        dsimp only
        split <;> rw [relabelSteps, Step.relabel]
        rw [relabelSteps, Step.relabel]
  | output | choice | iterate | custom | declare | render | inclusion => rfl

mutual

/-- A node is built the same without places. -/
theorem buildNode_bare : ∀ n : Node,
    WithoutPlaces (Step.relabel nowhere) (buildNode true n) (buildNode false n)
  | .text s => by
    rw [buildNode, buildNode]
    exact textStep_bare s
  | .output s => by
    rw [buildNode, buildNode]
    exact outputStep_bare s
  | .inline s => by
    rw [buildNode, buildNode]
    exact inlineStep_bare s
  | .block s body more => by
    have hbody := buildNodes_bare body
    rw [buildNode, buildNode]
    -- each kind of block asks for other parts, and all of them are built alike
    cases s.kind with
    | conditional =>
      dsimp only
      split
      · exact .fault s _
      refine (readTest_bare true more.isEmpty s).bind fun test => ?_
      refine hbody.bind fun steps => ?_
      refine (buildAlternatives_bare more).bind fun others => ?_
      rw [head_bare_nil]
      exact .ok (Step.choice (.mk _ test (.mk steps) :: others))
    | iterator =>
      refine (requireSingle_bare s more).bind fun _ => ?_
      refine (requireExpression_bare s).bind fun e => ?_
      dsimp only [id]
      rw [formula_bare, head_bare]
      exact hbody.bind fun steps => .ok (Step.iterate _ _ (.mk steps))
    | custom =>
      refine (requirePath_bare s).bind fun path => ?_
      refine hbody.bind fun steps => ?_
      refine (buildContinuations_bare more).bind fun others => ?_
      rw [head_bare_nil]
      exact .ok (Step.custom _ path (.mk steps :: others))
    | declare =>
      refine (requireSingle_bare s more).bind fun _ => ?_
      refine (requireName_bare s).bind fun name => ?_
      rw [head_bare_nil]
      exact hbody.bind fun steps => .ok (Step.declare _ name (.mk steps))
    | text | output | render | inclusion => exact .fault s _

theorem buildNodes_bare : ∀ ns : List Node,
    WithoutPlaces (relabelSteps nowhere) (buildNodes true ns) (buildNodes false ns)
  | [] => by
    rw [buildNodes, buildNodes]
    exact .ok []
  | n :: ns => by
    rw [buildNodes, buildNodes]
    refine (buildNode_bare n).bind fun step => (buildNodes_bare ns).bind fun steps => ?_
    rw [← consStep_relabel]
    exact .ok (consStep step steps)

theorem buildAlternatives_bare : ∀ more : List Branch,
    WithoutPlaces (relabelAlternatives nowhere) (buildAlternatives true more)
      (buildAlternatives false more)
  | [] => by
    rw [buildAlternatives, buildAlternatives]
    exact .ok []
  | .mk s body :: more => by
    rw [buildAlternatives, buildAlternatives]
    refine (readTest_bare false more.isEmpty s).bind fun test => ?_
    refine (buildNodes_bare body).bind fun steps => ?_
    refine (buildAlternatives_bare more).bind fun others => ?_
    rw [head_bare_nil]
    exact .ok (.mk _ test (.mk steps) :: others)

theorem buildContinuations_bare : ∀ more : List Branch,
    WithoutPlaces (relabelBodies nowhere) (buildContinuations true more)
      (buildContinuations false more)
  | [] => by
    rw [buildContinuations, buildContinuations]
    exact .ok []
  | .mk s body :: more => by
    rw [buildContinuations, buildContinuations]
    split
    · exact .fault s _
    refine (buildNodes_bare body).bind fun steps => ?_
    refine (buildContinuations_bare more).bind fun others => ?_
    exact .ok (.mk steps :: others)

end

/-! ## Templates -/

mutual

/-- Scanning refuses the same segments in either case. -/
theorem scan_bare (segments : List Segment) :
    WithoutPlaces id (Node.scan true segments) (Node.scan false segments) := by
  match segments with
  | [] =>
    rw [Node.scan, Node.scan]
    exact .ok []
  | s :: rest =>
    have hrest := scan_bare rest
    rw [Node.scan, Node.scan]
    -- each branch of the scan refuses the segment, or goes on with fewer
    split
    · exact hrest.bind fun nodes => .ok (.text s :: nodes)
    split
    · exact hrest.bind fun nodes => .ok (.output s :: nodes)
    split
    · exact hrest.bind fun nodes => .ok (.inline s :: nodes)
    split
    · exact .fault s _
    split
    · exact .fault s _
    split
    · exact .fault s _
    · next x hx =>
      have hlength := Node.extent?_length hx
      refine (scan_bare x.body).bind fun body => ?_
      refine (scanBranches_bare x.more).bind fun more => ?_
      exact (scan_bare x.behind).bind fun behind => .ok (.block s body more :: behind)
termination_by segments.length
decreasing_by
  all_goals simp only [List.length_cons]
  all_goals omega

theorem scanBranches_bare (more : List (Segment × List Segment)) :
    WithoutPlaces id (Node.scanBranches true more) (Node.scanBranches false more) := by
  match more with
  | [] =>
    rw [Node.scanBranches, Node.scanBranches]
    exact .ok []
  | (s, segments) :: more =>
    rw [Node.scanBranches, Node.scanBranches]
    refine (scan_bare segments).bind fun body => ?_
    exact (scanBranches_bare more).bind fun more => .ok (.mk s body :: more)
termination_by Node.branchSize more
decreasing_by
  all_goals simp only [Node.branchSize]
  all_goals omega

end

/-- Compiling segments without details gives the same scope without places, or the same fault. -/
theorem compile_bare (segments : List Segment) :
    WithoutPlaces bare (compile true segments) (compile false segments) :=
  (scan_bare segments).bind fun nodes => (buildNodes_bare nodes).bind fun steps =>
    .ok (Scope.mk steps)

/-- Compiling a text without details gives the same scope without places, or the same error without
details. -/
theorem compileText_bare (source : String) :
    compileText false source = ((compileText true source).map bare).mapError .bare := by
  unfold compileText
  cases Segment.parse source with
  | error e => rfl
  | ok segments =>
    show (compile false segments).mapError _ =
      (((compile true segments).mapError TemplateError.compileError).map bare).mapError _
    rw [compile_bare segments]
    cases compile true segments <;> rfl

end Scope

end Stencil
