import Stencil.Proofs.Block.Scan
import Stencil.Proofs.Segment.Parsed

/-!
# Stencil.Proofs.Scope.Sound — scopes in which every evaluation is proper

A scope is sound when every formula in it, at any depth, leaves one value and reads only results
of calls that are made before it is evaluated. What a template text is compiled to is sound, and
compiling it never finds that an expression is missing (`Scope.builds_compile`): reading the text
has seen to it that no directive lacks one.
-/

namespace Stencil

/-! ## Soundness -/

/-- Whether the calls of a directive are ready to be made, and the arguments of its modifiers
ready once they are. -/
def Head.Sound (head : Head) : Prop :=
  Call.Ready head.calls ∧ ∀ m ∈ head.modifiers, ∀ f ∈ m.args, f.Ready head.calls.length

/-- Whether the name of a template is ready once `n` calls are made. -/
def TemplateName.Ready (n : Nat) : TemplateName → Prop
  | fixed _ => True
  | computed f => f.Ready n

/-- Whether the calls of a test are ready to be made, and its formula ready once they are. -/
def Test.Sound (t : Test) : Prop := Call.Ready t.calls ∧ t.formula.Ready t.calls.length

mutual

/-- Whether every formula in a step is ready when it is evaluated. -/
def Step.Sound : Step → Prop
  | .text _ => True
  | .output head value => head.Sound ∧ value.Ready head.calls.length
  | .choice alternatives => AlternativesSound alternatives
  | .iterate head collection body =>
    head.Sound ∧ collection.Ready head.calls.length ∧ body.Sound
  | .custom head _ bodies => head.Sound ∧ BodiesSound bodies
  | .declare head _ body => head.Sound ∧ body.Sound
  | .render head _ => head.Sound
  | .inclusion head name => head.Sound ∧ name.Ready head.calls.length

/-- Whether the branches of a choice are sound. -/
def AlternativesSound : List Alternative → Prop
  | [] => True
  | .mk head test body :: as =>
    head.Sound ∧ (∀ t, test = some t → t.Sound) ∧ body.Sound ∧ AlternativesSound as

/-- Whether each body is sound. -/
def BodiesSound : List Scope → Prop
  | [] => True
  | body :: bodies => body.Sound ∧ BodiesSound bodies

/-- Whether every formula in a scope is ready when it is evaluated. -/
def Scope.Sound : Scope → Prop
  | .mk steps => StepsSound steps

/-- Whether each step is sound. -/
def StepsSound : List Step → Prop
  | [] => True
  | s :: ss => s.Sound ∧ StepsSound ss

end

/-- Steps are sound if each of them is. -/
theorem stepsSound_iff {steps : List Step} : StepsSound steps ↔ ∀ s ∈ steps, s.Sound := by
  induction steps with
  | nil => simp [StepsSound]
  | cons s ss ih => simp [StepsSound, ih]

theorem bodiesSound_iff {bodies : List Scope} : BodiesSound bodies ↔ ∀ b ∈ bodies, b.Sound := by
  induction bodies with
  | nil => simp [BodiesSound]
  | cons b bs ih => simp [BodiesSound, ih]

/-! ## Parts of a directive -/

/-- Whether the error says that an expression is missing. -/
def CompileError.LacksExpression (e : CompileError) : Prop :=
  ∃ kind, e.fault = .missingExpression kind

namespace Scope

/-- Whether compiling finds no missing expression, and what it gives is like `P`. -/
def Builds {α : Type} (P : α → Prop) (x : Except CompileError α) : Prop :=
  x.Yields P fun e => ¬ e.LacksExpression

/-- What is known of the first part is known to the second. -/
theorem Builds.bind {α β : Type} {P : α → Prop} {Q : β → Prop} {x : Except CompileError α}
    {f : α → Except CompileError β} (hx : Builds P x) (hf : ∀ a, P a → Builds Q (f a)) :
    Builds Q (x >>= f) :=
  Except.Yields.bind hx hf

/-- A fault that is no missing expression may come up. -/
theorem builds_ofFault {α : Type} {P : α → Prop} {debug : Bool} {s : Segment}
    {fault : CompileFault} (h : ∀ kind, fault ≠ .missingExpression kind) :
    Builds P (.error (.ofFault debug s fault) : Except CompileError α) := by
  rintro ⟨kind, hkind⟩
  exact h kind hkind

variable (debug : Bool) {s : Segment}

/-- The head of a segment that was read is sound. -/
theorem head_sound (hs : s.Parsed) {calls : List Call} (hc : Call.Ready calls) :
    (head debug s calls).Sound ∧ calls.length ≤ (head debug s calls).calls.length := by
  obtain ⟨hready, hle, hargs⟩ := Formula.ready_ofModifiers s.context (place debug s)
    hs.modifiers_isTree hc
  rw [head_eq]
  exact ⟨⟨hready, hargs⟩, hle⟩

/-- A directive with an expression is sound, with its modifiers behind the expression. -/
theorem formula_sound (hs : s.Parsed) {e : Expr.Postfix} (he : e.IsTree) :
    (head debug s (formula debug s e []).2).Sound ∧
      (formula debug s e []).1.Ready (head debug s (formula debug s e []).2).calls.length := by
  obtain ⟨hready, -, hf⟩ := Formula.ready_ofPostfix s.context (place debug s) he Call.ready_nil
  obtain ⟨hhead, hle⟩ := head_sound debug hs hready
  exact ⟨hhead, hf.mono hle⟩

theorem builds_requireExpression (hs : s.Parsed) (hsome : s.expression.isSome = true) :
    Builds Expr.Postfix.IsTree (requireExpression debug s) := by
  unfold requireExpression
  split
  · next e he => exact hs.expression_isTree e he
  · next hnone =>
    rw [hnone] at hsome
    cases hsome

/-- An expression that is there may still be no name. -/
theorem builds_requireName (hs : s.Parsed) (hsome : s.expression.isSome = true) :
    Builds (fun _ => True) (requireName debug s) := by
  refine (builds_requireExpression debug hs hsome).bind fun e _ => ?_
  split
  · exact trivial
  · exact builds_ofFault fun _ h => by cases h

/-- It may still be no path. -/
theorem builds_requirePath (hs : s.Parsed) (hsome : s.expression.isSome = true) :
    Builds (fun _ => True) (requirePath debug s) := by
  refine (builds_requireExpression debug hs hsome).bind fun e _ => ?_
  split
  · exact trivial
  · exact builds_ofFault fun _ h => by cases h

theorem builds_requireSingle (more : List Branch) :
    Builds (fun _ => True) (requireSingle debug s more) := by
  cases more with
  | nil => exact trivial
  | cons extra more => exact builds_ofFault fun _ h => by cases h

/-! ## Directives without a body -/

/-- A text is a sound step. -/
theorem builds_textStep : Builds Step.Sound (textStep debug s) := by
  unfold textStep
  dsimp only
  split
  · exact builds_ofFault fun _ h => by cases h
  · exact trivial

theorem builds_outputStep (hs : s.Parsed) (hsome : s.expression.isSome = true) :
    Builds Step.Sound (outputStep debug s) := by
  refine (builds_requireExpression debug hs hsome).bind fun e he => ?_
  exact formula_sound debug hs he

theorem builds_inlineStep (hs : s.Parsed) (hsome : s.expression.isSome = true) :
    Builds Step.Sound (inlineStep debug s) := by
  have hhead := (head_sound debug hs Call.ready_nil).1
  unfold inlineStep
  split
  · refine (builds_requireName debug hs hsome).bind fun name _ => ?_
    exact hhead
  · refine (builds_requireExpression debug hs hsome).bind fun e he => ?_
    split
    · exact ⟨hhead, trivial⟩
    · exact formula_sound debug hs he
  · refine (builds_requirePath debug hs hsome).bind fun path _ => ?_
    exact ⟨hhead, trivial⟩

/-! ## Blocks -/

/-- Only the first branch of a conditional must have a test. -/
theorem builds_readTest (hs : s.Parsed) (first last : Bool)
    (hsome : first = true → s.expression.isSome = true) :
    Builds (fun test => ∀ t, test = some t → Test.Sound t) (readTest debug first last s) := by
  unfold readTest
  split
  · next e he =>
    rintro _ ⟨rfl⟩
    obtain ⟨hready, -, hf⟩ := Formula.ready_ofPostfix s.context (place debug s)
      (hs.expression_isTree e he) Call.ready_nil
    exact ⟨hready, hf⟩
  · next hnone =>
    split
    · next hfirst =>
      rw [hnone] at hsome
      cases hsome hfirst
    split
    · rintro _ ⟨⟩
    · exact builds_ofFault fun _ h => by cases h

/-- Joining texts keeps steps sound. -/
theorem stepsSound_consStep {step : Step} {steps : List Step} (hstep : step.Sound)
    (hsteps : StepsSound steps) : StepsSound (consStep step steps) := by
  unfold consStep
  split
  · exact ⟨trivial, hsteps.2⟩
  · split
    · exact hsteps
    · exact ⟨trivial, hsteps⟩
  · exact ⟨hstep, hsteps⟩

/-- The step of a block is sound if its bodies are. -/
theorem builds_block (hs : s.Parsed) (hsome : s.expression.isSome = true) {body : List Node}
    {more : List Branch} (hbody : Builds StepsSound (buildNodes debug body))
    (halternatives : Builds AlternativesSound (buildAlternatives debug more))
    (hbodies : Builds BodiesSound (buildContinuations debug more)) :
    Builds Step.Sound (buildNode debug (.block s body more)) := by
  have hhead := (head_sound debug hs Call.ready_nil).1
  rw [buildNode]
  split
  · -- a conditional: the opening segment has the first test
    split
    · exact builds_ofFault fun _ h => by cases h
    refine (builds_readTest debug hs true _ fun _ => hsome).bind fun test htest => ?_
    refine hbody.bind fun steps hsteps => ?_
    refine halternatives.bind fun others hothers => ?_
    exact ⟨hhead, htest, hsteps, hothers⟩
  · -- an iterator: its collection comes before its modifiers
    refine (builds_requireSingle debug more).bind fun _ _ => ?_
    refine (builds_requireExpression debug hs hsome).bind fun e he => ?_
    refine hbody.bind fun steps hsteps => ?_
    obtain ⟨hhead, hcollection⟩ := formula_sound debug hs he
    exact ⟨hhead, hcollection, hsteps⟩
  · refine (builds_requirePath debug hs hsome).bind fun path _ => ?_
    refine hbody.bind fun steps hsteps => ?_
    refine hbodies.bind fun others hothers => ?_
    exact ⟨hhead, hsteps, hothers⟩
  · refine (builds_requireSingle debug more).bind fun _ _ => ?_
    refine (builds_requireName debug hs hsome).bind fun name _ => ?_
    refine hbody.bind fun steps hsteps => ?_
    exact ⟨hhead, hsteps⟩
  · exact builds_ofFault fun _ h => by cases h

mutual

/-- What is read from a text and well nested is built into sound steps. -/
theorem builds_buildNodes {nodes : List Node} {xs : List Segment} (hp : ∀ s ∈ xs, s.Parsed) :
    Flattens nodes xs → Builds StepsSound (buildNodes debug nodes)
  | .nil => by
    rw [buildNodes]
    exact trivial
  | .text _ h => by
    rw [buildNodes, buildNode]
    refine (builds_textStep debug).bind fun step hstep => ?_
    refine (builds_buildNodes (fun s hs => hp s (by simp [hs])) h).bind fun steps hsteps => ?_
    exact stepsSound_consStep hstep hsteps
  | .output (s := s) hk h => by
    have hs := hp s List.mem_cons_self
    have hd := Segment.not_delimits_of_isSelfContained (Segment.isSelfContained_of_output hk)
    -- what is read has its expression, since it delimits nothing
    have hsome := hs.expression_isSome (by simp [hk]) (.inl hd)
    rw [buildNodes, buildNode]
    refine (builds_outputStep debug hs hsome).bind fun step hstep => ?_
    refine (builds_buildNodes (fun s hs => hp s (by simp [hs])) h).bind fun steps hsteps => ?_
    exact stepsSound_consStep hstep hsteps
  | .inline (s := s) _ hself h => by
    have hs := hp s List.mem_cons_self
    have hd := Segment.not_delimits_of_isSelfContained hself
    have hsome := hs.expression_isSome (Segment.ne_text_of_isSelfContained hself) (.inl hd)
    rw [buildNodes, buildNode]
    refine (builds_inlineStep debug hs hsome).bind fun step hstep => ?_
    refine (builds_buildNodes (fun s hs => hp s (by simp [hs])) h).bind fun steps hsteps => ?_
    exact stepsSound_consStep hstep hsteps
  | .block (s := s) ho hbody hmore hc h => by
    have hs := hp s List.mem_cons_self
    have hsome := hs.expression_isSome (Segment.ne_text_of_opensBlock ho) (.inr ho)
    have ihbody := builds_buildNodes (fun s hs => hp s (by simp [hs])) hbody
    have ihmore := builds_buildMore (fun s hs => hp s (by simp [hs])) hmore
    rw [buildNodes]
    refine (builds_block debug hs hsome ihbody ihmore.1 ihmore.2).bind fun step hstep => ?_
    refine (builds_buildNodes (fun s hs => hp s (by simp [hs])) h).bind fun steps hsteps => ?_
    exact stepsSound_consStep hstep hsteps

/-- What is read from a text and continues a block is built into sound branches, or bodies. -/
theorem builds_buildMore {kind : Kind} {more : List Branch} {xs : List Segment}
    (hp : ∀ s ∈ xs, s.Parsed) : FlattensMore kind more xs →
      Builds AlternativesSound (buildAlternatives debug more) ∧
        Builds BodiesSound (buildContinuations debug more)
  | .nil => by
    rw [buildAlternatives, buildContinuations]
    exact ⟨trivial, trivial⟩
  | .cons (s := s) _ hbody hmore => by
    have hs := hp s List.mem_cons_self
    have hhead := (head_sound debug hs Call.ready_nil).1
    have ihbody := builds_buildNodes (fun s hs => hp s (by simp [hs])) hbody
    have ihmore := builds_buildMore (fun s hs => hp s (by simp [hs])) hmore
    rw [buildAlternatives, buildContinuations]
    -- the same branches, first as those of a choice, then as those of a block that is handed over
    constructor
    · refine (builds_readTest debug hs false _ fun h => by cases h).bind fun test htest => ?_
      refine ihbody.bind fun steps hsteps => ?_
      refine ihmore.1.bind fun others hothers => ?_
      exact ⟨hhead, htest, hsteps, hothers⟩
    · split
      · exact builds_ofFault fun _ h => by cases h
      refine ihbody.bind fun steps hsteps => ?_
      refine ihmore.2.bind fun others hothers => ?_
      exact ⟨hsteps, hothers⟩

end

/-- Compiling what is read from a text finds no missing expression, and gives a sound scope. -/
theorem builds_compile {segments : List Segment} (hp : ∀ s ∈ segments, s.Parsed) :
    Builds Scope.Sound (compile debug segments) := by
  unfold compile
  cases hscan : Node.scan debug segments with
  | error e =>
    -- scanning finds fault only with the order of segments
    obtain ⟨s, -, fault, rfl, hfault⟩ := Node.refusal_of_scan hscan
    refine builds_ofFault fun kind h => ?_
    rcases hfault with rfl | rfl | rfl
    · cases h
    · cases h
    · cases h
  | ok nodes =>
    refine (builds_buildNodes debug hp (Node.flattens_of_scan hscan)).bind fun steps hsteps => ?_
    exact hsteps

/-- Compiling a text never reports a missing expression. -/
theorem not_lacksExpression_of_compileText {source : String} {e : CompileError}
    (h : compileText debug source = .error (.compileError e)) : ¬ e.LacksExpression := by
  rcases Except.bind_eq_error_iff.1 h with h | ⟨segments, hparse, h⟩
  · obtain ⟨_, -, heq⟩ := Except.mapError_eq_error_iff.1 h
    cases heq
  · obtain ⟨e', he', heq⟩ := Except.mapError_eq_error_iff.1 h
    cases heq
    have hparsed := Segment.parsed_of_parse (Except.mapError_eq_ok_iff.1 hparse)
    have hbuilds := builds_compile debug hparsed
    rw [he'] at hbuilds
    exact hbuilds

/-- What a text is compiled to is sound. -/
theorem sound_of_compileText {source : String} {scope : Scope}
    (h : compileText debug source = .ok scope) : scope.Sound := by
  obtain ⟨segments, hparse, h⟩ := Except.bind_eq_ok_iff.1 h
  have hparsed := Segment.parsed_of_parse (Except.mapError_eq_ok_iff.1 hparse)
  have hbuilds := builds_compile debug hparsed
  rw [Except.mapError_eq_ok_iff.1 h] at hbuilds
  exact hbuilds

end Scope

end Stencil
