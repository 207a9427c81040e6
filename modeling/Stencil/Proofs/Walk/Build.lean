import Stencil.Proofs.Except
import Stencil.Proofs.Walk.Basic

/-!
# Stencil.Proofs.Walk.Build — a compiled template walks its nodes

The steps that are built for nodes run as the walk goes through the nodes
(`runSteps_of_buildNodes`). The induction is on the nodes, together with the branches of
conditionals; a text that is still to be written on the way is the text that the steps so far
begin with.
-/

namespace Stencil

/-- Whether the step writes a text. -/
def Step.isText : Step → Bool
  | .text _ => true
  | _ => false

namespace Walk

variable (debug : Bool) (channel : Channel) (frame : Frame) (site : Site)

/-! ## Directives -/

/-- A directive that evaluates an expression runs its calls, those of its modifiers, and then works.
-/
theorem evaluating_eq (s : Segment) (e : Expr.Postfix)
    (work : Frame → Formula → List PendingModifier → Action Unit) :
    evaluating debug frame site s e work = (do
      let head := Scope.head debug s (Scope.formula debug s e []).2
      let slots ← Call.runAll frame site head.calls []
      (work (frame.reroot site s.context) ((Scope.formula debug s e []).1.settled slots)
        (head.modifiers.map (·.settled slots))).locate (Scope.place debug s)) := by
  rw [Scope.head_eq]
  exact settle_bind s.context (Scope.place debug s) frame site e s.modifiers fun f pending =>
    (work (frame.reroot site s.context) f pending).locate (Scope.place debug s)

/-- One without an expression runs the calls of its modifiers. -/
theorem modifying_eq (s : Segment) (work : Frame → List PendingModifier → Action Unit) :
    modifying debug frame site s work = (do
      let head := Scope.head debug s []
      let slots ← Call.runAll frame site head.calls []
      (work (frame.reroot site s.context) (head.modifiers.map (·.settled slots))).locate
        (Scope.place debug s)) := by
  rw [Scope.head_eq]
  exact settleModifiers_bind s.context (Scope.place debug s) frame site s.modifiers fun pending =>
    (work (frame.reroot site s.context) pending).locate (Scope.place debug s)

/-- Modifiers whose arguments have been settled are applied like those that look the slots up. -/
theorem applied_settled (head : Head) (target : Frame) (slots : List Value) :
    applied (head.modifiers.map (·.settled slots)) target = head.applied target slots := by
  unfold applied Head.applied
  rw [List.mapM_map]
  congr 2
  funext m
  exact m.apply_settled target slots

/-- The step of an output is the walk of it. -/
theorem output_eq (s : Segment) (e : Expr.Postfix) :
    Step.run channel frame site (.output (Scope.head debug s (Scope.formula debug s e []).2)
      (Scope.formula debug s e []).1) = output debug channel frame site s e := by
  rw [output, evaluating_eq, Step.run]
  refine bind_congr fun slots => ?_
  simp only [Formula.eval_settled, modifyAll_settled]
  rfl

/-- The step of an iteration is the walk of it, if its body is. -/
theorem iterate_eq (s : Segment) (e : Expr.Postfix) (body : Scope)
    (walk : Channel → Frame → Site → Action Unit)
    (h : ∀ channel frame site, body.run channel frame site = walk channel frame site) :
    Step.run channel frame site (.iterate (Scope.head debug s (Scope.formula debug s e []).2)
      (Scope.formula debug s e []).1 body) = iterate debug channel frame site s e walk := by
  rw [iterate, evaluating_eq, Step.run]
  refine bind_congr fun slots => ?_
  unfold Head.iterate
  simp only [Formula.eval_settled, applied_settled, h]
  rfl

/-- The step of a custom block is the walk of it. -/
theorem custom_eq (s : Segment) (path : String) (bodies : List Scope) :
    Step.run channel frame site (.custom (Scope.head debug s []) path bodies) =
      custom debug channel frame site s path bodies := by
  rw [custom, modifying_eq, Step.run]
  refine bind_congr fun slots => ?_
  unfold Head.invokeCustom
  simp only [applied_settled]
  rfl

/-- The step of a render is the walk of it. -/
theorem render_eq (s : Segment) (name : String) :
    Step.run channel frame site (.render (Scope.head debug s []) name) =
      render debug channel frame site s name := by
  rw [render, modifying_eq, Step.run]
  refine bind_congr fun slots => ?_
  unfold Head.renderNamed
  simp only [applied_settled]
  rfl

/-- The step that includes a named template is the walk of it. -/
theorem includeFixed_eq (s : Segment) (name : String) :
    Step.run channel frame site (.inclusion (Scope.head debug s []) (.fixed name)) =
      includeFixed debug channel frame site s name := by
  rw [includeFixed, modifying_eq, Step.run]
  refine bind_congr fun slots => ?_
  unfold Head.renderPartial
  simp only [applied_settled]
  rfl

/-- So is the step that includes a computed one. -/
theorem includeComputed_eq (s : Segment) (e : Expr.Postfix) :
    Step.run channel frame site (.inclusion (Scope.head debug s (Scope.formula debug s e []).2)
      (.computed (Scope.formula debug s e []).1)) =
        includeComputed debug channel frame site s e := by
  rw [includeComputed, evaluating_eq, Step.run]
  refine bind_congr fun slots => ?_
  unfold Head.renderPartial
  simp only [Formula.eval_settled, applied_settled, TemplateName.eval, bind_assoc, pure_bind]
  rfl

/-- Modifiers whose arguments are evaluated before anything else is done. -/
theorem applied_bind {α : Type} (s : Segment) (target : Frame)
    (k : List AppliedModifier → Action α) :
    (do
      let (pending, _) ← settleModifiers s.context (Scope.place debug s) frame site s.modifiers 0
      let modifiers ← (applied pending target).locate (Scope.place debug s)
      k modifiers) =
    (do
      let head := Scope.head debug s []
      let slots ← Call.runAll frame site head.calls []
      let modifiers ← (head.applied target slots).locate (Scope.place debug s)
      k modifiers) := by
  rw [Scope.head_eq]
  refine (settleModifiers_bind s.context (Scope.place debug s) frame site s.modifiers
    fun pending => do
      let modifiers ← (applied pending target).locate (Scope.place debug s)
      k modifiers).trans ?_
  refine bind_congr fun slots => ?_
  have h := applied_settled ⟨s.context,
    (Formula.ofModifiers s.context (Scope.place debug s) s.modifiers []).2,
    (Formula.ofModifiers s.context (Scope.place debug s) s.modifiers []).1,
    Scope.place debug s⟩ target slots
  rw [h]

/-- The step of a declaration is the walk of it. -/
theorem declare_eq (s : Segment) (name : String) (body : Scope) :
    Step.run channel frame site (.declare (Scope.head debug s []) name body) =
      declare debug frame site s name body := by
  rw [Step.run]
  exact (applied_bind debug frame site s _ _).symm

/-! ## What the parts of a directive are read from -/

/-- A directive that compiles has the expression it needs. -/
theorem expression_of_require {s : Segment} {e : Expr.Postfix}
    (h : Scope.requireExpression debug s = .ok e) : s.expression = some e := by
  unfold Scope.requireExpression at h
  split at h
  · next e' he =>
    cases h
    exact he
  · cases h

/-- It has the name it needs. -/
theorem name_of_require {s : Segment} {n : String} (h : Scope.requireName debug s = .ok n) :
    name s = n := by
  obtain ⟨e, he, h⟩ := Except.bind_eq_ok_iff.1 h
  rw [name, expression_of_require debug he, Option.bind_some]
  split at h
  · next n' hn =>
    cases h
    rw [hn, Option.getD_some]
  · cases h

/-- It has the path it needs. -/
theorem path_of_require {s : Segment} {p : String} (h : Scope.requirePath debug s = .ok p) :
    path s = p := by
  obtain ⟨e, he, h⟩ := Except.bind_eq_ok_iff.1 h
  rw [path, expression_of_require debug he, Option.bind_some]
  split at h
  · next p' hp =>
    cases h
    rw [hp, Option.getD_some]
  · cases h

/-- The step of a directive that stands alone is the walk of it. -/
theorem inlined_eq {s : Segment} {step : Step} (h : Scope.inlineStep debug s = .ok step) :
    step.isText = false ∧
      step.run channel frame site = inlined debug channel frame site s := by
  unfold Scope.inlineStep at h
  split at h
  · next hk =>
    obtain ⟨n, hn, h⟩ := Except.bind_eq_ok_iff.1 h
    cases h
    refine ⟨rfl, ?_⟩
    rw [inlined, hk, name_of_require debug hn]
    exact render_eq debug channel frame site s n
  · next hk =>
    obtain ⟨e, he, h⟩ := Except.bind_eq_ok_iff.1 h
    rw [inlined, hk, expression_of_require debug he]
    dsimp only
    cases hname : e.text?.or e.path? with
    | some n =>
      rw [hname] at h
      cases h
      exact ⟨rfl, includeFixed_eq debug channel frame site s n⟩
    | none =>
      rw [hname] at h
      cases h
      exact ⟨rfl, includeComputed_eq debug channel frame site s e⟩
  · next hrender hinclusion =>
    obtain ⟨p, hp, h⟩ := Except.bind_eq_ok_iff.1 h
    cases h
    refine ⟨rfl, ?_⟩
    unfold inlined
    split
    · next hk => exact absurd hk hrender
    · next hk => exact absurd hk hinclusion
    · rw [path_of_require debug hp]
      exact custom_eq debug channel frame site s p []

/-! ## Branches -/

/-- The test of a branch decides as its expression does. -/
theorem holds_eq {first last : Bool} {s : Segment} {test : Option Test}
    (h : Scope.readTest debug first last s = .ok test) :
    (Scope.head debug s []).tested frame site test = holds debug frame site s := by
  unfold Scope.readTest at h
  unfold holds
  split at h
  · next e he =>
    cases h
    -- a test starts with no slots, and none of its calls have been run
    have hlen : ([] : List Value).length = ([] : List Call).length := rfl
    have hsettle := settle_eq s.context (Scope.place debug s) frame site e hlen
      (List.nil_append _).symm
    rw [List.length_nil] at hsettle
    rw [he, Head.tested]
    dsimp only
    rw [hsettle, bind_assoc]
    refine bind_congr fun slots => ?_
    rw [pure_bind]
    dsimp only
    rw [Formula.eval_settled]
    rfl
  · next he =>
    rw [he]
    split at h
    · cases h
    split at h
    · cases h
      rfl
    · cases h

/-- The first branch of a choice runs as the walk does, if its body and the others do. -/
theorem runChoice_eq {first last : Bool} {s : Segment} {test : Option Test} {body : Scope}
    {walk : Channel → Frame → Site → Action Unit} {others : List Alternative}
    {rest : Action Unit} (k : Nat) (ht : Scope.readTest debug first last s = .ok test)
    (hb : ∀ channel frame site, body.run channel frame site = walk channel frame site)
    (ho : runChoice channel frame site (k + 1) others = rest) :
    runChoice channel frame site k (.mk (Scope.head debug s []) test body :: others) =
      branch debug channel frame site k s walk rest := by
  rw [runChoice_cons, holds_eq debug frame (.part site k) ht, ho]
  refine bind_congr fun holds => ?_
  split
  · refine Eq.trans ?_ (applied_bind debug frame (.part (.part site k) 0) s
      (frame.reroot (.part site k) s.context) fun modifiers =>
        walk (Channel.wrap modifiers channel) (frame.reroot (.part site k) s.context)
          (.part site k)).symm
    simp only [Head.take, hb]
    rfl
  · rfl

/-! ## Texts -/

/-- A text compiles to itself. -/
theorem buildNode_text {s : Segment} {step : Step}
    (h : Scope.buildNode debug (.text s) = .ok step) : step = .text (s.text.getD "") := by
  rw [Scope.buildNode, Scope.textStep] at h
  split at h
  · cases h
  · cases h
    rfl

/-- A text joins what is not a text only if it is not empty. -/
theorem consStep_text (a : String) {step : Step} (h : step.isText = false) (steps : List Step) :
    Scope.consStep (.text a) (step :: steps) =
      if a = "" then step :: steps else .text a :: step :: steps := by
  cases step with
  | text t => cases h
  | output | choice | iterate | custom | declare | render | inclusion => rfl

theorem consStep_of_not_text {step : Step} (h : step.isText = false) (steps : List Step) :
    Scope.consStep step steps = step :: steps := by
  cases step with
  | text t => cases h
  | output | choice | iterate | custom | declare | render | inclusion => rfl

/-- An empty text leaves no step. -/
theorem consStep_empty (steps : List Step) : Scope.consStep (.text "") steps = steps := by
  cases steps with
  | nil => rfl
  | cons step steps =>
    cases step with
    | text t => simp [Scope.consStep]
    | output | choice | iterate | custom | declare | render | inclusion => rfl

/-- Texts are put together from either end. -/
theorem consStep_consStep (a b : String) (steps : List Step) :
    Scope.consStep (.text a) (Scope.consStep (.text b) steps) =
      Scope.consStep (.text (a ++ b)) steps := by
  by_cases hb : b = ""
  · rw [hb, consStep_empty, String.append_empty]
  · have hab : a ++ b ≠ "" := by
      simp [hb]
    cases steps with
    | nil => simp [Scope.consStep, hb, hab]
    | cons step steps =>
      cases step with
      | text t => simp [Scope.consStep, String.append_assoc]
      | output | choice | iterate | custom | declare | render | inclusion =>
        simp [Scope.consStep, hb, hab]

/-- A text that is to be written comes before what is no text, unless it is empty. -/
theorem runSteps_text (i : Nat) (a : String) {step : Step} (h : step.isText = false)
    (steps : List Step) :
    runSteps channel frame site i (Scope.consStep (.text a) (step :: steps)) = (do
      flush channel a
      runSteps channel frame site (if a = "" then i else i + 1) (step :: steps)) := by
  rw [consStep_text a h]
  split
  · next ha =>
    rw [flush, if_pos ha]
    rfl
  · next ha =>
    rw [flush, if_neg ha]
    rfl

/-- A node that is no text, and the nodes behind it. -/
theorem runSteps_cons (i : Nat) (pending : String) {n : Node} {ns : List Node} {step : Step}
    {steps : List Step} (hn : ∀ s, n ≠ .text s)
    (hstep : step.isText = false ∧
      ∀ channel frame site, step.run channel frame site = node debug channel frame site n)
    (hsteps : ∀ channel frame site i pending,
      runSteps channel frame site i (Scope.consStep (.text pending) steps) =
        nodes debug channel frame site i pending ns) :
    runSteps channel frame site i (Scope.consStep (.text pending) (Scope.consStep step steps)) =
      nodes debug channel frame site i pending (n :: ns) := by
  obtain ⟨hnot, hrun⟩ := hstep
  rw [consStep_of_not_text hnot, runSteps_text channel frame site i pending hnot, nodes]
  · refine bind_congr fun _ => ?_
    rw [runSteps, hrun]
    refine bind_congr fun _ => ?_
    rw [← hsteps, consStep_empty]
  · exact hn

/-- The bodies of continuations are compiled as they stand. -/
theorem ready_of_buildContinuations {more : List Branch} {bodies : List Scope}
    (h : Scope.buildContinuations debug more = .ok bodies) :
    (more.map fun b => ready debug b.body) = bodies := by
  induction more generalizing bodies with
  | nil =>
    cases h
    rfl
  | cons b more ih =>
    obtain ⟨s, body⟩ := b
    rw [Scope.buildContinuations] at h
    split at h
    · cases h
    obtain ⟨steps, hbody, h⟩ := Except.bind_eq_ok_iff.1 h
    obtain ⟨others, hmore, h⟩ := Except.bind_eq_ok_iff.1 h
    cases h
    rw [List.map_cons, ih hmore, Branch.body, ready, hbody]

/-! ## Nodes -/

mutual

/-- The step of a node runs as the walk goes through the node. -/
theorem run_of_buildNode : ∀ (n : Node) {step : Step}, Scope.buildNode debug n = .ok step →
    (∀ s, n ≠ .text s) → step.isText = false ∧
      ∀ channel frame site, step.run channel frame site = node debug channel frame site n
  | .text s, _, _, hn => absurd rfl (hn s)
  | .output s, step, h, _ => by
    rw [Scope.buildNode, Scope.outputStep] at h
    obtain ⟨e, he, h⟩ := Except.bind_eq_ok_iff.1 h
    cases h
    refine ⟨rfl, fun channel frame site => ?_⟩
    rw [node, expression_of_require debug he]
    exact output_eq debug channel frame site s e
  | .inline s, step, h, _ => by
    rw [Scope.buildNode] at h
    refine ⟨(inlined_eq debug [] (.ofData .null) (.start 0) h).1, fun channel frame site => ?_⟩
    rw [node]
    exact (inlined_eq debug channel frame site h).2
  | .block s body more, step, h, _ => by
    rw [Scope.buildNode] at h
    split at h
    · next hk =>
      -- a conditional: its first branch is the opening segment with the first body
      split at h
      · cases h
      obtain ⟨test, ht, h⟩ := Except.bind_eq_ok_iff.1 h
      obtain ⟨steps, hbody, h⟩ := Except.bind_eq_ok_iff.1 h
      obtain ⟨others, hmore, h⟩ := Except.bind_eq_ok_iff.1 h
      cases h
      refine ⟨rfl, fun channel frame site => ?_⟩
      have ihbody := runSteps_of_buildNodes body hbody
      have ihmore := runChoice_of_buildAlternatives more hmore
      rw [node, hk, Step.run]
      refine runChoice_eq debug channel frame site 0 ht ?_ (ihmore channel frame site 1)
      intro channel frame site
      rw [Scope.run_mk, ← ihbody channel frame site 0 "", consStep_empty]
    · next hk =>
      obtain ⟨-, -, h⟩ := Except.bind_eq_ok_iff.1 h
      obtain ⟨e, he, h⟩ := Except.bind_eq_ok_iff.1 h
      obtain ⟨steps, hbody, h⟩ := Except.bind_eq_ok_iff.1 h
      cases h
      refine ⟨rfl, fun channel frame site => ?_⟩
      have ihbody := runSteps_of_buildNodes body hbody
      rw [node, hk, expression_of_require debug he]
      refine iterate_eq debug channel frame site s e (.mk steps) _ ?_
      intro channel frame site
      rw [Scope.run_mk, ← ihbody channel frame site 0 "", consStep_empty]
    · next hk =>
      obtain ⟨p, hp, h⟩ := Except.bind_eq_ok_iff.1 h
      obtain ⟨steps, hbody, h⟩ := Except.bind_eq_ok_iff.1 h
      obtain ⟨others, hmore, h⟩ := Except.bind_eq_ok_iff.1 h
      cases h
      refine ⟨rfl, fun channel frame site => ?_⟩
      rw [node, hk, path_of_require debug hp, ready, hbody, ready_of_buildContinuations debug hmore]
      exact custom_eq debug channel frame site s p (.mk steps :: others)
    · next hk =>
      obtain ⟨-, -, h⟩ := Except.bind_eq_ok_iff.1 h
      obtain ⟨n, hn, h⟩ := Except.bind_eq_ok_iff.1 h
      obtain ⟨steps, hbody, h⟩ := Except.bind_eq_ok_iff.1 h
      cases h
      refine ⟨rfl, fun channel frame site => ?_⟩
      rw [node, hk, name_of_require debug hn, ready, hbody]
      exact declare_eq debug channel frame site s n (.mk steps)
    · cases h

/-- The steps of nodes run as the walk goes through the nodes, where the first text may begin
with one that is still to be written. -/
theorem runSteps_of_buildNodes : ∀ (ns : List Node) {steps : List Step},
    Scope.buildNodes debug ns = .ok steps → ∀ channel frame site i pending,
      runSteps channel frame site i (Scope.consStep (.text pending) steps) =
        nodes debug channel frame site i pending ns
  | [], steps, h, channel, frame, site, i, pending => by
    cases h
    rw [nodes, flush, Scope.consStep]
    · split
      · rfl
      · exact bind_pure (Channel.write channel pending)
    · intro b steps h
      cases h
  | .text s :: ns, steps, h, channel, frame, site, i, pending => by
    obtain ⟨step, hstep, h⟩ := Except.bind_eq_ok_iff.1 h
    obtain ⟨rest, hrest, h⟩ := Except.bind_eq_ok_iff.1 h
    cases h
    -- a text is kept back until something else follows it, as the texts are joined when they
    -- compile
    rw [buildNode_text debug hstep, consStep_consStep, nodes]
    exact runSteps_of_buildNodes ns hrest channel frame site i (pending ++ s.text.getD "")
  | .output s :: ns, steps, h, channel, frame, site, i, pending => by
    obtain ⟨step, hstep, h⟩ := Except.bind_eq_ok_iff.1 h
    obtain ⟨rest, hrest, h⟩ := Except.bind_eq_ok_iff.1 h
    cases h
    have hno : ∀ t, Node.output s ≠ .text t := fun t ht => by cases ht
    exact runSteps_cons debug channel frame site i pending hno
      (run_of_buildNode (.output s) hstep hno) (runSteps_of_buildNodes ns hrest)
  | .inline s :: ns, steps, h, channel, frame, site, i, pending => by
    obtain ⟨step, hstep, h⟩ := Except.bind_eq_ok_iff.1 h
    obtain ⟨rest, hrest, h⟩ := Except.bind_eq_ok_iff.1 h
    cases h
    have hno : ∀ t, Node.inline s ≠ .text t := fun t ht => by cases ht
    exact runSteps_cons debug channel frame site i pending hno
      (run_of_buildNode (.inline s) hstep hno) (runSteps_of_buildNodes ns hrest)
  | .block s body more :: ns, steps, h, channel, frame, site, i, pending => by
    obtain ⟨step, hstep, h⟩ := Except.bind_eq_ok_iff.1 h
    obtain ⟨rest, hrest, h⟩ := Except.bind_eq_ok_iff.1 h
    cases h
    have hno : ∀ t, Node.block s body more ≠ .text t := fun t ht => by cases ht
    exact runSteps_cons debug channel frame site i pending hno
      (run_of_buildNode (.block s body more) hstep hno) (runSteps_of_buildNodes ns hrest)

/-- **Branches run as they are walked.** -/
theorem runChoice_of_buildAlternatives : ∀ (more : List Branch) {others : List Alternative},
    Scope.buildAlternatives debug more = .ok others → ∀ channel frame site k,
      runChoice channel frame site k others = branches debug channel frame site k more
  | [], others, h, channel, frame, site, k => by
    cases h
    rfl
  | .mk s body :: more, others, h, channel, frame, site, k => by
    obtain ⟨test, ht, h⟩ := Except.bind_eq_ok_iff.1 h
    obtain ⟨steps, hbody, h⟩ := Except.bind_eq_ok_iff.1 h
    obtain ⟨rest, hrest, h⟩ := Except.bind_eq_ok_iff.1 h
    cases h
    have ihbody := runSteps_of_buildNodes body hbody
    have ihmore := runChoice_of_buildAlternatives more hrest
    rw [branches]
    refine runChoice_eq debug channel frame site k ht ?_ (ihmore channel frame site (k + 1))
    intro channel frame site
    rw [Scope.run_mk, ← ihbody channel frame site 0 "", consStep_empty]

end

end Walk

end Stencil
