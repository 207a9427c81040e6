import Stencil.Proofs.Block.Replace
import Stencil.Proofs.Except
import Stencil.Proofs.Scope.Like
import Stencil.Proofs.Scope.Slots

/-!
# Stencil.Proofs.Scope.Rebuild — compiling again gives the same

Whether details of errors are asked for decides where errors are placed, and nothing else: a
template is compiled to scopes that are alike (`Scope.compileText_like`). So it is when some
segments have been replaced, if what replaces them is compiled to something like them
(`Scope.compile_like`).
-/

/-- Whether one computation succeeds where another one does, with a related result. -/
def Except.Carries {ε α β : Type} (R : α → β → Prop) (x : Except ε α) (y : Except ε β) : Prop :=
  ∀ a, x = .ok a → ∃ b, y = .ok b ∧ R a b

namespace Except.Carries

variable {ε α β γ δ : Type} {R : α → β → Prop} {S : γ → δ → Prop}

theorem ok {a : α} {b : β} (h : R a b) : Carries R (.ok a : Except ε α) (.ok b) := by
  rintro _ ⟨⟩
  exact ⟨b, rfl, h⟩

/-- When one of them is not built, nothing is asked of the other. -/
theorem error (e : ε) (y : Except ε β) : Carries R (.error e) y := by
  rintro _ ⟨⟩

/-- What is built in parts is related if its parts are. -/
theorem bind {x : Except ε α} {y : Except ε β} (h : Carries R x y) {f : α → Except ε γ}
    {g : β → Except ε δ} (hfg : ∀ a b, R a b → Carries S (f a) (g b)) :
    Carries S (x >>= f) (y >>= g) := by
  intro c hc
  obtain ⟨a, ha, hc⟩ := Except.bind_eq_ok_iff.1 hc
  obtain ⟨b, rfl, hab⟩ := h a ha
  exact hfg a b hab c hc

end Except.Carries

namespace Stencil

/-! ## Expressions -/

namespace Formula

variable (context : Option String) (position position' : Option Position)

mutual

/-- Where errors are placed says nothing about the formula, and nothing else about the calls. -/
theorem like_ofPostfix : ∀ (e : Expr.Postfix) {calls calls' : List Call},
    List.Forall₂ Call.Like calls calls' →
      (ofPostfix context position e calls).1 = (ofPostfix context position' e calls').1 ∧
      List.Forall₂ Call.Like (ofPostfix context position e calls).2
        (ofPostfix context position' e calls').2
  | [], _, _, h => by
    rw [ofPostfix, ofPostfix]
    exact ⟨rfl, h⟩
  -- the same number of calls has been taken out on both sides, so the slot is the same
  | .call path args property :: rest, _, _, h => by
    obtain ⟨hformulas, hargs⟩ := like_ofArguments args h
    have hcall : Call.Like (callOf context position path args property _)
        (callOf context position' path args property _) := ⟨rfl, rfl, hformulas, rfl⟩
    obtain ⟨hops, hmore⟩ := like_ofPostfix rest (List.rel_append hargs (.cons hcall .nil))
    rw [ofPostfix_call, ofPostfix_call, hargs.length_eq]
    exact ⟨congrArg (Op.slot _ :: ·) hops, hmore⟩
  | .literal l :: rest, _, _, h => by
    rw [ofPostfix, ofPostfix]
    exact ⟨congrArg (Op.value l.value :: ·) (like_ofPostfix rest h).1, (like_ofPostfix rest h).2⟩
  | .path p :: rest, _, _, h => by
    rw [ofPostfix, ofPostfix]
    exact ⟨congrArg (Op.lookup p :: ·) (like_ofPostfix rest h).1, (like_ofPostfix rest h).2⟩
  | .operator op :: rest, _, _, h => by
    rw [ofPostfix, ofPostfix]
    exact ⟨congrArg (Op.binary op :: ·) (like_ofPostfix rest h).1, (like_ofPostfix rest h).2⟩
  | .negate n :: rest, _, _, h => by
    rw [ofPostfix, ofPostfix]
    exact ⟨congrArg (Op.negate n :: ·) (like_ofPostfix rest h).1, (like_ofPostfix rest h).2⟩
  | .opening :: rest, _, _, h => by
    rw [ofPostfix, ofPostfix]
    exact like_ofPostfix rest h
  | .closing :: rest, _, _, h => by
    rw [ofPostfix, ofPostfix]
    exact like_ofPostfix rest h
  | .separator :: rest, _, _, h => by
    rw [ofPostfix, ofPostfix]
    exact like_ofPostfix rest h

/-- Arguments have the same formulas, and calls that are alike. -/
theorem like_ofArguments : ∀ (es : List Expr.Postfix) {calls calls' : List Call},
    List.Forall₂ Call.Like calls calls' →
      (ofArguments context position es calls).1 = (ofArguments context position' es calls').1 ∧
      List.Forall₂ Call.Like (ofArguments context position es calls).2
        (ofArguments context position' es calls').2
  | [], _, _, h => by
    rw [ofArguments, ofArguments]
    exact ⟨rfl, h⟩
  | e :: es, _, _, h => by
    obtain ⟨hformula, hcalls⟩ := like_ofPostfix e h
    obtain ⟨hformulas, hmore⟩ := like_ofArguments es hcalls
    rw [ofArguments_cons, ofArguments_cons]
    exact ⟨congrArg₂ _ hformula hformulas, hmore⟩

end

theorem like_ofModifiers (ms : List ModifierCall) {calls calls' : List Call}
    (h : List.Forall₂ Call.Like calls calls') :
    (ofModifiers context position ms calls).1 = (ofModifiers context position' ms calls').1 ∧
      List.Forall₂ Call.Like (ofModifiers context position ms calls).2
        (ofModifiers context position' ms calls').2 := by
  induction ms generalizing calls calls' with
  | nil => exact ⟨rfl, h⟩
  | cons m ms ih =>
    obtain ⟨hargs, hcalls⟩ := like_ofArguments context position position' m.args h
    obtain ⟨hpending, hmore⟩ := ih hcalls
    exact ⟨congrArg₂ (PendingModifier.mk m.name · :: ·) hargs hpending, hmore⟩

end Formula

/-! ## Directives -/

namespace Scope

variable (debug debug' : Bool)

/-- The heads of a segment are alike, with details or without. -/
theorem head_like (s : Segment) {calls calls' : List Call}
    (h : List.Forall₂ Call.Like calls calls') :
    (head debug s calls).Like (head debug' s calls') := by
  obtain ⟨hmodifiers, hcalls⟩ :=
    Formula.like_ofModifiers s.context (place debug s) (place debug' s) s.modifiers h
  rw [head_eq, head_eq]
  exact ⟨rfl, hcalls, hmodifiers⟩

/-- An expression that is required is the same. -/
theorem carries_requireExpression (s : Segment) :
    (requireExpression debug s).Carries Eq (requireExpression debug' s) := by
  unfold requireExpression
  cases s.expression with
  | none => exact .error _ _
  | some e => exact .ok rfl

theorem carries_requireName (s : Segment) :
    (requireName debug s).Carries Eq (requireName debug' s) := by
  refine (carries_requireExpression debug debug' s).bind ?_
  rintro e _ rfl
  cases e.path?.or e.text? with
  | none => exact .error _ _
  | some name => exact .ok rfl

theorem carries_requirePath (s : Segment) :
    (requirePath debug s).Carries Eq (requirePath debug' s) := by
  refine (carries_requireExpression debug debug' s).bind ?_
  rintro e _ rfl
  cases e.path? with
  | none => exact .error _ _
  | some path => exact .ok rfl

variable (T : String → Scope → Prop)

/-- A text is built alike. -/
theorem carries_textStep (s : Segment) :
    (textStep debug s).Carries (Step.Like T) (textStep debug' s) := by
  unfold textStep
  dsimp only
  split
  · exact .error _ _
  · exact .ok (.text _)

theorem carries_outputStep (s : Segment) :
    (outputStep debug s).Carries (Step.Like T) (outputStep debug' s) := by
  refine (carries_requireExpression debug debug' s).bind ?_
  rintro e _ rfl
  obtain ⟨hvalue, hcalls⟩ := Formula.like_ofPostfix s.context (place debug s)
    (place debug' s) e .nil
  refine .ok ?_
  rw [hvalue]
  exact .output _ (head_like debug debug' s hcalls)

theorem carries_inlineStep (s : Segment) :
    (inlineStep debug s).Carries (Step.Like T) (inlineStep debug' s) := by
  have hhead := head_like debug debug' s .nil
  unfold inlineStep
  split
  · refine (carries_requireName debug debug' s).bind ?_
    rintro name _ rfl
    exact .ok (.render name hhead)
  · refine (carries_requireExpression debug debug' s).bind ?_
    rintro e _ rfl
    -- the name is fixed, or computed by a formula that is the same on both sides
    cases e.text?.or e.path? with
    | some name => exact .ok (.inclusion (.fixed name) hhead)
    | none =>
      obtain ⟨hname, hcalls⟩ := Formula.like_ofPostfix s.context (place debug s)
        (place debug' s) e .nil
      refine .ok ?_
      rw [hname]
      exact .inclusion _ (head_like debug debug' s hcalls)
  · refine (carries_requirePath debug debug' s).bind ?_
    rintro path _ rfl
    exact .ok (.custom path hhead .nil)

theorem carries_readTest (first last : Bool) (s : Segment) :
    (readTest debug first last s).Carries (Option.Rel Test.Like)
      (readTest debug' first last s) := by
  unfold readTest
  cases s.expression with
  | some e =>
    obtain ⟨hformula, hcalls⟩ := Formula.like_ofPostfix s.context (place debug s)
      (place debug' s) e .nil
    exact .ok (.some ⟨hcalls, hformula⟩)
  | none =>
    dsimp only
    split
    · exact .error _ _
    split
    · exact .ok .none
    · exact .error _ _

/-! ## Lists of nodes -/

variable {T}

/-- Texts are joined alike. -/
theorem stepsLike_consStep {step step' : Step} {steps steps' : List Step} (h : step.Like T step')
    (hs : StepsLike T steps steps') :
    StepsLike T (consStep step steps) (consStep step' steps') := by
  cases h with
  | text a =>
    -- a text is joined with one behind it; only a text is like a text, so it is on either side
    cases hs with
    | nil =>
      unfold consStep
      dsimp only
      split
      · exact .nil
      · exact .cons (.text a) .nil
    | cons hstep hrest =>
      cases hstep with
      | text b => exact .cons (.text (a ++ b)) hrest
      | output | choice | iterate | custom | declare | render | inclusion | inPlace =>
        unfold consStep
        dsimp only
        split
        · exact .cons (by constructor <;> assumption) hrest
        · exact .cons (.text a) (.cons (by constructor <;> assumption) hrest)
  | output | choice | iterate | custom | declare | render | inclusion | inPlace =>
    exact .cons (by constructor <;> assumption) hs

section Nodes

variable {R : Segment → List Segment → Prop} {debug debug' : Bool}

/-- Whether a segment that includes a template is only replaced by one node, compiled to something
like what the segment is compiled to. -/
structure Replacing (T : String → Scope → Prop) (debug debug' : Bool)
    (R : Segment → List Segment → Prop) : Prop where
  node (s : Segment) (chunk : List Segment) : R s chunk →
    s.kind = .inclusion ∧ ∃ node, Flattens [node] chunk
  like {s : Segment} {chunk : List Segment} {node : Node} : R s chunk → Flattens [node] chunk →
    (inlineStep debug s).Carries (Step.Like T) (buildNode debug' node)

omit T in
/-- Nodes are rewritten to some only if there are any. -/
theorem isEmpty_of_rewritten {nodes nodes' : List Node} (h : Node.NodesRewritten R nodes nodes') :
    nodes.isEmpty = nodes'.isEmpty := by
  cases h <;> rfl

theorem isEmpty_of_moreRewritten {more more' : List Branch}
    (h : Node.BranchesRewritten R more more') : more.isEmpty = more'.isEmpty := by
  cases h <;> rfl

theorem all_isEmpty_of_rewritten {more more' : List Branch}
    (h : Node.BranchesRewritten R more more') :
    more.all (·.body.isEmpty) = more'.all (·.body.isEmpty) := by
  induction more generalizing more' with
  | nil =>
    cases h
    rfl
  | cons b more ih =>
    cases h with
    | cons s hbody hmore =>
      rw [List.all_cons, List.all_cons, ih hmore]
      exact congrArg (· && _) (isEmpty_of_rewritten hbody)

/-- Branches too many are so after rewriting. -/
theorem carries_requireSingle (s : Segment) {more more' : List Branch}
    (h : Node.BranchesRewritten R more more') :
    (requireSingle debug s more).Carries Eq (requireSingle debug' s more') := by
  cases h with
  | nil => exact .ok rfl
  | cons => exact .error _ _

mutual

/-- Nodes in which some segments are replaced are compiled to steps that are alike. -/
theorem carries_buildNode (hR : Replacing T debug debug' R) {node node' : Node} :
    Node.Rewritten R node node' →
      (buildNode debug node).Carries (Step.Like T) (buildNode debug' node')
  | .text s => by
    rw [buildNode, buildNode]
    exact carries_textStep debug debug' T s
  | .output s => by
    rw [buildNode, buildNode]
    exact carries_outputStep debug debug' T s
  | .inline s => by
    rw [buildNode, buildNode]
    exact carries_inlineStep debug debug' T s
  | .put hs h => by
    rw [buildNode]
    exact hR.like hs h
  | .block s hbody hmore => by
    have hbody' := carries_buildNodes hR hbody
    rw [buildNode, buildNode]
    cases s.kind with
    | conditional =>
      -- a body is empty after the replacement just if it was before
      dsimp only
      rw [isEmpty_of_rewritten hbody, all_isEmpty_of_rewritten hmore,
        isEmpty_of_moreRewritten hmore]
      split
      · exact .error _ _
      refine (carries_readTest debug debug' true _ s).bind fun test test' htest => ?_
      refine hbody'.bind fun steps steps' hsteps => ?_
      refine (carries_buildAlternatives hR hmore).bind fun others others' hothers => ?_
      exact .ok (.choice (.cons (head_like debug debug' s .nil) htest (.mk hsteps) hothers))
    | iterator =>
      refine (carries_requireSingle s hmore).bind fun _ _ _ => ?_
      refine (carries_requireExpression debug debug' s).bind ?_
      rintro e _ rfl
      refine hbody'.bind fun steps steps' hsteps => ?_
      obtain ⟨hcollection, hcalls⟩ := Formula.like_ofPostfix s.context (place debug s)
        (place debug' s) e .nil
      refine .ok ?_
      rw [hcollection]
      exact .iterate _ (head_like debug debug' s hcalls) (.mk hsteps)
    | custom =>
      refine (carries_requirePath debug debug' s).bind ?_
      rintro path _ rfl
      refine hbody'.bind fun steps steps' hsteps => ?_
      refine (carries_buildContinuations hR hmore).bind fun others others' hothers => ?_
      exact .ok (.custom path (head_like debug debug' s .nil) (.cons (.mk hsteps) hothers))
    | declare =>
      refine (carries_requireSingle s hmore).bind fun _ _ _ => ?_
      refine (carries_requireName debug debug' s).bind ?_
      rintro name _ rfl
      refine hbody'.bind fun steps steps' hsteps => ?_
      exact .ok (.declare name (head_like debug debug' s .nil) (.mk hsteps))
    | text | output | render | inclusion => exact .error _ _

/-- Nodes in a row are built alike. -/
theorem carries_buildNodes (hR : Replacing T debug debug' R) {nodes nodes' : List Node} :
    Node.NodesRewritten R nodes nodes' →
      (buildNodes debug nodes).Carries (StepsLike T) (buildNodes debug' nodes')
  | .nil => .ok .nil
  | .cons h hs => by
    rw [buildNodes, buildNodes]
    refine (carries_buildNode hR h).bind fun step step' hstep => ?_
    refine (carries_buildNodes hR hs).bind fun steps steps' hsteps => ?_
    exact .ok (stepsLike_consStep hstep hsteps)

theorem carries_buildAlternatives (hR : Replacing T debug debug' R) {more more' : List Branch} :
    Node.BranchesRewritten R more more' →
      (buildAlternatives debug more).Carries (AlternativesLike T) (buildAlternatives debug' more')
  | .nil => .ok .nil
  | .cons s hbody hmore => by
    rw [buildAlternatives, buildAlternatives, isEmpty_of_moreRewritten hmore]
    refine (carries_readTest debug debug' false _ s).bind fun test test' htest => ?_
    refine (carries_buildNodes hR hbody).bind fun steps steps' hsteps => ?_
    refine (carries_buildAlternatives hR hmore).bind fun others others' hothers => ?_
    exact .ok (.cons (head_like debug debug' s .nil) htest (.mk hsteps) hothers)

theorem carries_buildContinuations (hR : Replacing T debug debug' R) {more more' : List Branch} :
    Node.BranchesRewritten R more more' →
      (buildContinuations debug more).Carries (BodiesLike T) (buildContinuations debug' more')
  | .nil => .ok .nil
  | .cons s hbody hmore => by
    rw [buildContinuations, buildContinuations]
    split
    · exact .error _ _
    refine (carries_buildNodes hR hbody).bind fun steps steps' hsteps => ?_
    refine (carries_buildContinuations hR hmore).bind fun others others' hothers => ?_
    exact .ok (.cons (.mk hsteps) hothers)

end

/-- A list of segments in which some are replaced is compiled to a scope like that of the list. -/
theorem compile_like (hR : Replacing T debug debug' R) {xs ys : List Segment}
    (h : Replaced R xs ys) :
    (compile debug xs).Carries (Scope.Like T) (compile debug' ys) := by
  intro scope hscope
  obtain ⟨nodes, hnodes, hscope⟩ := Except.bind_eq_ok_iff.1 hscope
  obtain ⟨steps, hsteps, hscope⟩ := Except.bind_eq_ok_iff.1 hscope
  cases hscope
  obtain ⟨nodes', hflat, hnodes'⟩ := Node.exists_rewritten hR.node (Node.flattens_of_scan hnodes) h
  obtain ⟨steps', hsteps', hlike⟩ := carries_buildNodes hR hnodes' steps hsteps
  refine ⟨.mk steps', ?_, .mk hlike⟩
  rw [compile, Node.scan_of_flattens debug' hflat]
  show (buildNodes debug' nodes' >>= fun steps => Except.ok (Scope.mk steps)) = _
  rw [hsteps']
  rfl

end Nodes

/-- A template compiles whether details of errors are asked for or not, to scopes that are alike. -/
theorem compileText_like (debug debug' : Bool) (source : String) :
    (compileText debug source).Carries (Scope.Like T) (compileText debug' source) := by
  intro scope hscope
  obtain ⟨segments, hsegments, hscope⟩ := Except.bind_eq_ok_iff.1 hscope
  have hcompile := Except.mapError_eq_ok_iff.1 hscope
  have hnothing : Replacing T debug debug' fun _ _ => False :=
    ⟨fun _ _ h => h.elim, fun h => h.elim⟩
  obtain ⟨scope', hscope', hlike⟩ := compile_like hnothing (.refl segments) scope hcompile
  refine ⟨scope', ?_, hlike⟩
  rw [compileText, hsegments]
  exact Except.mapError_eq_ok_iff.2 hscope'

end Scope

end Stencil
