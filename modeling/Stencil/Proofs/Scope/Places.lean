import Stencil.Proofs.Except
import Stencil.Proofs.Program.Laws
import Stencil.Proofs.Scope.Slots

/-!
# Stencil.Proofs.Scope.Places — where directives place their errors

A template that is compiled with details of errors gives every directive and every call in it a
place, and one that is compiled without gives none any (`Scope.positioned_compileText`). An error
that passes a directive with a place has a place then, and one without leaves it as it is.
-/

namespace Stencil

/-! ## Errors that pass a directive -/

/-- Whether an error carries a place. -/
def RenderError.isLocated : RenderError → Bool
  | located .. => true
  | _ => false

/-- Without a place, an error stays as it is. -/
theorem RenderError.locate_none (e : RenderError) : e.locate none = e := by
  cases e <;> rfl

/-- A directive without a place leaves all errors as they are. -/
theorem Action.locate_none {α : Type} (x : Action α) : x.locate none = x := by
  have hsame : ∀ r : Except RenderError α, r.mapError (·.locate none) = r := by
    intro r
    cases r with
    | ok a => rfl
    | error e => exact congrArg Except.error e.locate_none
  show Program.bind x (fun r => .done (r.mapError (·.locate none))) = x
  simp only [hsame]
  exact Program.bind_pure x

/-! ## Scopes -/

/-- Whether a call or a directive has a place just if `debug` says so. -/
def Call.Positioned (debug : Bool) (c : Call) : Prop := c.position.isSome = debug

/-- Whether a directive and the calls that it makes have a place just if `debug` says so. -/
structure Head.Positioned (debug : Bool) (h : Head) : Prop where
  position : h.position.isSome = debug
  calls : ∀ c ∈ h.calls, c.Positioned debug

mutual

/-- Whether every directive in a step has a place, or none has. -/
def Step.Positioned (debug : Bool) : Step → Prop
  | .text _ => True
  | .output h _ | .render h _ | .inclusion h _ => h.Positioned debug
  | .choice as => AlternativesPositioned debug as
  | .iterate h _ body | .declare h _ body => h.Positioned debug ∧ body.Positioned debug
  | .custom h _ bodies => h.Positioned debug ∧ BodiesPositioned debug bodies

/-- So it is with branches. -/
def AlternativesPositioned (debug : Bool) : List Alternative → Prop
  | [] => True
  | .mk h test body :: as =>
    h.Positioned debug ∧ (∀ t, test = some t → ∀ c ∈ t.calls, c.Positioned debug) ∧
      body.Positioned debug ∧ AlternativesPositioned debug as

/-- So it is with bodies. -/
def BodiesPositioned (debug : Bool) : List Scope → Prop
  | [] => True
  | body :: bodies => body.Positioned debug ∧ BodiesPositioned debug bodies

/-- So it is with a scope. -/
def Scope.Positioned (debug : Bool) : Scope → Prop
  | .mk steps => StepsPositioned debug steps

/-- So it is with steps. -/
def StepsPositioned (debug : Bool) : List Step → Prop
  | [] => True
  | s :: ss => s.Positioned debug ∧ StepsPositioned debug ss

end

/-! ## Expressions -/

namespace Formula

variable (context : Option String) (position : Option Position)

mutual

/-- The calls that are taken out of an expression are given the place of its directive. -/
theorem position_ofPostfix : ∀ (e : Expr.Postfix) (calls : List Call),
    ∀ c ∈ (ofPostfix context position e calls).2, c ∈ calls ∨ c.position = position
  | [], calls, c, hc => by
    rw [ofPostfix] at hc
    exact .inl hc
  | .call path args property :: rest, calls, c, hc => by
    rw [ofPostfix_call] at hc
    -- hc := position_ofPostfix rest
    obtain hc | hc := position_ofPostfix rest _ c hc
    · obtain hc | hc := List.mem_append.1 hc
      · exact position_ofArguments args calls c hc
      · rw [List.mem_singleton.1 hc]
        exact .inr rfl
    · exact .inr hc
  | .literal _ :: rest, calls, c, hc => by
    rw [ofPostfix] at hc
    exact position_ofPostfix rest calls c hc
  | .path _ :: rest, calls, c, hc => by
    rw [ofPostfix] at hc
    exact position_ofPostfix rest calls c hc
  | .operator _ :: rest, calls, c, hc => by
    rw [ofPostfix] at hc
    exact position_ofPostfix rest calls c hc
  | .negate _ :: rest, calls, c, hc => by
    rw [ofPostfix] at hc
    exact position_ofPostfix rest calls c hc
  | .opening :: rest, calls, c, hc => by
    rw [ofPostfix] at hc
    exact position_ofPostfix rest calls c hc
  | .closing :: rest, calls, c, hc => by
    rw [ofPostfix] at hc
    exact position_ofPostfix rest calls c hc
  | .separator :: rest, calls, c, hc => by
    rw [ofPostfix] at hc
    exact position_ofPostfix rest calls c hc

/-- All calls in arguments have the place of the directive. -/
theorem position_ofArguments : ∀ (es : List Expr.Postfix) (calls : List Call),
    ∀ c ∈ (ofArguments context position es calls).2, c ∈ calls ∨ c.position = position
  | [], calls, c, hc => by
    rw [ofArguments] at hc
    exact .inl hc
  | e :: es, calls, c, hc => by
    rw [ofArguments_cons] at hc
    obtain hc | hc := position_ofArguments es _ c hc
    · exact position_ofPostfix e calls c hc
    · exact .inr hc

end

theorem position_ofModifiers (ms : List ModifierCall) (calls : List Call) :
    ∀ c ∈ (ofModifiers context position ms calls).2, c ∈ calls ∨ c.position = position := by
  induction ms generalizing calls with
  | nil => exact fun c hc => .inl hc
  | cons m ms ih =>
    intro c hc
    obtain hc | hc := ih _ c hc
    · exact position_ofArguments context position m.args calls c hc
    · exact .inr hc

end Formula

/-! ## Directives -/

namespace Scope

variable (debug : Bool) (s : Segment)

/-- A segment has a place if details are asked for. -/
theorem isSome_place : (place debug s).isSome = debug := by
  cases debug <;> rfl

/-- The calls of a formula have places if details are asked for. -/
theorem positioned_formula (e : Expr.Postfix) :
    ∀ c ∈ (formula debug s e []).2, c.Positioned debug := by
  intro c hc
  obtain hc | hc := Formula.position_ofPostfix s.context (place debug s) e [] c hc
  · cases hc
  · exact (congrArg Option.isSome hc).trans (isSome_place debug s)

/-- So has the head of a directive, with all its calls. -/
theorem positioned_head {calls : List Call} (hcalls : ∀ c ∈ calls, c.Positioned debug) :
    (head debug s calls).Positioned debug := by
  rw [head_eq]
  refine ⟨isSome_place debug s, fun c hc => ?_⟩
  obtain hc | hc := Formula.position_ofModifiers s.context (place debug s) s.modifiers calls c hc
  · exact hcalls c hc
  · exact (congrArg Option.isSome hc).trans (isSome_place debug s)

/-- Whether what is compiled, if anything is, is like `P`. -/
def Gives {α ε : Type} (P : α → Prop) (x : Except ε α) : Prop := x.Yields P fun _ => True

/-- Nothing need be known of what is built. -/
theorem gives_any {α ε : Type} (x : Except ε α) : Gives (fun _ => True) x := by
  cases x <;> exact trivial

/-- A head without calls before it has a place too. -/
theorem positioned_bare : (head debug s []).Positioned debug :=
  positioned_head debug s fun _ hc => nomatch hc

/-- A text needs no place. -/
theorem gives_textStep : Gives (Step.Positioned debug) (textStep debug s) := by
  unfold textStep
  dsimp only
  split
  · exact trivial
  · exact trivial

theorem gives_outputStep : Gives (Step.Positioned debug) (outputStep debug s) :=
  (gives_any _).bind fun e _ => positioned_head debug s (positioned_formula debug s e)

theorem gives_inlineStep : Gives (Step.Positioned debug) (inlineStep debug s) := by
  unfold inlineStep
  split
  · exact (gives_any _).bind fun _ _ => positioned_bare debug s
  · refine (gives_any _).bind fun e _ => ?_
    split
    · exact positioned_bare debug s
    · exact positioned_head debug s (positioned_formula debug s e)
  · exact (gives_any _).bind fun _ _ => ⟨positioned_bare debug s, trivial⟩

theorem gives_readTest (first last : Bool) :
    Gives (fun test => ∀ t : Test, test = some t → ∀ c ∈ t.calls, c.Positioned debug)
      (readTest debug first last s) := by
  unfold readTest
  split
  · next e _ =>
    rintro _ ⟨rfl⟩
    exact positioned_formula debug s e
  · split
    · exact trivial
    split
    · rintro _ ⟨⟩
    · exact trivial

/-- Joining texts takes no place away. -/
theorem stepsPositioned_consStep {step : Step} {steps : List Step} (h : step.Positioned debug)
    (hs : StepsPositioned debug steps) : StepsPositioned debug (consStep step steps) := by
  unfold consStep
  split
  · exact ⟨trivial, hs.2⟩
  · split
    · exact hs
    · exact ⟨trivial, hs⟩
  · exact ⟨h, hs⟩

/-! ## Nodes -/

mutual

/-- What is built of a node has its places. -/
theorem gives_buildNode : ∀ n : Node, Gives (Step.Positioned debug) (buildNode debug n)
  | .text s => by
    rw [buildNode]
    exact gives_textStep debug s
  | .output s => by
    rw [buildNode]
    exact gives_outputStep debug s
  | .inline s => by
    rw [buildNode]
    exact gives_inlineStep debug s
  | .block s body more => by
    rw [buildNode]
    -- the head of the block has the place of its segment, and its bodies have theirs
    cases s.kind with
    | conditional =>
      dsimp only
      split
      · exact trivial
      refine (gives_readTest debug s _ _).bind fun test htest => ?_
      refine (gives_buildNodes body).bind fun steps hsteps => ?_
      refine (gives_buildAlternatives more).bind fun others hothers => ?_
      exact ⟨positioned_bare debug s, htest, hsteps, hothers⟩
    | iterator =>
      refine (gives_any _).bind fun _ _ => (gives_any _).bind fun e _ => ?_
      refine (gives_buildNodes body).bind fun steps hsteps => ?_
      exact ⟨positioned_head debug s (positioned_formula debug s e), hsteps⟩
    | custom =>
      refine (gives_any _).bind fun path _ => ?_
      refine (gives_buildNodes body).bind fun steps hsteps => ?_
      refine (gives_buildContinuations more).bind fun others hothers => ?_
      exact ⟨positioned_bare debug s, hsteps, hothers⟩
    | declare =>
      refine (gives_any _).bind fun _ _ => (gives_any _).bind fun name _ => ?_
      refine (gives_buildNodes body).bind fun steps hsteps => ?_
      exact ⟨positioned_bare debug s, hsteps⟩
    | text | output | render | inclusion => exact trivial

/-- So have the steps of nodes in a row. -/
theorem gives_buildNodes : ∀ ns : List Node,
    Gives (StepsPositioned debug) (buildNodes debug ns)
  | [] => by
    rw [buildNodes]
    exact trivial
  | n :: ns => by
    rw [buildNodes]
    refine (gives_buildNode n).bind fun step hstep => ?_
    exact (gives_buildNodes ns).bind fun steps hsteps =>
      stepsPositioned_consStep debug hstep hsteps

theorem gives_buildAlternatives : ∀ more : List Branch,
    Gives (AlternativesPositioned debug) (buildAlternatives debug more)
  | [] => by
    rw [buildAlternatives]
    exact trivial
  | .mk s body :: more => by
    rw [buildAlternatives]
    refine (gives_readTest debug s _ _).bind fun test htest => ?_
    refine (gives_buildNodes body).bind fun steps hsteps => ?_
    refine (gives_buildAlternatives more).bind fun others hothers => ?_
    exact ⟨positioned_bare debug s, htest, hsteps, hothers⟩

theorem gives_buildContinuations : ∀ more : List Branch,
    Gives (BodiesPositioned debug) (buildContinuations debug more)
  | [] => by
    rw [buildContinuations]
    exact trivial
  | .mk s body :: more => by
    rw [buildContinuations]
    split
    · exact trivial
    refine (gives_buildNodes body).bind fun steps hsteps => ?_
    refine (gives_buildContinuations more).bind fun others hothers => ?_
    exact ⟨hsteps, hothers⟩

end

/-- Compiling a template gives all of its directives places, or none. -/
theorem positioned_compileText {debug : Bool} {source : String} {scope : Scope}
    (h : compileText debug source = .ok scope) : scope.Positioned debug := by
  obtain ⟨segments, -, h⟩ := Except.bind_eq_ok_iff.1 h
  obtain ⟨nodes, -, h⟩ := Except.bind_eq_ok_iff.1 (Except.mapError_eq_ok_iff.1 h)
  obtain ⟨steps, hsteps, h⟩ := Except.bind_eq_ok_iff.1 h
  cases h
  have hgives := gives_buildNodes debug nodes
  rw [hsteps] at hgives
  exact hgives

end Scope

end Stencil
