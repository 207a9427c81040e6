import Stencil.Proofs.Block.Scan
import Stencil.Proofs.Scope.Nested
import Stencil.Proofs.Segment.Brace
import Stencil.Proofs.Segment.Parsed
import Stencil.Proofs.Task.Record
import Stencil.Proofs.Walk.Render

/-!
# Stencil.Proofs.Walk.Parts — what becomes of the parts of directives

The directives of a compiled template can be read off it again, each with its context, what it
evaluates or names, and its modifiers (`Scope.directives`). They are those of the segments, in
order and with all their parts, but for one kind of segment: a continuation of a custom block
leaves nothing but its place (`Segment.kept?`).

What is there governs, since a compiled template does what walking through its blocks does, and
the walk makes the calls of a directive in the frame that its context leads to and sends what
its body writes through its modifiers. What has no place is refused: a segment that ends a block
has no parts, only conditionals and custom blocks go on, and a continuation of a custom block has
no expression (`Scope.compileText_accounts_for_parts`).
-/

namespace Stencil

/-! ## Directives -/

/-- What a directive is about. -/
inductive Subject where
  /-- The name that stands in it. -/
  | name (n : String)
  /-- An expression that it evaluates. -/
  | expression (e : List Nested)

/-- The parts of a directive. -/
structure Directive where
  context : Option String
  subject : Option Subject
  modifiers : List NestedModifier

/-- A directive without any parts. -/
def Directive.bare : Directive := ⟨none, none, []⟩

/-- Whether directives of the kind give a name, if what they have is one. -/
def Kind.names : Kind → Bool
  | .custom | .declare | .render | .inclusion => true
  | _ => false

/-- An expression is a path or a text, not both. -/
theorem Expr.Postfix.text?_or_path? (e : Expr.Postfix) :
    e.text?.or e.path? = e.path?.or e.text? := by
  cases hp : e.path? with
  | none => simp
  | some p =>
    have ht : e.text? = none := by
      unfold path? at hp
      split at hp
      · rfl
      · cases hp
    simp [ht]

namespace Segment

/-- What an expression of the segment means for its kind. -/
def subjectOf (s : Segment) (e : Expr.Postfix) : Subject :=
  match s.kind.names, e.path?.or e.text? with
  | true, some n => .name n
  | _, _ => .expression (Nested.ofPostfix s.context e)

/-- A directive that does not name anything has an expression for its subject. -/
theorem subjectOf_of_not_names {s : Segment} (hk : s.kind.names = false) (e : Expr.Postfix) :
    s.subjectOf e = .expression (Nested.ofPostfix s.context e) := by
  unfold subjectOf
  rw [hk]

/-- One that does has a name for it, if its expression is one. -/
theorem subjectOf_of_names {s : Segment} (hk : s.kind.names = true) {e : Expr.Postfix}
    {n : String} (hn : e.path?.or e.text? = some n) : s.subjectOf e = .name n := by
  unfold subjectOf
  rw [hk, hn]

/-- An expression that is no name stays one. -/
theorem subjectOf_of_unnamed {e : Expr.Postfix} (hn : e.path?.or e.text? = none) (s : Segment) :
    s.subjectOf e = .expression (Nested.ofPostfix s.context e) := by
  unfold subjectOf
  rw [hn]
  cases s.kind.names <;> rfl

/-- The parts of the segment. -/
def parts (s : Segment) : Directive :=
  ⟨s.context, s.expression.map s.subjectOf, s.modifiers.map (·.nest s.context)⟩

/-- The parts that a compiled template would have of the segment if nothing were lost: all of
them, unless the segment is a text or ends a block. -/
def directive? (s : Segment) : Option Directive :=
  if s.kind = .text ∨ s.closesBlock = true then none else some s.parts

instance (kind : Kind) (s : Segment) : Decidable (s.Continues kind) :=
  inferInstanceAs (Decidable (_ ∧ _ ∧ _ ∧ _))

/-- The parts that a compiled template has of the segment. A continuation of a custom block is
there without any. -/
def kept? (s : Segment) : Option Directive :=
  if s.Continues .custom then some .bare else s.directive?

/-- Whether the segment goes on a block of a kind that may go on, with what it may have. -/
def GoesOn (s : Segment) : Prop :=
  ∀ kind, s.Continues kind → kind = .conditional ∨ kind = .custom ∧ s.expression = none

end Segment

/-- The parts of a directive with this head. -/
def Head.parts (head : Head) (subject : List Nested → Option Subject) : Directive :=
  let calls := Call.nestAll head.calls
  ⟨head.context, subject calls, head.modifiers.map (·.nest calls)⟩

/-- What an inclusion is about. -/
def TemplateName.subject (calls : List Nested) : TemplateName → Subject
  | .fixed n => .name n
  | .computed f => .expression (f.nest calls)

/-- The expression of a test. -/
def Test.subject (t : Test) : Subject := .expression (t.formula.nest (Call.nestAll t.calls))

namespace Scope

mutual

/-- The directives of a step: its own, and those of its bodies. -/
def stepDirectives : Step → List Directive
  | .text _ => []
  | .output head value => [head.parts fun calls => some (.expression (value.nest calls))]
  | .choice alternatives => choiceDirectives alternatives
  | .iterate head collection body =>
    (head.parts fun calls => some (.expression (collection.nest calls))) :: directives body
  | .custom head path bodies =>
    (head.parts fun _ => some (.name path)) ::
      match bodies with
      | [] => []
      | first :: others => directives first ++ laterDirectives others
  | .declare head name body => (head.parts fun _ => some (.name name)) :: directives body
  | .render head name => [head.parts fun _ => some (.name name)]
  | .inclusion head name => [head.parts fun calls => some (name.subject calls)]

/-- The directives of branches. -/
def choiceDirectives : List Alternative → List Directive
  | [] => []
  | .mk head test body :: others =>
    (head.parts fun _ => test.map Test.subject) :: (directives body ++ choiceDirectives others)

/-- The directives of the bodies of a custom block behind its first. What separates a body from
the one before it has no parts. -/
def laterDirectives : List Scope → List Directive
  | [] => []
  | body :: others => .bare :: (directives body ++ laterDirectives others)

/-- The directives of a template, in the order of its text. -/
def directives : Scope → List Directive
  | .mk steps => stepsDirectives steps

/-- The directives of steps. -/
def stepsDirectives : List Step → List Directive
  | [] => []
  | step :: steps => stepDirectives step ++ stepsDirectives steps

end

/-! ## Parts of one directive -/

variable {debug : Bool} {s : Segment}

/-- The parts of a compiled head. -/
theorem parts_head (calls : List Call) (subject : List Nested → Option Subject) :
    (head debug s calls).parts subject =
      ⟨s.context, subject (Call.nestAll (head debug s calls).calls),
        s.modifiers.map (·.nest s.context)⟩ := by
  rw [Head.parts, head_eq]
  dsimp only
  rw [Formula.nest_ofModifiers]

/-- A directive that evaluates its expression. -/
theorem parts_evaluating (debug : Bool) {e : Expr.Postfix} (he : s.expression = some e)
    (hs : s.subjectOf e = .expression (Nested.ofPostfix s.context e)) :
    ((head debug s (formula debug s e []).2).parts fun calls =>
      some (.expression ((formula debug s e []).1.nest calls))) = s.parts := by
  obtain ⟨-, -, -, hwithin⟩ := Formula.ofPostfix_spec s.context (place debug s) e []
  obtain ⟨new, hnew, -, -⟩ := Formula.ofModifiers_spec s.context (place debug s) s.modifiers
    (Formula.ofPostfix s.context (place debug s) e []).2
  rw [parts_head, Segment.parts, he, Option.map_some, hs, head_eq]
  unfold formula
  -- the calls of the modifiers come behind those of the expression
  rw [hnew, Formula.nest_append (hwithin _ (List.mem_singleton_self _)), Formula.nest_ofPostfix]

theorem parts_naming {e : Expr.Postfix} {n : String} (he : s.expression = some e)
    (hs : s.subjectOf e = .name n) :
    ((head debug s []).parts fun _ => some (.name n)) = s.parts := by
  rw [parts_head, Segment.parts, he, Option.map_some, hs]

/-- A directive that needs a name keeps all its parts. -/
theorem parts_of_requireName (hk : s.kind.names = true) {n : String}
    (h : requireName debug s = .ok n) :
    ((head debug s []).parts fun _ => some (.name n)) = s.parts := by
  obtain ⟨e, he, h⟩ := Except.bind_eq_ok_iff.1 h
  split at h
  · next hn =>
    cases h
    exact parts_naming (Walk.expression_of_require debug he) (Segment.subjectOf_of_names hk hn)
  · cases h

theorem parts_of_requirePath (hk : s.kind.names = true) {p : String}
    (h : requirePath debug s = .ok p) :
    ((head debug s []).parts fun _ => some (.name p)) = s.parts := by
  -- a path is looked for first, so a name that is one is found in the same way
  obtain ⟨e, he, h⟩ := Except.bind_eq_ok_iff.1 h
  split at h
  · next hp =>
    cases h
    refine parts_naming (Walk.expression_of_require debug he) (Segment.subjectOf_of_names hk ?_)
    rw [hp, Option.some_or]
  · cases h

/-- A directive that stands alone compiles to one that keeps its parts. -/
theorem directives_of_inlineStep {step : Step} (hs : s.isSelfContained = true)
    (ho : s.kind ≠ .output) (h : inlineStep debug s = .ok step) :
    stepDirectives step = [s.parts] := by
  unfold inlineStep at h
  split at h
  · next hk =>
    obtain ⟨n, hn, h⟩ := Except.bind_eq_ok_iff.1 h
    cases h
    rw [stepDirectives, parts_of_requireName (by rw [hk]; rfl) hn]
  · next hk =>
    obtain ⟨e, he, h⟩ := Except.bind_eq_ok_iff.1 h
    have he := Walk.expression_of_require debug he
    have hnames : s.kind.names = true := by rw [hk]; rfl
    cases hname : e.text?.or e.path? with
    | some n =>
      rw [hname] at h
      cases h
      rw [e.text?_or_path?] at hname
      rw [stepDirectives]
      exact congrArg (· :: []) (parts_naming he (Segment.subjectOf_of_names hnames hname))
    | none =>
      rw [hname] at h
      cases h
      rw [e.text?_or_path?] at hname
      rw [stepDirectives]
      exact congrArg (· :: []) (parts_evaluating debug he (Segment.subjectOf_of_unnamed hname s))
  · next hr hi =>
    obtain ⟨p, hp, h⟩ := Except.bind_eq_ok_iff.1 h
    cases h
    -- no other kind is left that stands for itself
    have hk : s.kind = .custom := by
      cases hk : s.kind <;> simp_all [Segment.isSelfContained]
    have hnames : s.kind.names = true := by rw [hk]; rfl
    rw [stepDirectives, parts_of_requirePath hnames hp]

end Scope

/-! ## Parts of all directives -/

namespace Segment

variable {s : Segment}

theorem goesOn_of_not_continues (h : ∀ kind, ¬ s.Continues kind) : s.GoesOn :=
  fun kind hc => absurd hc (h kind)

theorem not_continues_of_not_delimits (h : s.delimits = false) (kind : Kind) :
    ¬ s.Continues kind := by
  intro hc
  rw [hc.2.1] at h
  cases h

/-- What continues no block is kept as it stands. -/
theorem kept?_of_not_continues (h : ∀ kind, ¬ s.Continues kind) : s.kept? = s.directive? :=
  if_neg (h .custom)

/-- What delimits nothing and is no text is there with all its parts. -/
theorem kept?_leaf (hd : s.delimits = false) (ht : s.kind ≠ .text) : s.kept? = some s.parts := by
  rw [kept?_of_not_continues (not_continues_of_not_delimits hd)]
  have hc : s.closesBlock = false := by simp [closesBlock, hd]
  exact if_neg (by simp [ht, hc])

/-- What opens a block continues none. -/
theorem not_continues_of_opensBlock (h : s.opensBlock = true) (kind : Kind) :
    ¬ s.Continues kind := by
  intro hc
  have hn := (opensBlock_iff.1 h).2.2
  rw [hc.2.2.2] at hn
  cases hn

/-- What opens a block is kept with its parts. -/
theorem kept?_opens (h : s.opensBlock = true) : s.kept? = some s.parts := by
  rw [kept?_of_not_continues (not_continues_of_opensBlock h)]
  have hc : s.closesBlock = false := by simp [closesBlock, (opensBlock_iff.1 h).2.1]
  exact if_neg (by simp [ne_text_of_opensBlock h, hc])

/-- What closes a block continues none. -/
theorem not_continues_of_closes {kind : Kind} (h : s.Closes kind) (kind' : Kind) :
    ¬ s.Continues kind' := by
  intro hc
  have hcl := h.2.2
  rw [hc.2.2.1] at hcl
  cases hcl

theorem kept?_closes {kind : Kind} (h : s.Closes kind) : s.kept? = none := by
  rw [kept?_of_not_continues (not_continues_of_closes h)]
  exact if_pos (.inr (by simp [closesBlock, h.2.1, h.2.2]))

theorem kept?_text (h : s.kind = .text) : s.kept? = none := by
  rw [kept?_of_not_continues (not_continues_of_not_delimits (not_delimits_of_text h))]
  exact if_pos (.inl h)

/-- A continuation would be there with all its parts. -/
theorem directive?_continues {kind : Kind} (h : s.Continues kind) :
    s.directive? = some s.parts := by
  have ht : s.kind ≠ .text := by
    intro ht
    have hd := not_delimits_of_text ht
    rw [h.2.1] at hd
    cases hd
  exact if_neg (by simp [ht, h.not_closesBlock])

theorem kept?_alternative (h : s.Continues .conditional) : s.kept? = some s.parts := by
  have hc : ¬ s.Continues .custom := fun hc => by
    have hk := h.1.symm.trans hc.1
    cases hk
  rw [kept?, if_neg hc, directive?_continues h]

/-- Parts are lost just when a continuation of a custom block has a context or modifiers. -/
theorem kept?_eq_directive?_iff (hg : s.GoesOn) :
    s.kept? = s.directive? ↔
      ¬ (s.Continues .custom ∧ (s.context ≠ none ∨ s.modifiers ≠ [])) := by
  by_cases hc : s.Continues .custom
  · -- it has no expression, so it is bare just if it has no context and no modifiers
    obtain ⟨-, he⟩ : Kind.custom = .custom ∧ s.expression = none :=
      (hg .custom hc).resolve_left (by decide)
    have hbare : s.parts = .bare ↔ s.context = none ∧ s.modifiers = [] := by
      simp [parts, Directive.bare, he]
    rw [kept?, if_pos hc, directive?_continues hc, Option.some_inj, eq_comm, hbare]
    simp [hc]
  · simp [kept?, hc]

end Segment

/-- The directives are those of the segments, and the segments that go on blocks may. -/
structure Accounts (ds : List Directive) (xs : List Segment) : Prop where
  directives : ds = xs.filterMap Segment.kept?
  goesOn : ∀ s ∈ xs, s.GoesOn

namespace Accounts

variable {ds es : List Directive} {xs ys : List Segment} {s : Segment}

theorem nil : Accounts [] [] := ⟨rfl, fun _ h => nomatch h⟩

theorem append (h : Accounts ds xs) (h' : Accounts es ys) : Accounts (ds ++ es) (xs ++ ys) where
  directives := by rw [h.directives, h'.directives, List.filterMap_append]
  goesOn := List.forall_mem_append.2 ⟨h.goesOn, h'.goesOn⟩

theorem skip (hs : s.kept? = none) (hg : s.GoesOn) (h : Accounts ds xs) :
    Accounts ds (s :: xs) where
  directives := by rw [List.filterMap_cons_none hs, h.directives]
  goesOn := List.forall_mem_cons.2 ⟨hg, h.goesOn⟩

/-- One whose parts are kept accounts for its directive. -/
theorem keep {d : Directive} (hs : s.kept? = some d) (hg : s.GoesOn) (h : Accounts ds xs) :
    Accounts (d :: ds) (s :: xs) where
  directives := by rw [List.filterMap_cons_some hs, h.directives]
  goesOn := List.forall_mem_cons.2 ⟨hg, h.goesOn⟩

theorem text (hs : s.kind = .text) (h : Accounts ds xs) : Accounts ds (s :: xs) :=
  h.skip (Segment.kept?_text hs) (Segment.goesOn_of_not_continues
    (Segment.not_continues_of_not_delimits (Segment.not_delimits_of_text hs)))

theorem closes {kind : Kind} (hs : s.Closes kind) (h : Accounts ds xs) : Accounts ds (s :: xs) :=
  h.skip (Segment.kept?_closes hs)
    (Segment.goesOn_of_not_continues (Segment.not_continues_of_closes hs))

/-- The beginning of a block accounts for its directive. -/
theorem opens (hs : s.opensBlock = true) (h : Accounts ds xs) :
    Accounts (s.parts :: ds) (s :: xs) :=
  h.keep (Segment.kept?_opens hs)
    (Segment.goesOn_of_not_continues (Segment.not_continues_of_opensBlock hs))

theorem leaf (hs : s.isSelfContained = true) (h : Accounts ds xs) :
    Accounts (s.parts :: ds) (s :: xs) := by
  have hd := Segment.not_delimits_of_isSelfContained hs
  exact h.keep (Segment.kept?_leaf hd (Segment.ne_text_of_isSelfContained hs))
    (Segment.goesOn_of_not_continues (Segment.not_continues_of_not_delimits hd))

end Accounts

namespace Scope

variable {debug : Bool}

theorem stepsDirectives_consStep (step : Step) (steps : List Step) :
    stepsDirectives (consStep step steps) = stepDirectives step ++ stepsDirectives steps := by
  fun_cases consStep step steps <;> simp [stepsDirectives, stepDirectives]

/-- The parts of a branch are those of its test. -/
theorem parts_of_readTest {s : Segment} (hk : s.kind = .conditional) {first last : Bool}
    {test : Option Test} (h : readTest debug first last s = .ok test) :
    ((head debug s []).parts fun _ => test.map Test.subject) = s.parts := by
  have hnames : s.kind.names = false := by rw [hk]; rfl
  rw [parts_head, Segment.parts]
  unfold readTest at h
  split at h
  · next e he =>
    cases h
    rw [he, Option.map_some, Option.map_some, Segment.subjectOf_of_not_names hnames, Test.subject]
    dsimp only
    rw [Formula.nest_ofPostfix]
  · next he =>
    rw [he]
    split at h
    · cases h
    · split at h
      · cases h
        rfl
      · cases h

/-- The step for a block accounts for all its segments but the last, when what is built of its
bodies does. Only conditionals and custom blocks have more than one. -/
theorem accounts_of_block {s : Segment} {body : List Node} {more : List Branch}
    {xs ys : List Segment} {step : Step} (hs : s.opensBlock = true)
    (hbody : ∀ steps, buildNodes debug body = .ok steps → Accounts (stepsDirectives steps) xs)
    (hchoice : s.kind = .conditional → ∀ others, buildAlternatives debug more = .ok others →
      Accounts (choiceDirectives others) ys)
    (hcustom : s.kind = .custom → ∀ bodies, buildContinuations debug more = .ok bodies →
      Accounts (laterDirectives bodies) ys)
    (hsingle : more = [] → ys = []) (h : buildNode debug (.block s body more) = .ok step) :
    Accounts (stepDirectives step) (s :: (xs ++ ys)) := by
  rw [buildNode] at h
  split at h
  · -- the branches of a choice are looked at by `hchoice`, and those of a custom block by `hcustom`
    next hk =>
    split at h
    · cases h
    obtain ⟨test, htest, h⟩ := Except.bind_eq_ok_iff.1 h
    obtain ⟨steps, hsteps, h⟩ := Except.bind_eq_ok_iff.1 h
    obtain ⟨others, hothers, h⟩ := Except.bind_eq_ok_iff.1 h
    cases h
    rw [stepDirectives, choiceDirectives, parts_of_readTest hk htest, directives]
    exact ((hbody steps hsteps).append (hchoice hk others hothers)).opens hs
  · next hk =>
    obtain ⟨u, hnone, h⟩ := Except.bind_eq_ok_iff.1 h
    obtain ⟨e, he, h⟩ := Except.bind_eq_ok_iff.1 h
    obtain ⟨steps, hsteps, h⟩ := Except.bind_eq_ok_iff.1 h
    cases h
    have hnames : s.kind.names = false := by rw [hk]; rfl
    have hparts := parts_evaluating debug (Walk.expression_of_require debug he)
      (Segment.subjectOf_of_not_names hnames e)
    rw [stepDirectives, directives, hsingle (eq_nil_of_requireSingle hnone), List.append_nil]
    exact hparts ▸ (hbody steps hsteps).opens hs
  · next hk =>
    obtain ⟨path, hpath, h⟩ := Except.bind_eq_ok_iff.1 h
    obtain ⟨steps, hsteps, h⟩ := Except.bind_eq_ok_iff.1 h
    obtain ⟨bodies, hbodies, h⟩ := Except.bind_eq_ok_iff.1 h
    cases h
    have hnames : s.kind.names = true := by rw [hk]; rfl
    rw [stepDirectives, parts_of_requirePath hnames hpath, directives]
    exact ((hbody steps hsteps).append (hcustom hk bodies hbodies)).opens hs
  · next hk =>
    obtain ⟨u, hnone, h⟩ := Except.bind_eq_ok_iff.1 h
    obtain ⟨name, hname, h⟩ := Except.bind_eq_ok_iff.1 h
    obtain ⟨steps, hsteps, h⟩ := Except.bind_eq_ok_iff.1 h
    cases h
    have hnames : s.kind.names = true := by rw [hk]; rfl
    rw [stepDirectives, parts_of_requireName hnames hname, directives,
      hsingle (eq_nil_of_requireSingle hnone), List.append_nil]
    exact (hbody steps hsteps).opens hs
  · cases h

mutual

/-- The steps for nodes account for the segments that write the nodes out. -/
theorem accounts_of_buildNodes {nodes : List Node} {xs : List Segment} :
    Flattens nodes xs → ∀ {steps : List Step}, buildNodes debug nodes = .ok steps →
      Accounts (stepsDirectives steps) xs
  | .nil, steps, h => by
    cases h
    exact .nil
  | .text hs hrest, steps, h => by
    rw [buildNodes] at h
    obtain ⟨step, hstep, h⟩ := Except.bind_eq_ok_iff.1 h
    obtain ⟨others, hothers, h⟩ := Except.bind_eq_ok_iff.1 h
    cases h
    rw [stepsDirectives_consStep, Walk.buildNode_text debug hstep]
    exact (accounts_of_buildNodes hrest hothers).text hs
  | .output hs hrest, steps, h => by
    rw [buildNodes] at h
    obtain ⟨step, hstep, h⟩ := Except.bind_eq_ok_iff.1 h
    obtain ⟨others, hothers, h⟩ := Except.bind_eq_ok_iff.1 h
    cases h
    rw [buildNode] at hstep
    obtain ⟨e, he, hstep⟩ := Except.bind_eq_ok_iff.1 hstep
    cases hstep
    have hnames : Kind.names _ = false := congrArg Kind.names hs
    have hparts := parts_evaluating debug (Walk.expression_of_require debug he)
      (Segment.subjectOf_of_not_names hnames e)
    rw [stepsDirectives_consStep, stepDirectives]
    exact hparts ▸ (accounts_of_buildNodes hrest hothers).leaf (Segment.isSelfContained_of_output hs)
  | .inline hk hs hrest, steps, h => by
    rw [buildNodes] at h
    obtain ⟨step, hstep, h⟩ := Except.bind_eq_ok_iff.1 h
    obtain ⟨others, hothers, h⟩ := Except.bind_eq_ok_iff.1 h
    cases h
    rw [buildNode] at hstep
    rw [stepsDirectives_consStep, directives_of_inlineStep hs hk hstep]
    exact (accounts_of_buildNodes hrest hothers).leaf hs
  | .block hs hbody hmore hc hrest, steps, h => by
    rw [buildNodes] at h
    obtain ⟨step, hstep, h⟩ := Except.bind_eq_ok_iff.1 h
    obtain ⟨others, hothers, h⟩ := Except.bind_eq_ok_iff.1 h
    cases h
    -- the closing segment comes last in the block, and nothing is kept of it
    have hblock := accounts_of_block hs (fun _ => accounts_of_buildNodes hbody)
      (fun hk _ => accounts_of_buildAlternatives hmore hk)
      (fun hk _ => accounts_of_buildContinuations hmore hk)
      (fun hnil => by subst hnil; cases hmore; rfl) hstep
    have hbehind := (accounts_of_buildNodes hrest hothers).closes hc
    rw [stepsDirectives_consStep]
    simpa using hblock.append hbehind

/-- Every branch keeps its parts. -/
theorem accounts_of_buildAlternatives {kind : Kind} {more : List Branch} {xs : List Segment} :
    FlattensMore kind more xs → kind = .conditional → ∀ {others : List Alternative},
      buildAlternatives debug more = .ok others → Accounts (choiceDirectives others) xs
  | .nil, hk, others, h => by
    cases h
    exact .nil
  | .cons hs hbody hmore, hk, others, h => by
    rw [buildAlternatives] at h
    obtain ⟨test, htest, h⟩ := Except.bind_eq_ok_iff.1 h
    obtain ⟨steps, hsteps, h⟩ := Except.bind_eq_ok_iff.1 h
    obtain ⟨behind, hbehind, h⟩ := Except.bind_eq_ok_iff.1 h
    cases h
    -- the test is the subject of its branch
    subst hk
    rw [choiceDirectives, parts_of_readTest hs.1 htest, directives]
    exact ((accounts_of_buildNodes hbody hsteps).append
      (accounts_of_buildAlternatives hmore rfl hbehind)).keep (Segment.kept?_alternative hs)
      fun kind hc => .inl (hc.1.symm.trans hs.1)

/-- A continuation keeps nothing but its body. -/
theorem accounts_of_buildContinuations {kind : Kind} {more : List Branch} {xs : List Segment} :
    FlattensMore kind more xs → kind = .custom → ∀ {bodies : List Scope},
      buildContinuations debug more = .ok bodies → Accounts (laterDirectives bodies) xs
  | .nil, hk, bodies, h => by
    cases h
    exact .nil
  | .cons hs hbody hmore, hk, bodies, h => by
    rw [buildContinuations] at h
    split at h
    · cases h
    next hnone =>
    obtain ⟨steps, hsteps, h⟩ := Except.bind_eq_ok_iff.1 h
    obtain ⟨behind, hbehind, h⟩ := Except.bind_eq_ok_iff.1 h
    cases h
    subst hk
    -- the head of the continuation was only asked for an expression
    rw [laterDirectives, directives]
    exact ((accounts_of_buildNodes hbody hsteps).append
      (accounts_of_buildContinuations hmore rfl hbehind)).keep (if_pos hs)
      fun kind hc => .inr ⟨hc.1.symm.trans hs.1, Option.not_isSome_iff_eq_none.1 hnone⟩

end

/-- Compiling honours the parts of directives or refuses them, but for the contexts and modifiers of
continuations of custom blocks. The directives of a compiled template are those of the text, in
order, with their contexts, their modifiers and all their calls; parts are lost just where such a
continuation has any. The compiled template and each body in it do what walking through their
blocks does, where every directive makes its calls and does its work in the frame that its context
leads to, and what its body writes goes through its modifiers. A segment that ends a block has no
parts, no block goes on but a conditional or a custom one, and a custom one goes on without an
expression. -/
theorem compileText_accounts_for_parts {source : String} {scope : Scope}
    (h : compileText debug source = .ok scope) :
    ∃ segments nodes, Segment.parse source = .ok segments ∧
      Node.scan debug segments = .ok nodes ∧
      scope.directives = segments.filterMap Segment.kept? ∧
      (∀ s ∈ segments, s.kept? = s.directive? ↔
        ¬ (s.Continues .custom ∧ (s.context ≠ none ∨ s.modifiers ≠ []))) ∧
      scope.Walks debug nodes ∧
      (∀ body, Node.Inside body nodes → (Walk.ready debug body).Walks debug body) ∧
      (∀ s ∈ segments, s.closesBlock = true →
        s.context = none ∧ s.expression = none ∧ s.modifiers = []) ∧
      ∀ s ∈ segments, s.GoesOn := by
  obtain ⟨segments, hsegments, h⟩ := Except.bind_eq_ok_iff.1 h
  rw [Except.mapError_eq_ok_iff] at hsegments h
  obtain ⟨nodes, hscan, h⟩ := Except.bind_eq_ok_iff.1 h
  obtain ⟨steps, hbuild, h⟩ := Except.bind_eq_ok_iff.1 h
  cases h
  -- the segments are those the nodes were scanned from
  have haccounts := accounts_of_buildNodes (Node.flattens_of_scan hscan) hbuild
  refine ⟨segments, nodes, hsegments, hscan, ?_, ?_, walks_of_buildNodes hbuild, ?_, ?_,
    haccounts.goesOn⟩
  · rw [directives]
    exact haccounts.directives
  · exact fun s hs => Segment.kept?_eq_directive?_iff (haccounts.goesOn s hs)
  · intro body hin
    obtain ⟨steps', hbody⟩ := exists_of_inside hin hbuild
    rw [Walk.ready, hbody]
    exact walks_of_buildNodes hbody
  · exact fun s hs => Segment.empty_of_parse hsegments hs

end Scope

/-! ### A continuation with all its parts -/

namespace Segment

/-- A conditional that goes on with a condition on what a function gives for `x`, both found in
`o`, and sends what it writes there through a modifier with another call. -/
def wholeSource : String :=
  "\x7b?\x7ba\x7d\x7dx\x7b?\x7bo:f(x)~\x7d|m(g(y))\x7dz\x7b?\x7b/\x7d\x7d"

/-- What `wholeSource` is read as. -/
def whole : List Segment :=
  [⟨.conditional, .start, none, none, some [.path "a"], [], false, false⟩,
    ⟨.text, ⟨6, 1, 7⟩, some "x", none, none, [], false, false⟩,
    ⟨.conditional, ⟨7, 1, 8⟩, none, some "o", some [.call "f" [[.path "x"]] none],
      [⟨"m", [[.call "g" [[.path "y"]] none]]⟩], false, true⟩,
    ⟨.text, ⟨27, 1, 28⟩, some "z", none, none, [], false, false⟩,
    ⟨.conditional, ⟨28, 1, 29⟩, none, none, none, [], true, false⟩]

/-- The segments of the first example. -/
theorem parse_wholeSource : parse wholeSource = .ok whole := by
  have hnext : ∀ p rest, takeDirective? p ('?' :: '\x7b' :: 'o' :: ':' :: 'f' :: '(' :: 'x' :: ')' ::
      '~' :: '\x7d' :: '|' :: 'm' :: '(' :: 'g' :: '(' :: 'y' :: ')' :: ')' :: '\x7d' :: rest) =
        some (⟨p, .conditional,
          ⟨p.past ['\x7b', '?', '\x7b'], ['o', ':', 'f', '(', 'x', ')', '~']⟩,
          [⟨⟨p.past ['\x7b', '?', '\x7b', 'o', ':', 'f', '(', 'x', ')', '~', '\x7d', '|'], ['m']⟩,
            some ⟨p.past ['\x7b', '?', '\x7b', 'o', ':', 'f', '(', 'x', ')', '~', '\x7d', '|', 'm',
              '('], ['g', '(', 'y', ')']⟩⟩],
          ['\x7b', '?', '\x7b', 'o', ':', 'f', '(', 'x', ')', '~', '\x7d', '|', 'm', '(', 'g', '(',
            'y', ')', ')', '\x7d']⟩, rest) := by
    intro p rest
    show (takeModifiers? _ ('|' :: 'm' :: '(' :: 'g' :: '(' :: 'y' :: ')' :: ')' :: '\x7d' ::
      rest)).map _ = _
    rw [takeModifiers?_bar (by rfl) (by rfl), takeModifiers?_close (by rfl)]
    rfl
  have hlist : wholeSource.toList = '\x7b' :: '?' :: '\x7b' :: 'a' :: '\x7d' :: '\x7d' :: 'x' ::
      '\x7b' :: '?' :: '\x7b' :: 'o' :: ':' :: 'f' :: '(' :: 'x' :: ')' :: '~' :: '\x7d' :: '|' ::
      'm' :: '(' :: 'g' :: '(' :: 'y' :: ')' :: ')' :: '\x7d' :: 'z' ::
      '\x7b' :: '?' :: '\x7b' :: '/' :: '\x7d' :: '\x7d' :: [] := by cbv
  rw [parse, hlist, split, splitAt_directive (takeDirective?_marked rfl _ rfl),
    splitAt_text (by decide), splitAt_directive (hnext _ _), splitAt_text (by decide),
    splitAt_directive (takeDirective?_marked rfl _ rfl), splitAt]
  cbv

end Segment

/-- A host with functions that give back the argument that they are given. -/
def Host.echoing : Host where
  State := Unit
  Pending := Empty
  Helper := Empty
  write _ _ := (.ok (), ())
  flush _ := (.ok (), ())
  call _ _ args _ := (.ready (.ok (args.headD .undefined)), ())
  poll d _ := nomatch d
  help _ _ _ _ := (none, ())
  turn h _ := nomatch h

/-- A modifier that puts its argument behind the text. -/
def Modifier.appending : Modifier := fun v args =>
  .ok (.text (v.display ++ (args.headD .undefined).display))

/-- Functions, and texts for them where the functions are. -/
def Value.functionsAndTexts : Value :=
  .object (.given 0) (.ofList [("a", .bool false),
    ("o", .object (.given 1) (.ofList
      [("f", .function 1), ("x", .text "v"), ("g", .function 2), ("y", .text "w")]))])

/-- What `Segment.wholeSource` compiles to. -/
def Scope.whole : Scope :=
  .mk [.choice [.mk ⟨none, [], [], none⟩ (some ⟨[], [.lookup "a"]⟩) (.mk [.text "x"]),
    .mk ⟨some "o", [⟨some "o", "g", [[.lookup "y"]], none, none⟩], [⟨"m", [[.slot 0]]⟩], none⟩
      (some ⟨[⟨some "o", "f", [[.lookup "x"]], none, none⟩], [.slot 0]⟩) (.mk [.text "z"])]]

theorem Scope.compileText_wholeSource :
    compileText false Segment.wholeSource = .ok .whole := by
  rw [compileText, Segment.parse_wholeSource]
  cbv

/-- The continuation has its context, its modifier and its two calls, and they are honoured: both
functions and their arguments are found in `o`, and what is written goes through the modifier. -/
theorem Scope.compileText_accounts_for_parts_whole :
    compileText false Segment.wholeSource = .ok .whole ∧
      (∃ segments nodes, Segment.parse Segment.wholeSource = .ok segments ∧
        Node.scan false segments = .ok nodes ∧
        Scope.whole.directives = segments.filterMap Segment.kept? ∧
        (∀ s ∈ segments, s.kept? = s.directive? ↔
          ¬ (s.Continues .custom ∧ (s.context ≠ none ∨ s.modifiers ≠ []))) ∧
        Scope.whole.Walks false nodes ∧
        (∀ body, Node.Inside body nodes → (Walk.ready false body).Walks false body) ∧
        (∀ s ∈ segments, s.closesBlock = true →
          s.context = none ∧ s.expression = none ∧ s.modifiers = []) ∧
        ∀ s ∈ segments, s.GoesOn) ∧
      ((World.start (H := Host.echoing.recorded) ((), []) .empty ⟨[("m", .appending)]⟩ false).render
        20 none .whole (.ofData .functionsAndTexts)).map (·.2.host.2) =
          some [.called 1 [.text "v"], .called 2 [.text "w"], .wrote "zw"] :=
  ⟨compileText_wholeSource, compileText_accounts_for_parts compileText_wholeSource, by cbv⟩

/-! ### A continuation with a modifier -/

namespace Segment

/-- A template that hands two texts to `h`, the second with a modifier. -/
def ladenSource : String :=
  "\x7b%\x7bh\x7d\x7da\x7b%\x7b~\x7d|upper\x7db\x7b%\x7b/\x7d\x7d"

/-- What `ladenSource` is read as. -/
def laden : List Segment :=
  [⟨.custom, .start, none, none, some [.path "h"], [], false, false⟩,
    ⟨.text, ⟨6, 1, 7⟩, some "a", none, none, [], false, false⟩,
    ⟨.custom, ⟨7, 1, 8⟩, none, none, none, [⟨"upper", []⟩], false, true⟩,
    ⟨.text, ⟨19, 1, 20⟩, some "b", none, none, [], false, false⟩,
    ⟨.custom, ⟨20, 1, 21⟩, none, none, none, [], true, false⟩]

/-- The segments of the second example. -/
theorem parse_ladenSource : parse ladenSource = .ok laden := by
  have hladen : ∀ p rest, takeDirective? p
      ('%' :: '\x7b' :: '~' :: '\x7d' :: '|' :: 'u' :: 'p' :: 'p' :: 'e' :: 'r' :: '\x7d' :: rest) =
        some (⟨p, .custom, ⟨p.past ['\x7b', '%', '\x7b'], ['~']⟩,
          [⟨⟨p.past ['\x7b', '%', '\x7b', '~', '\x7d', '|'], ['u', 'p', 'p', 'e', 'r']⟩, none⟩],
          ['\x7b', '%', '\x7b', '~', '\x7d', '|', 'u', 'p', 'p', 'e', 'r', '\x7d']⟩, rest) := by
    intro p rest
    show (takeModifiers? _ ('|' :: 'u' :: 'p' :: 'p' :: 'e' :: 'r' :: '\x7d' :: rest)).map _ = _
    rw [takeModifiers?_bar (by rfl) (by rfl), takeModifiers?_close (by rfl)]
    rfl
  have hlist : ladenSource.toList = '\x7b' :: '%' :: '\x7b' :: 'h' :: '\x7d' :: '\x7d' :: 'a' ::
      '\x7b' :: '%' :: '\x7b' :: '~' :: '\x7d' :: '|' :: 'u' :: 'p' :: 'p' :: 'e' :: 'r' :: '\x7d' ::
      'b' :: '\x7b' :: '%' :: '\x7b' :: '/' :: '\x7d' :: '\x7d' :: [] := by cbv
  rw [parse, hlist, split, splitAt_directive (takeDirective?_marked rfl _ rfl),
    splitAt_text (by decide), splitAt_directive (hladen _ _), splitAt_text (by decide),
    splitAt_directive (takeDirective?_marked rfl _ rfl), splitAt]
  cbv

end Segment

/-- A host with helpers that start the first two bodies of their block. It keeps what is written,
text by text. -/
def Host.both : Host where
  State := List String
  Pending := Empty
  Helper := Frame
  write text written := (.ok (), written ++ [text])
  flush written := (.ok (), written)
  call _ _ _ written := (.ready (.ok .undefined), written)
  poll d _ := nomatch d
  help _ f _ written := (some f, written)
  turn f written := (.start 0 f fun _ => .start 1 f fun _ => .finish (.ok ()), written)

/-- What `Segment.ladenSource` compiles to. -/
def Scope.twoBodies : Scope :=
  .mk [.custom ⟨none, [], [], none⟩ "h" [.mk [.text "a"], .mk [.text "b"]]]

/-- The modifier of a continuation of a custom block is not in the compiled template, and what the
body writes is not modified. -/
theorem Scope.modifier_of_continuation_lost :
    Segment.parse Segment.ladenSource = .ok Segment.laden ∧
      compileText false Segment.ladenSource = .ok .twoBodies ∧
      Segment.laden.filterMap Segment.directive? =
        [⟨none, some (.name "h"), []⟩, ⟨none, none, [⟨"upper", []⟩]⟩] ∧
      Scope.twoBodies.directives = [⟨none, some (.name "h"), []⟩, ⟨none, none, []⟩] ∧
      ((World.start (H := Host.both) [] .empty .builtin false).render 20 none .twoBodies
        (.ofData (.object (.given 0) (.ofList [("h", .function 1)])))).map (·.2.host) =
          some ["a", "b"] := by
  refine ⟨Segment.parse_ladenSource, ?_, by cbv, rfl, by cbv⟩
  rw [compileText, Segment.parse_ladenSource]
  cbv

end Stencil
