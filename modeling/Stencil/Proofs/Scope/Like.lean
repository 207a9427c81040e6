import Stencil.Proofs.Program.Similar

/-!
# Stencil.Proofs.Scope.Like — scopes that do the same

Scopes are like one another when they are the same but for the places of errors, and but for
templates whose steps stand in place of a step that includes them (`Scope.Like`). A scope is within
some reach when no path in it leads further out (`Scope.InReach`). Like scopes that are within reach
do the same on frames that agree there (`Scope.Like.similar_run`).
-/

namespace Stencil

/-! ## Scopes that are alike -/

/-- Whether two calls are the same but for the places of errors. -/
structure Call.Like (c c' : Call) : Prop where
  context : c.context = c'.context
  path : c.path = c'.path
  args : c.args = c'.args
  property : c.property = c'.property

/-- Whether two directives have the same besides their expressions, but for the places of errors. -/
structure Head.Like (h h' : Head) : Prop where
  context : h.context = h'.context
  calls : List.Forall₂ Call.Like h.calls h'.calls
  modifiers : h.modifiers = h'.modifiers

/-- Whether two tests are the same but for the places of errors. -/
structure Test.Like (t t' : Test) : Prop where
  calls : List.Forall₂ Call.Like t.calls t'.calls
  formula : t.formula = t'.formula

/-- Whether a directive has no context, makes no calls and has no modifiers. -/
structure Head.Plain (h : Head) : Prop where
  context : h.context = none
  calls : h.calls = []
  modifiers : h.modifiers = []

/-- Whether a test holds whatever the frame is. -/
def Test.Holds (t : Test) : Prop :=
  t.calls = [] ∧ ∀ f : Frame, ∃ v, t.formula.eval f [] = .ok v ∧ v.truthy = true

mutual

/-- Whether two steps are the same but for the places of errors. In place of a step that includes a
template there may be the steps of that template, in a branch that is always taken. -/
inductive Step.Like (T : String → Scope → Prop) : Step → Step → Prop
  | text (s : String) : Step.Like T (.text s) (.text s)
  | output {h h' : Head} (value : Formula) (hh : h.Like h') :
      Step.Like T (.output h value) (.output h' value)
  | choice {as as' : List Alternative} (has : AlternativesLike T as as') :
      Step.Like T (.choice as) (.choice as')
  | iterate {h h' : Head} {body body' : Scope} (collection : Formula) (hh : h.Like h')
      (hbody : Scope.Like T body body') :
      Step.Like T (.iterate h collection body) (.iterate h' collection body')
  | custom {h h' : Head} {bodies bodies' : List Scope} (path : String) (hh : h.Like h')
      (hbodies : BodiesLike T bodies bodies') :
      Step.Like T (.custom h path bodies) (.custom h' path bodies')
  | declare {h h' : Head} {body body' : Scope} (name : String) (hh : h.Like h')
      (hbody : Scope.Like T body body') :
      Step.Like T (.declare h name body) (.declare h' name body')
  | render {h h' : Head} (name : String) (hh : h.Like h') :
      Step.Like T (.render h name) (.render h' name)
  | inclusion {h h' : Head} (name : TemplateName) (hh : h.Like h') :
      Step.Like T (.inclusion h name) (.inclusion h' name)
  | inPlace {h h' : Head} {name : String} {test : Test} {body : Scope} {others : List Alternative}
      (hh : h.Plain) (hh' : h'.Plain) (htest : test.Holds) (hothers : allImmediate others = false)
      (hname : ∃ s, T name s) (hbody : ∀ s, T name s → Scope.Like T s body) :
      Step.Like T (.inclusion h (.fixed name)) (.choice (.mk h' (some test) body :: others))

/-- Whether the branches of two choices are alike. -/
inductive AlternativesLike (T : String → Scope → Prop) :
    List Alternative → List Alternative → Prop
  | nil : AlternativesLike T [] []
  | cons {h h' : Head} {test test' : Option Test} {body body' : Scope}
      {as as' : List Alternative} (hh : h.Like h') (htest : Option.Rel Test.Like test test')
      (hbody : Scope.Like T body body') (has : AlternativesLike T as as') :
      AlternativesLike T (.mk h test body :: as) (.mk h' test' body' :: as')

/-- Whether the bodies of two blocks are alike. -/
inductive BodiesLike (T : String → Scope → Prop) : List Scope → List Scope → Prop
  | nil : BodiesLike T [] []
  | cons {body body' : Scope} {bodies bodies' : List Scope} (hbody : Scope.Like T body body')
      (hbodies : BodiesLike T bodies bodies') : BodiesLike T (body :: bodies) (body' :: bodies')

/-- Whether two scopes are alike, step by step. -/
inductive Scope.Like (T : String → Scope → Prop) : Scope → Scope → Prop
  | mk {steps steps' : List Step} (h : StepsLike T steps steps') :
      Scope.Like T (.mk steps) (.mk steps')

/-- Whether the steps of two lists are alike. -/
inductive StepsLike (T : String → Scope → Prop) : List Step → List Step → Prop
  | nil : StepsLike T [] []
  | cons {s s' : Step} {ss ss' : List Step} (hs : Step.Like T s s') (hss : StepsLike T ss ss') :
      StepsLike T (s :: ss) (s' :: ss')

end

/-! ## Steps that may have to wait -/

theorem Call.isEmpty_eq {cs cs' : List Call} (h : List.Forall₂ Call.Like cs cs') :
    cs.isEmpty = cs'.isEmpty := by
  cases h <;> rfl

/-- Alternatives that are alike are immediate or not alike. -/
theorem Alternative.isImmediate_eq {h h' : Head} (hh : h.Like h') {test test' : Option Test}
    (htest : Option.Rel Test.Like test test') {body body' : Scope}
    (hbody : body.isImmediate = body'.isImmediate) :
    (Alternative.mk h test body).isImmediate = (Alternative.mk h' test' body').isImmediate := by
  cases htest with
  | none => simp only [isImmediate, Call.isEmpty_eq hh.calls, hbody]
  | some ht =>
    simp only [isImmediate, Call.isEmpty_eq hh.calls, Call.isEmpty_eq ht.calls, hbody]

section Immediate

variable {T : String → Scope → Prop}

mutual

/-- Of steps that are alike, either both may have to wait or neither. -/
theorem Step.Like.isImmediate_eq {s s' : Step} : s.Like T s' → s.isImmediate = s'.isImmediate
  | .text _ => rfl
  | .output _ hh => by
    rw [Step.isImmediate, Step.isImmediate]
    exact Call.isEmpty_eq hh.calls
  | .choice has => by
    rw [Step.isImmediate, Step.isImmediate]
    exact has.allImmediate_eq
  | .iterate .. => rfl
  | .custom .. => rfl
  | .declare _ hh _ => by
    rw [Step.isImmediate, Step.isImmediate]
    exact Call.isEmpty_eq hh.calls
  | .render .. => rfl
  | .inclusion .. => rfl
  | .inPlace _ _ _ hothers _ _ => by
    rw [Step.isImmediate, Step.isImmediate, allImmediate, hothers, Bool.and_false]

theorem AlternativesLike.allImmediate_eq {as as' : List Alternative} :
    AlternativesLike T as as' → allImmediate as = allImmediate as'
  | .nil => rfl
  | .cons hh htest hbody has => by
    rw [allImmediate, allImmediate, Alternative.isImmediate_eq hh htest hbody.isImmediate_eq,
      has.allImmediate_eq]

theorem Scope.Like.isImmediate_eq {s s' : Scope} : s.Like T s' → s.isImmediate = s'.isImmediate
  | .mk h => h.stepsImmediate_eq

theorem StepsLike.stepsImmediate_eq {ss ss' : List Step} :
    StepsLike T ss ss' → stepsImmediate ss = stepsImmediate ss'
  | .nil => rfl
  | .cons hs hss => by
    rw [stepsImmediate, stepsImmediate, hs.isImmediate_eq, hss.stepsImmediate_eq]

end

theorem StepsLike.length_eq {ss ss' : List Step} : StepsLike T ss ss' → ss.length = ss'.length
  | .nil => rfl
  | .cons _ hss => congrArg (· + 1) (length_eq hss)

/-- There are none of the ones where there are none of the others. -/
theorem StepsLike.eq_nil_iff {ss ss' : List Step} (h : StepsLike T ss ss') :
    ss = [] ↔ ss' = [] := by
  cases h <;> simp

/-- The steps that run at once are alike. -/
theorem StepsLike.takeWhile {ss ss' : List Step} : StepsLike T ss ss' →
    StepsLike T (ss.takeWhile Step.isImmediate) (ss'.takeWhile Step.isImmediate)
  | .nil => .nil
  | .cons hs hss => by
    rw [List.takeWhile_cons, List.takeWhile_cons, hs.isImmediate_eq]
    split
    · exact .cons hs (takeWhile hss)
    · exact .nil

/-- The steps that may have to wait are alike. -/
theorem StepsLike.dropWhile {ss ss' : List Step} : StepsLike T ss ss' →
    StepsLike T (ss.dropWhile Step.isImmediate) (ss'.dropWhile Step.isImmediate)
  | .nil => .nil
  | .cons hs hss => by
    rw [List.dropWhile_cons, List.dropWhile_cons, hs.isImmediate_eq]
    split
    · exact dropWhile hss
    · exact .cons hs hss

end Immediate

/-! ## How far out scopes look -/

/-- Whether every path in a formula starts within reach. -/
def Formula.InReach (r : Reach) (f : Formula) : Prop :=
  ∀ path, Op.lookup path ∈ f → r.Covers (Path.ofString path).anchor

/-- Whether every path of a call starts within reach. -/
structure Call.InReach (r : Reach) (c : Call) : Prop where
  context : r.CoversContext c.context
  path : (r.reroot c.context).Covers (Path.ofString c.path).anchor
  args : ∀ f ∈ c.args, f.InReach (r.reroot c.context)

/-- Whether every path that a directive has besides its expression starts within reach. -/
structure Head.InReach (r : Reach) (h : Head) : Prop where
  context : r.CoversContext h.context
  calls : ∀ c ∈ h.calls, c.InReach r
  modifiers : ∀ m ∈ h.modifiers, ∀ f ∈ m.args, f.InReach (r.reroot h.context)

/-- Whether the templates with this name may be rendered within a reach; `N` tells which may. -/
def TemplateName.InReach (N : Reach → String → Prop) (r : Reach) : TemplateName → Prop
  | fixed name => N r.inner name
  | computed f => f.InReach r ∧ ∀ name, N r.inner name

mutual

/-- Whether every path in a step starts within reach, and every template that it includes may be
rendered there. -/
def Step.InReach (N : Reach → String → Prop) (r : Reach) : Step → Prop
  | .text _ => True
  | .output h value => h.InReach r ∧ value.InReach (r.reroot h.context)
  | .choice as => AlternativesInReach N r as
  | .iterate h collection body =>
    h.InReach r ∧ collection.InReach (r.reroot h.context) ∧
      body.InReach N (r.reroot h.context).inner
  | .custom h path bodies =>
    h.InReach r ∧ (r.reroot h.context).Covers (Path.ofString path).anchor ∧
      BodiesInReach N (r.reroot h.context) bodies
  | .declare h _ body => h.InReach r ∧ body.InReach N (r.reroot h.context).inner
  | .render h _ => h.InReach r
  | .inclusion h name => h.InReach r ∧ name.InReach N (r.reroot h.context)

/-- Whether the branches of a choice are within reach. -/
def AlternativesInReach (N : Reach → String → Prop) (r : Reach) : List Alternative → Prop
  | [] => True
  | .mk h test body :: as =>
    h.InReach r ∧ (∀ t, test = some t → (∀ c ∈ t.calls, c.InReach r) ∧
      t.formula.InReach (r.reroot h.context)) ∧
      body.InReach N (r.reroot h.context) ∧ AlternativesInReach N r as

/-- Whether the bodies of a block are within reach. -/
def BodiesInReach (N : Reach → String → Prop) (r : Reach) : List Scope → Prop
  | [] => True
  | body :: bodies => body.InReach N r ∧ BodiesInReach N r bodies

/-- Whether a scope is within reach. -/
def Scope.InReach (N : Reach → String → Prop) (r : Reach) : Scope → Prop
  | .mk steps => StepsInReach N r steps

/-- Whether the steps of a list are within reach. -/
def StepsInReach (N : Reach → String → Prop) (r : Reach) : List Step → Prop
  | [] => True
  | s :: ss => s.InReach N r ∧ StepsInReach N r ss

end

/-- Steps in a row keep within reach if each of them does. -/
theorem stepsInReach_iff {N : Reach → String → Prop} {r : Reach} {ss : List Step} :
    StepsInReach N r ss ↔ ∀ s ∈ ss, s.InReach N r := by
  induction ss with
  | nil => simp [StepsInReach]
  | cons s ss ih => simp [StepsInReach, ih]

section All

variable {N : Reach → String → Prop}

/-- Nothing in a formula is out of an unlimited reach. -/
theorem Formula.inReach_all (f : Formula) (context : Option String) :
    f.InReach (Reach.all.reroot context) := fun path _ => by
  rw [Reach.reroot_all]
  exact Reach.covers_all _

theorem Call.inReach_all (c : Call) : c.InReach .all where
  context := by cases c.context <;> exact trivial
  path := by
    rw [Reach.reroot_all]
    exact Reach.covers_all _
  args f _ := f.inReach_all c.context

theorem Head.inReach_all (h : Head) : h.InReach .all where
  context := by cases h.context <;> exact trivial
  calls c _ := c.inReach_all
  modifiers _ _ f _ := f.inReach_all h.context

mutual

/-- Nothing is out of reach of all frames. -/
theorem Step.inReach_all (hN : ∀ name, N .all name) : ∀ s : Step, s.InReach N .all
  | .text _ => trivial
  | .output h value => ⟨h.inReach_all, value.inReach_all h.context⟩
  | .choice as => alternativesInReach_all hN as
  | .iterate h collection body => by
    refine ⟨h.inReach_all, collection.inReach_all h.context, ?_⟩
    rw [Reach.reroot_all]
    exact body.inReach_all hN
  | .custom h path bodies => by
    refine ⟨h.inReach_all, ?_⟩
    rw [Reach.reroot_all]
    exact ⟨Reach.covers_all _, bodiesInReach_all hN bodies⟩
  | .declare h _ body => by
    refine ⟨h.inReach_all, ?_⟩
    rw [Reach.reroot_all]
    exact body.inReach_all hN
  | .render h _ => h.inReach_all
  -- the template that is included is within reach because all of them are
  | .inclusion h name => by
    refine ⟨h.inReach_all, ?_⟩
    rw [Reach.reroot_all]
    cases name with
    | fixed name => exact hN name
    | computed f => exact ⟨f.inReach_all none, hN⟩

theorem alternativesInReach_all (hN : ∀ name, N .all name) :
    ∀ as : List Alternative, AlternativesInReach N .all as
  | [] => trivial
  | .mk h test body :: as => by
    refine ⟨h.inReach_all, fun t _ => ⟨fun c _ => c.inReach_all, t.formula.inReach_all h.context⟩,
      ?_, alternativesInReach_all hN as⟩
    rw [Reach.reroot_all]
    exact body.inReach_all hN

theorem bodiesInReach_all (hN : ∀ name, N .all name) :
    ∀ bodies : List Scope, BodiesInReach N .all bodies
  | [] => trivial
  | body :: bodies => ⟨body.inReach_all hN, bodiesInReach_all hN bodies⟩

theorem Scope.inReach_all (hN : ∀ name, N .all name) : ∀ s : Scope, s.InReach N .all
  | .mk steps => stepsInReach_all hN steps

theorem stepsInReach_all (hN : ∀ name, N .all name) : ∀ ss : List Step, StepsInReach N .all ss
  | [] => trivial
  | s :: ss => ⟨s.inReach_all hN, stepsInReach_all hN ss⟩

end

end All

/-- Bodies that are alike are so one by one. -/
theorem BodiesLike.forall₂ {N : Reach → String → Prop} {T : String → Scope → Prop} {r : Reach}
    {bodies bodies' : List Scope} (h : BodiesLike T bodies bodies')
    (hwithin : BodiesInReach N r bodies) :
    List.Forall₂ (fun s s' => s.Like T s' ∧ s.InReach N r) bodies bodies' := by
  induction bodies generalizing bodies' with
  | nil =>
    cases h
    exact .nil
  | cons body bodies ih =>
    cases h with
    | cons hbody hrest => exact .cons ⟨hbody, hwithin.1⟩ (ih hrest hwithin.2)

/-- What may stand for what in a render: frames as they are related by `F`, scopes that are alike
and within reach, the templates that may be rendered within a reach, and the templates whose steps
may stand in place of a step that includes them. -/
def Scope.kinship (F : Reach → Frame → Frame → Prop) (N : Reach → String → Prop)
    (T : String → Scope → Prop) : Kinship where
  frames := F
  scopes r s s' := s.Like T s' ∧ s.InReach N r
  names := N
  left := T
  right _ _ := False

end Stencil
