import Stencil.Proofs.Program.Instant
import Stencil.Proofs.Scope.Relabel
import Stencil.Proofs.Scope.Similar

/-!
# Stencil.Proofs.Program.Paired — programs in step

Two programs are in step when they make the same requests one by one, on frames that stand for one
another, and come to errors that do (`Program.Paired`). A scope and the same scope with other places
for its errors are in step, on any frames that show the same data (`Scope.paired_run`).

Programs that are similar may differ in the steps they take, and the places of their errors are not
compared. Here both are exact, and what errors have in common is for the `Pairing` to say.
-/

namespace Stencil

/-- What two programs that are in step may differ in. -/
structure Pairing where
  /-- The place that is given by the right program where the left one gives this. -/
  place : Option Position → Option Position
  errors : RenderError → RenderError → Prop
  frames : Frame → Frame → Prop

namespace Pairing

/-- Whether errors that stand for one another do so when they are placed, and frames that do show
the same data, whatever is done with them. -/
structure Lawful (P : Pairing) : Prop where
  refl (e : RenderError) : P.errors e e
  locate {e e' : RenderError} (position : Option Position) : P.errors e e' →
    P.errors (e.locate position) (e'.locate (P.place position))
  frames : Frame.Kinship fun _ => P.frames

/-- Whether two results stand for one another. -/
inductive Results (P : Pairing) {α β : Type} (R : α → β → Prop) :
    Except RenderError α → Except RenderError β → Prop
  | ok {a : α} {b : β} : R a b → Results P R (.ok a) (.ok b)
  | error {e e' : RenderError} : P.errors e e' → Results P R (.error e) (.error e')

variable {P : Pairing} {α β : Type} {R : α → β → Prop}

theorem Lawful.refl_results (hP : P.Lawful) (r : Except RenderError α) : P.Results Eq r r := by
  cases r with
  | ok a => exact .ok rfl
  | error e => exact .error (hP.refl e)

/-- Errors stand for one another when they have been given places that do. -/
theorem Results.locate (hP : P.Lawful) {r : Except RenderError α} {r' : Except RenderError β}
    (h : P.Results R r r') (position : Option Position) :
    P.Results R (r.mapError (·.locate position)) (r'.mapError (·.locate (P.place position))) := by
  cases h with
  | ok h => exact .ok h
  | error h => exact .error (hP.locate position h)

/-! ## Requests -/

/-- Whether one scope is the other one with other places. -/
def Scopes (P : Pairing) (s s' : Scope) : Prop := s' = s.relabel P.place

/-- Whether two fragments stand for one another. -/
structure Fragments (P : Pairing) (x y : Fragment) : Prop where
  frame : P.frames x.frame y.frame
  body : P.Scopes x.body y.body
  modifiers : x.modifiers = y.modifiers

/-- Whether two blocks stand for one another. -/
structure Blocks (P : Pairing) (x y : CustomBlock) : Prop where
  channel : x.channel = y.channel
  frame : P.frames x.frame y.frame
  site : x.site = y.site
  bodies : y.bodies = x.bodies.map (·.relabel P.place)

/-- Whether two requests are the same, and which answers to them are. -/
inductive Asks (P : Pairing) : (q q' : Request) → (q.Answer → q'.Answer → Prop) → Prop
  | write (text : String) : P.Asks (.write text) (.write text) (P.Results Eq)
  | isHalted : P.Asks .isHalted .isHalted Eq
  | halt : P.Asks .halt .halt Eq
  | modify (name : String) (v : Value) (args : List Value) :
      P.Asks (.modify name v args) (.modify name v args) (P.Results Eq)
  | declare {x y : Fragment} (name : String) (h : P.Fragments x y) :
      P.Asks (.declare name x) (.declare name y) Eq
  | resolve (name : String) :
      P.Asks (.resolve name) (.resolve name) (Option.Rel P.Fragments)
  | template (name : String) : P.Asks (.template name) (.template name) (P.Results P.Scopes)
  | call {f f' : Frame} (i : Nat) (args : List Value) (h : P.frames f f') :
      P.Asks (.call i f args) (.call i f' args) (P.Results Eq)
  | custom {x y : CustomBlock} (i : Nat) (h : P.Blocks x y) :
      P.Asks (.custom i x) (.custom i y) (P.Results Eq)
  | enter {s s' : Scope} {f f' : Frame} (channel : Channel) (site : Site) (hs : P.Scopes s s')
      (hf : P.frames f f') :
      P.Asks (.enter s channel f site) (.enter s' channel f' site) (P.Results Eq)

/-- Either both requests are answered at once, or neither is. -/
theorem Asks.isInstant_eq {q q' : Request} {A : q.Answer → q'.Answer → Prop}
    (h : P.Asks q q' A) : q.isInstant = q'.isInstant := by
  cases h <;> rfl

end Pairing

/-! ## Programs -/

/-- Whether two programs make the same requests, one by one, and come to related results. -/
abbrev Program.Paired (P : Pairing) {α β : Type} (R : α → β → Prop) :
    Program α → Program β → Prop :=
  Program.Related P.Asks R

namespace Action

variable {P : Pairing} {α β γ δ : Type} {R : α → β → Prop} {S : γ → δ → Prop}

/-- Sequences whose parts stand for one another do so themselves. -/
theorem paired_bind {x : Action α} {x' : Action β} (hx : Program.Paired P (P.Results R) x x')
    {f : α → Action γ} {f' : β → Action δ}
    (hf : ∀ a b, R a b → Program.Paired P (P.Results S) (f a) (f' b)) :
    Program.Paired P (P.Results S) (x >>= f : Action γ) (x' >>= f' : Action δ) := by
  refine hx.bind fun r r' hr => ?_
  cases hr with
  | ok hab => exact hf _ _ hab
  | error he => exact .done (.error he)

theorem paired_pure {a : α} {b : β} (h : R a b) :
    Program.Paired P (P.Results R) (pure a : Action α) (pure b : Action β) := .done (.ok h)

theorem paired_ofExcept (hP : P.Lawful) (r : Except RenderError α) :
    Program.Paired P (P.Results Eq) (ofExcept r) (ofExcept r) := .done (hP.refl_results r)

theorem paired_locate (hP : P.Lawful) {x : Action α} {x' : Action β}
    (h : Program.Paired P (P.Results R) x x') (position : Option Position) :
    Program.Paired P (P.Results R) (x.locate position) (x'.locate (P.place position)) :=
  h.bind fun _ _ hr => .done (hr.locate hP position)

end Action

/-! ## Texts on their way -/

section Channels

variable {P : Pairing} (hP : P.Lawful)

/-- Modifiers are applied alike on both sides. -/
theorem Channel.paired_applyAll (ms : List AppliedModifier) (v : Value) :
    Program.Paired P (P.Results Eq) (applyAll ms v) (applyAll ms v) := by
  induction ms generalizing v with
  | nil => exact Action.paired_pure rfl
  | cons m ms ih =>
    refine Action.paired_bind (.ask (.modify m.name v m.args) fun _ _ h => .done h) ?_
    rintro v _ rfl
    exact ih v

include hP

/-- Texts are written alike on both sides. -/
theorem Channel.paired_write (channel : Channel) (text : String) :
    Program.Paired P (P.Results Eq) (channel.write text) (channel.write text) := by
  induction channel generalizing text with
  | nil => exact .ask (.write text) fun _ _ h => .done h
  | cons modifiers outer ih =>
    rw [write_cons]
    refine Action.paired_bind (R := Eq) (.ask .isHalted fun _ _ h => .done (.ok h)) ?_
    rintro halted _ rfl
    split
    · exact .done (.error (hP.refl _))
    split
    · exact Action.paired_pure rfl
    · refine Action.paired_bind (paired_applyAll modifiers (.text text)) ?_
      rintro v _ rfl
      exact ih v.display

end Channels

/-! ## Parts of a step -/

section Parts

variable {P : Pairing} (hP : P.Lawful) {f f' : Frame} (hf : P.frames f f')
include hP hf

/-- A path leads to the same value in frames that stand for one another. -/
theorem Pairing.Lawful.lookup (path : String) : f.lookup path = f'.lookup path :=
  hP.frames.lookup (r := .all) hf (Reach.covers_all _)

/-- Every context keeps frames that stand for one another so. -/
theorem Pairing.Lawful.reroot (site : Site) (context : Option String) :
    P.frames (f.reroot site context) (f'.reroot site context) := by
  have hcontext : Reach.all.CoversContext context := by
    cases context <;> exact trivial
  exact hP.frames.reroot (r := .all) hf hcontext site

/-- A formula comes to the same in frames that stand for one another. -/
theorem Formula.eval_paired (formula : Formula) (slots : List Value) :
    Evaluator.eval formula f slots = Evaluator.eval formula f' slots :=
  (formula.inReach_all none).eval hP.frames hf slots

theorem Formula.mapM_eval_paired (formulas : List Formula) (slots : List Value) :
    (formulas.mapM fun g => Evaluator.eval g f slots) =
      formulas.mapM fun g => Evaluator.eval g f' slots :=
  Except.mapM_congr fun g _ => g.eval_paired hP hf slots

theorem PendingModifier.apply_paired (m : PendingModifier) (slots : List Value) :
    m.apply f slots = m.apply f' slots :=
  m.apply_eq hP.frames hf (fun g _ => g.inReach_all none) slots

/-- The modifiers of a directive are read alike. -/
theorem Head.paired_applied (head : Head) (slots : List Value) :
    Program.Paired P (P.Results Eq) (head.applied f slots)
      ((head.relabel P.place).applied f' slots) := by
  have heq : (head.modifiers.mapM fun m => m.apply f slots) =
      head.modifiers.mapM fun m => m.apply f' slots :=
    Except.mapM_congr fun m _ => m.apply_paired hP hf slots
  unfold Head.applied
  rw [heq]
  exact Action.paired_ofExcept hP _

/-- They are applied alike. -/
theorem paired_modifyAll (ms : List PendingModifier) (slots : List Value) (v : Value) :
    Program.Paired P (P.Results Eq) (modifyAll f slots ms v) (modifyAll f' slots ms v) := by
  induction ms generalizing v with
  | nil => exact Action.paired_pure rfl
  | cons m ms ih =>
    unfold modifyAll
    rw [m.apply_paired hP hf slots]
    refine Action.paired_bind (Action.paired_ofExcept hP _) ?_
    rintro m _ rfl
    refine Action.paired_bind (.ask (.modify m.name v m.args) fun _ _ h => .done h) ?_
    rintro v _ rfl
    exact ih v

/-- The name of a template comes to the same. -/
theorem TemplateName.paired_eval (name : TemplateName) (slots : List Value) :
    Program.Paired P (P.Results Eq) (name.eval f slots) (name.eval f' slots) := by
  cases name with
  | fixed name => exact Action.paired_pure rfl
  | computed formula =>
    simp only [TemplateName.eval, formula.eval_paired hP hf slots]
    refine Action.paired_bind (Action.paired_ofExcept hP _) ?_
    rintro v _ rfl
    exact Action.paired_pure rfl

/-! ## Calls -/

/-- A call is made alike, on frames that stand for one another. -/
theorem Call.paired_run (c : Call) (site : Site) (slots : List Value) :
    Program.Paired P (P.Results Eq) (c.run f site slots)
      ((c.relabel P.place).run f' site slots) := by
  have htarget := hP.reroot hf site c.context
  have hlookup := hP.lookup htarget c.path
  have hargs := Formula.mapM_eval_paired hP htarget c.args slots
  show Program.Paired P (P.Results Eq) (c.run f site slots) (c.run f' site slots)
  unfold Call.run
  dsimp only
  rw [hlookup, hargs]
  -- the path leads to the same function, or to none on either side
  cases (f'.reroot site c.context).lookup c.path with
  | function i =>
    refine Action.paired_bind (Action.paired_ofExcept hP _) ?_
    rintro args _ rfl
    have hcall : Program.Paired P (P.Results Eq)
        (Action.call i (f.reroot site c.context) args)
        (Action.call i (f'.reroot site c.context) args) :=
      .ask (.call i args htarget) fun _ _ h => .done h
    refine Action.paired_bind hcall ?_
    rintro v _ rfl
    exact Action.paired_pure rfl
  | undefined | null | bool | number | text | array | object => exact .done (.error (hP.refl _))

theorem Call.paired_runAll (cs : List Call) (site : Site) (slots : List Value) :
    Program.Paired P (P.Results Eq) (Call.runAll f site cs slots)
      (Call.runAll f' site (cs.map (·.relabel P.place)) slots) := by
  induction cs generalizing slots with
  | nil => exact Action.paired_pure rfl
  | cons c cs ih =>
    rw [List.map_cons, Call.runAll, Call.runAll]
    have hrun := c.paired_run hP hf (.call site slots.length) slots
    refine Action.paired_bind (Action.paired_locate hP hrun c.position) ?_
    rintro v _ rfl
    exact ih _

/-- A directive makes its calls, and then does its work in its own place. -/
theorem Head.paired_directive {α β : Type} {R : α → β → Prop} (head : Head) (site : Site)
    {work : List Value → Action α} {work' : List Value → Action β}
    (hwork : ∀ slots, Program.Paired P (P.Results R) (work slots) (work' slots)) :
    Program.Paired P (P.Results R)
      (Call.runAll f site head.calls [] >>= fun slots =>
        (work slots).locate head.position : Action α)
      (Call.runAll f' site (head.relabel P.place).calls [] >>= fun slots =>
        (work' slots).locate (head.relabel P.place).position : Action β) := by
  refine Action.paired_bind (Call.paired_runAll hP hf head.calls site []) ?_
  rintro slots _ rfl
  exact Action.paired_locate hP (hwork slots) head.position

/-! ## Work shared by steps -/

/-- Passes over the same entries are made alike. -/
theorem paired_runEntries {body body' : Frame → Site → Action Unit}
    (hbody : ∀ g g' site, P.frames g g' →
      Program.Paired P (P.Results Eq) (body g site) (body' g' site))
    (site : Site) (es : Entries) :
    Program.Paired P (P.Results Eq) (runEntries body f site es)
      (runEntries body' f' site es) := by
  -- the entries are the same, so both runs take the same one next
  fun_induction runEntries body f site es with
  | case1 es h =>
    rw [runEntries.eq_def]
    split
    · exact Action.paired_pure rfl
    · next hsome =>
      rw [h] at hsome
      cases hsome
  | case2 es p rest h ih =>
    rw [runEntries.eq_def body' f' site es]
    split
    · next hnone =>
      rw [h] at hnone
      cases hnone
    · next hsome =>
      rw [h] at hsome
      cases hsome
      have hpass : P.frames (p.frame f site) (p.frame f' site) :=
        hP.frames.push (r := .all) _ hf
      exact Action.paired_bind (hbody _ _ _ hpass) fun _ _ _ => ih

/-- So are the passes that a value asks for. -/
theorem paired_runIteration {body body' : Frame → Site → Action Unit}
    (hbody : ∀ g g' site, P.frames g g' →
      Program.Paired P (P.Results Eq) (body g site) (body' g' site))
    (collection : Value) (site : Site) :
    Program.Paired P (P.Results Eq) (runIteration collection f site body)
      (runIteration collection f' site body') := by
  refine Action.paired_bind (Action.paired_ofExcept hP _) ?_
  rintro es _ rfl
  exact paired_runEntries hP hf hbody site es

/-- Blocks that are handed to a function stand for one another. -/
theorem paired_runCustom (channel : Channel) (path : String) (site : Site)
    (bodies : List Scope) :
    Program.Paired P (P.Results Eq) (runCustom channel path f site bodies)
      (runCustom channel path f' site (relabelBodies P.place bodies)) := by
  have hblock : P.Blocks ⟨channel, f, site, bodies⟩
      ⟨channel, f', site, relabelBodies P.place bodies⟩ :=
    ⟨rfl, hf, rfl, relabelBodies_eq P.place bodies⟩
  unfold runCustom
  rw [hP.lookup hf path]
  cases f'.lookup path with
  | function i => exact .ask (.custom i hblock) fun _ _ h => .done h
  | undefined | null | bool | number | text | array | object => exact Action.paired_pure rfl

theorem paired_runTemplate (channel : Channel) (name : String) (site : Site) :
    Program.Paired P (P.Results Eq) (runTemplate channel name f site)
      (runTemplate channel name f' site) := by
  have htemplate : Program.Paired P (P.Results P.Scopes) (Action.template name)
      (Action.template name) := .ask (.template name) fun _ _ h => .done h
  have hnamed : P.frames (f.named name) (f'.named name) := hP.frames.named (r := .all) name hf
  refine Action.paired_bind htemplate fun s s' hs => ?_
  exact .ask (.enter channel (.part site 0) hs hnamed) fun _ _ h => .done h

end Parts

theorem Pairing.Fragments.paired_run {P : Pairing} (hP : P.Lawful) {x y : Fragment}
    (h : P.Fragments x y) (channel : Channel) (data : Value) (site : Site) :
    Program.Paired P (P.Results Eq) (runFragment x channel data site)
      (runFragment y channel data site) := by
  have hpush : ∀ v, P.frames (x.frame.push v) (y.frame.push v) :=
    fun v => hP.frames.push (r := .all) v h.frame
  unfold runFragment
  rw [h.modifiers, hP.frames.data (r := .all) h.frame]
  exact .ask (.enter _ _ h.body (hpush _)) fun _ _ h => .done h

/-! ## Steps -/

variable {P : Pairing}

/-- A test holds on both sides or on neither. -/
theorem Head.paired_tested (hP : P.Lawful) {f f' : Frame} (hf : P.frames f f') (head : Head)
    (test : Option Test) (site : Site) :
    Program.Paired P (P.Results Eq) (head.tested f site test)
      ((head.relabel P.place).tested f' site (test.map (·.relabel P.place))) := by
  cases test with
  | none => exact Action.paired_pure rfl
  | some test =>
    have htarget := hP.reroot hf site head.context
    have heval := test.formula.eval_paired hP htarget
    show Program.Paired P (P.Results Eq) (head.tested f site (some test))
      ((head.relabel P.place).tested f' site (some (test.relabel P.place)))
    unfold Head.tested
    refine Action.paired_bind (Call.paired_runAll hP hf test.calls site []) ?_
    rintro slots _ rfl
    rw [heval slots]
    refine Action.paired_bind (R := Eq)
      (Action.paired_locate hP (Action.paired_ofExcept hP _) head.position) ?_
    rintro v _ rfl
    exact Action.paired_pure rfl

mutual

/-- A step is in step with the same step with other places. -/
theorem Step.paired_run (hP : P.Lawful) : ∀ (s : Step) {f f' : Frame}, P.frames f f' →
    ∀ (channel : Channel) (site : Site), Program.Paired P (P.Results Eq) (s.run channel f site)
      ((s.relabel P.place).run channel f' site)
  | .text s, f, f', hf, channel, site => by
    rw [Step.relabel, Step.run, Step.run]
    exact Channel.paired_write hP channel s
  | .output head value, f, f', hf, channel, site => by
    have htarget := hP.reroot hf site head.context
    rw [Step.relabel, Step.run, Step.run]
    refine head.paired_directive hP hf site fun slots => ?_
    dsimp only [Head.relabel]
    rw [value.eval_paired hP htarget slots]
    refine Action.paired_bind (Action.paired_ofExcept hP _) ?_
    rintro v _ rfl
    refine Action.paired_bind (paired_modifyAll hP htarget head.modifiers slots v) ?_
    rintro v _ rfl
    exact Channel.paired_write hP channel v.display
  -- the alternatives of a choice have places of their own, so they are a recursion of their own
  | .choice alternatives, f, f', hf, channel, site => by
    rw [Step.relabel, Step.run, Step.run]
    exact paired_runChoice hP alternatives hf channel site 0
  | .iterate head collection body, f, f', hf, channel, site => by
    have htarget := hP.reroot hf site head.context
    rw [Step.relabel, Step.run, Step.run]
    refine head.paired_directive hP hf site fun slots => ?_
    dsimp only [Head.relabel]
    rw [collection.eval_paired hP htarget slots]
    refine Action.paired_bind (Action.paired_ofExcept hP _) ?_
    rintro collection _ rfl
    refine Action.paired_bind (head.paired_applied hP htarget slots) ?_
    rintro modifiers _ rfl
    exact paired_runIteration hP htarget (fun g g' site hg => body.paired_run hP hg _ site)
      collection site
  | .custom head path bodies, f, f', hf, channel, site => by
    have htarget := hP.reroot hf site head.context
    rw [Step.relabel, Step.run, Step.run]
    refine head.paired_directive hP hf site fun slots => ?_
    refine Action.paired_bind (head.paired_applied hP htarget slots) ?_
    rintro modifiers _ rfl
    exact paired_runCustom hP htarget _ path site bodies
  | .declare head name body, f, f', hf, channel, site => by
    have htarget := hP.reroot hf site head.context
    rw [Step.relabel, Step.run, Step.run]
    refine Action.paired_bind (Call.paired_runAll hP hf head.calls site []) ?_
    rintro slots _ rfl
    refine Action.paired_bind (R := Eq)
      (Action.paired_locate hP (head.paired_applied hP htarget slots) head.position) ?_
    rintro modifiers _ rfl
    exact .ask (.declare name ⟨htarget, rfl, rfl⟩) fun _ _ _ => .done (.ok rfl)
  | .render head name, f, f', hf, channel, site => by
    have htarget := hP.reroot hf site head.context
    have hresolve : Program.Paired P (P.Results (Option.Rel P.Fragments)) (Action.resolve name)
        (Action.resolve name) := .ask (.resolve name) fun _ _ h => .done (.ok h)
    rw [Step.relabel, Step.run, Step.run]
    refine head.paired_directive hP hf site fun slots => ?_
    refine Action.paired_bind hresolve fun x y hxy => ?_
    cases hxy with
    | none => exact Action.paired_pure rfl
    | some hxy =>
      refine Action.paired_bind (head.paired_applied hP htarget slots) ?_
      rintro modifiers _ rfl
      dsimp only [Head.relabel]
      rw [hP.frames.data (r := .all) htarget]
      exact hxy.paired_run hP _ _ site
  | .inclusion head name, f, f', hf, channel, site => by
    have htarget := hP.reroot hf site head.context
    rw [Step.relabel, Step.run, Step.run]
    refine head.paired_directive hP hf site fun slots => ?_
    refine Action.paired_bind (name.paired_eval hP htarget slots) ?_
    rintro name _ rfl
    refine Action.paired_bind (head.paired_applied hP htarget slots) ?_
    rintro modifiers _ rfl
    exact paired_runTemplate hP htarget _ name site

/-- A choice falls alike on both sides. -/
theorem paired_runChoice (hP : P.Lawful) : ∀ (as : List Alternative) {f f' : Frame}, P.frames f f' →
    ∀ (channel : Channel) (site : Site) (k : Nat), Program.Paired P (P.Results Eq)
      (runChoice channel f site k as)
      (runChoice channel f' site k (relabelAlternatives P.place as))
  | [], _, _, _, _, _, _ => Action.paired_pure rfl
  | .mk head test body :: others, f, f', hf, channel, site, k => by
    have htarget := hP.reroot hf (.part site k) head.context
    rw [relabelAlternatives, runChoice_cons, runChoice_cons]
    refine Action.paired_bind (head.paired_tested hP hf test (.part site k)) ?_
    rintro holds _ rfl
    cases holds with
    | true =>
      show Program.Paired P (P.Results Eq) (head.take channel f (.part site k) body)
        ((head.relabel P.place).take channel f' (.part site k) (body.relabel P.place))
      unfold Head.take
      refine Action.paired_bind (Call.paired_runAll hP hf head.calls _ []) ?_
      rintro slots _ rfl
      refine Action.paired_bind (R := Eq)
        (Action.paired_locate hP (head.paired_applied hP htarget slots) head.position) ?_
      rintro modifiers _ rfl
      exact body.paired_run hP htarget _ _
    | false => exact paired_runChoice hP others hf channel site (k + 1)

/-- A scope is in step with the same scope with other places. -/
theorem Scope.paired_run (hP : P.Lawful) : ∀ (s : Scope) {f f' : Frame}, P.frames f f' →
    ∀ (channel : Channel) (site : Site), Program.Paired P (P.Results Eq) (s.run channel f site)
      ((s.relabel P.place).run channel f' site)
  | .mk steps, _, _, hf, channel, site => by
    rw [Scope.relabel, Scope.run_mk, Scope.run_mk]
    exact paired_runSteps hP steps hf channel site 0

/-- Steps run alike one after the other. -/
theorem paired_runSteps (hP : P.Lawful) : ∀ (ss : List Step) {f f' : Frame}, P.frames f f' →
    ∀ (channel : Channel) (site : Site) (i : Nat), Program.Paired P (P.Results Eq)
      (runSteps channel f site i ss) (runSteps channel f' site i (relabelSteps P.place ss))
  | [], _, _, _, _, _, _ => Action.paired_pure rfl
  | s :: ss, f, f', hf, channel, site, i => by
    rw [relabelSteps, runSteps, runSteps]
    refine Action.paired_bind (s.paired_run hP hf channel _) fun _ _ _ => ?_
    exact paired_runSteps hP ss hf channel site (i + 1)

end

end Stencil
