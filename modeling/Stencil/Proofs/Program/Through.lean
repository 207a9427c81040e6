import Stencil.Proofs.Program.Asks
import Stencil.Proofs.Program.Run

/-!
# Stencil.Proofs.Program.Through — what blocks around a program do to it

Inside blocks with modifiers a program does what it does outside of them, but for its texts: each
of them is sent on its way through the blocks, and so is what is written by whoever the program
hands a block or a scope to (`Program.through`). Running a scope inside blocks comes to that
(`Scope.run_append`).
-/

namespace Stencil

/-- Whether the request neither writes nor has others write. -/
def Request.isSilent : Request → Bool
  | .write _ | .custom .. | .enter .. => false
  | _ => true

namespace Program

variable {α β : Type}

/-- The program inside blocks with these modifiers. -/
def through (outer : Channel) : Program α → Program α
  | done a => done a
  | ask (.write text) k => Program.bind (outer.write text) fun r => (k r).through outer
  | ask (.custom f block) k =>
    ask (.custom f { block with channel := block.channel ++ outer }) fun r => (k r).through outer
  | ask (.enter body channel frame site) k =>
    ask (.enter body (channel ++ outer) frame site) fun r => (k r).through outer
  | ask q k => ask q fun a => (k a).through outer

/-- A silent request is the same through any number of blocks. -/
theorem through_ask {q : Request} (h : q.isSilent = true) (outer : Channel)
    (k : q.Answer → Program α) :
    (ask q k).through outer = ask q fun a => (k a).through outer := by
  cases q with
  | write | custom | enter => cases h
  | isHalted | halt | modify | declare | resolve | template | call => rfl

/-- Sequences are put through blocks part by part. -/
theorem through_bind (outer : Channel) (p : Program α) (f : α → Program β) :
    (p.bind f).through outer = (p.through outer).bind fun a => (f a).through outer := by
  induction p with
  | done a => rfl
  | ask q k ih =>
    by_cases hsilent : q.isSilent = true
    · rw [ask_bind, through_ask hsilent, through_ask hsilent, ask_bind]
      simp only [ih]
    · -- a text may become many requests, what is handed on stays one
      cases q with
      | isHalted | halt | modify | declare | resolve | template | call =>
        exact absurd rfl hsilent
      | write text =>
        rw [ask_bind, through, through, bind_assoc]
        exact congrArg (Program.bind (outer.write text)) (funext ih)
      | custom f block => exact congrArg (ask _) (funext ih)
      | enter body channel frame site => exact congrArg (ask _) (funext ih)

/-- Blocks mean nothing to a program that writes nothing. -/
theorem through_of_asks {p : Program α}
    (h : p.Asks (fun q => q.isSilent = true) fun _ _ => True) (outer : Channel) :
    p.through outer = p := by
  induction p with
  | done a => rfl
  | ask q k ih =>
    rw [through_ask h.1]
    congr 1
    funext a
    exact ih a (h.2 a trivial)

end Program

/-! ## Actions -/

namespace Action

variable {α β : Type} (outer : Channel)

/-- The action inside blocks with these modifiers. -/
def through (x : Action α) : Action α := Program.through outer x

theorem through_bind (x : Action α) (f : α → Action β) :
    (x >>= f).through outer = (x.through outer >>= fun a => (f a).through outer) := by
  refine (Program.through_bind outer x _).trans ?_
  refine congrArg (Program.bind (Program.through outer x)) ?_
  funext r
  cases r with
  | ok a => rfl
  | error e => rfl

/-- Places are given inside or outside the blocks, as one likes. -/
theorem through_locate (x : Action α) (position : Option Position) :
    (x.locate position).through outer = (x.through outer).locate position :=
  Program.through_bind outer x _

theorem through_of_asks {x : Action α}
    (h : Program.Asks (fun q => q.isSilent = true) (fun _ _ => True) x) : x.through outer = x :=
  Program.through_of_asks h outer

end Action

namespace Channel

variable (inner outer : Channel)

/-- A block is put around the innermost of a row of blocks. -/
theorem wrap_append (modifiers : List AppliedModifier) :
    wrap modifiers (inner ++ outer) = wrap modifiers inner ++ outer := by
  unfold wrap
  split <;> rfl

theorem asks_silent_applyAll (ms : List AppliedModifier) (v : Value) :
    Program.Asks (fun q => q.isSilent = true) (fun _ _ => True) (applyAll ms v) := by
  induction ms generalizing v with
  | nil => exact trivial
  | cons m ms ih => exact Action.asks_bind ⟨rfl, fun _ _ => trivial⟩ ih

/-- A text that has come through the inner blocks goes on through the outer ones. -/
theorem write_append (text : String) :
    (inner ++ outer).write text = (inner.write text).through outer := by
  induction inner generalizing text with
  | nil => exact (Program.bind_pure _).symm
  | cons modifiers inner ih =>
    have hasks : Action.isHalted.through outer = Action.isHalted := rfl
    rw [List.cons_append, write_cons, write_cons, Action.through_bind, hasks]
    refine bind_congr fun halted => ?_
    -- a refused text and an empty one go no further on either side
    split
    · rfl
    split
    · rfl
    · rw [Action.through_bind, Action.through_of_asks outer (asks_silent_applyAll modifiers _)]
      exact bind_congr fun v => ih v.display

end Channel

/-! ## Parts of a step -/

section Parts

variable (outer : Channel)

/-- The passes of an iteration inside blocks are its passes, each of them inside the blocks. -/
theorem through_runEntries (body : Frame → Site → Action Unit) (base : Frame) (site : Site)
    (es : Entries) :
    (runEntries body base site es).through outer =
      runEntries (fun frame site => (body frame site).through outer) base site es := by
  fun_induction runEntries body base site es with
  | case1 es h =>
    rw [runEntries]
    split
    · rfl
    · next hsome => cases h.symm.trans hsome
  | case2 es p rest h ih =>
    rw [Action.through_bind, runEntries.eq_def _ base site es]
    split
    · next hnone => cases h.symm.trans hnone
    · next hsome =>
      cases h.symm.trans hsome
      exact bind_congr fun _ => ih

/-- A block in other blocks is handed over with a channel through all of them. -/
theorem runCustom_append (channel : Channel) (path : String) (frame : Frame) (site : Site)
    (bodies : List Scope) :
    runCustom (channel ++ outer) path frame site bodies =
      (runCustom channel path frame site bodies).through outer := by
  unfold runCustom
  split <;> rfl

/-- A template is included through all of them. -/
theorem runTemplate_append (channel : Channel) (name : String) (frame : Frame) (site : Site) :
    runTemplate (channel ++ outer) name frame site =
      (runTemplate channel name frame site).through outer := by
  have hasks : (Action.template name).through outer = Action.template name := rfl
  unfold runTemplate
  rw [Action.through_bind, hasks]
  rfl

theorem runFragment_append (fragment : Fragment) (channel : Channel) (data : Value)
    (site : Site) :
    runFragment fragment (channel ++ outer) data site =
      (runFragment fragment channel data site).through outer := by
  unfold runFragment
  rw [Channel.wrap_append]
  rfl

variable [Evaluator]

/-- The modifiers of an output write nothing. -/
theorem through_modifyAll (frame : Frame) (slots : List Value) (ms : List PendingModifier)
    (v : Value) :
    (modifyAll frame slots ms v).through outer = modifyAll frame slots ms v := by
  refine Action.through_of_asks outer ?_
  induction ms generalizing v with
  | nil => exact trivial
  | cons m ms ih =>
    refine Action.asks_bind (Action.asks_ofExcept _) fun m => ?_
    exact Action.asks_bind ⟨rfl, fun _ _ => trivial⟩ ih

theorem Call.through_runAll (frame : Frame) (site : Site) (cs : List Call)
    (slots : List Value) :
    (Call.runAll frame site cs slots).through outer = Call.runAll frame site cs slots :=
  Action.through_of_asks outer (Call.asks_runAll (fun _ _ _ => rfl) frame site cs slots)

theorem Head.through_tested (frame : Frame) (site : Site) (head : Head) (test : Option Test) :
    (head.tested frame site test).through outer = head.tested frame site test := by
  cases test with
  | none => rfl
  | some test =>
    unfold Head.tested
    rw [Action.through_bind, Call.through_runAll]
    refine bind_congr fun slots => ?_
    rw [Action.through_bind, Action.through_locate]
    rfl

/-- A directive inside blocks makes its calls as it does outside, and then does its work inside. -/
theorem Head.through_directive (frame : Frame) (site : Site) (head : Head)
    {work inside : List Value → Action Unit} (h : ∀ slots, inside slots = (work slots).through outer) :
    (do
      let slots ← Call.runAll frame site head.calls []
      (inside slots).locate head.position : Action Unit) =
      (do
        let slots ← Call.runAll frame site head.calls []
        (work slots).locate head.position : Action Unit).through outer := by
  rw [Action.through_bind, Call.through_runAll]
  refine bind_congr fun slots => ?_
  rw [Action.through_locate, h slots]

end Parts

/-! ## Scopes -/

variable [Evaluator]

mutual

/-- A step writes through the blocks around it as if it had been put through them afterwards. -/
theorem Step.run_append : ∀ (s : Step) (inner outer : Channel) (frame : Frame) (site : Site),
    s.run (inner ++ outer) frame site = (s.run inner frame site).through outer
  | .text s, inner, outer, frame, site => by
    rw [Step.run, Step.run]
    exact inner.write_append outer s
  | .output head value, inner, outer, frame, site => by
    rw [Step.run, Step.run]
    refine head.through_directive outer frame site fun slots => ?_
    rw [Action.through_bind]
    refine bind_congr fun v => ?_
    rw [Action.through_bind, through_modifyAll]
    exact bind_congr fun v => inner.write_append outer v.display
  | .choice alternatives, inner, outer, frame, site => by
    rw [Step.run, Step.run]
    exact runChoice_append alternatives inner outer frame site 0
  -- the collection is evaluated without writing, and each pass writes through the same blocks
  | .iterate head collection body, inner, outer, frame, site => by
    rw [Step.run, Step.run]
    refine head.through_directive outer frame site fun slots => ?_
    rw [Action.through_bind]
    refine bind_congr fun collection => ?_
    rw [Action.through_bind]
    refine bind_congr fun modifiers => ?_
    unfold runIteration
    rw [Action.through_bind, Channel.wrap_append]
    refine bind_congr fun es => ?_
    rw [through_runEntries]
    simp only [body.run_append]
  | .custom head path bodies, inner, outer, frame, site => by
    rw [Step.run, Step.run]
    refine head.through_directive outer frame site fun slots => ?_
    rw [Action.through_bind]
    refine bind_congr fun modifiers => ?_
    rw [Channel.wrap_append]
    exact runCustom_append outer _ path _ site bodies
  | .declare head name body, inner, outer, frame, site => by
    rw [Step.run, Step.run, Action.through_bind, Call.through_runAll]
    refine bind_congr fun slots => ?_
    rw [Head.declareNamed, Action.through_bind, Action.through_locate]
    rfl
  | .render head name, inner, outer, frame, site => by
    have hasks : (Action.resolve name).through outer = Action.resolve name := rfl
    rw [Step.run, Step.run]
    refine head.through_directive outer frame site fun slots => ?_
    rw [Action.through_bind, hasks]
    refine bind_congr fun found => ?_
    cases found with
    | none => rfl
    | some fragment =>
      rw [Action.through_bind]
      refine bind_congr fun modifiers => ?_
      rw [Channel.wrap_append]
      exact runFragment_append outer fragment _ _ site
  | .inclusion head name, inner, outer, frame, site => by
    rw [Step.run, Step.run]
    refine head.through_directive outer frame site fun slots => ?_
    have hname : (name.eval (frame.reroot site head.context) slots).through outer =
        name.eval (frame.reroot site head.context) slots := by
      cases name with
      | fixed name => rfl
      | computed formula =>
        refine Action.through_of_asks outer ?_
        exact Action.asks_bind (Action.asks_ofExcept _) fun _ => trivial
    rw [Action.through_bind, hname]
    refine bind_congr fun name => ?_
    rw [Action.through_bind]
    refine bind_congr fun modifiers => ?_
    rw [Channel.wrap_append]
    exact runTemplate_append outer _ name _ site

/-- So does a choice. -/
theorem runChoice_append : ∀ (as : List Alternative) (inner outer : Channel) (frame : Frame)
    (site : Site) (k : Nat), runChoice (inner ++ outer) frame site k as =
      (runChoice inner frame site k as).through outer
  | [], inner, outer, frame, site, k => by
    rw [runChoice, runChoice]
    rfl
  | .mk head test body :: as, inner, outer, frame, site, k => by
    rw [runChoice_cons, runChoice_cons, Action.through_bind, Head.through_tested]
    refine bind_congr fun holds => ?_
    split
    · unfold Head.take
      rw [Action.through_bind, Call.through_runAll]
      refine bind_congr fun slots => ?_
      rw [Action.through_bind, Action.through_locate]
      refine bind_congr fun modifiers => ?_
      rw [Channel.wrap_append]
      exact body.run_append _ outer _ _
    · exact runChoice_append as inner outer frame site (k + 1)

/-- A scope that is run inside blocks does what it does outside of them, and its texts go through
the blocks, the innermost first. -/
theorem Scope.run_append : ∀ (s : Scope) (inner outer : Channel) (frame : Frame) (site : Site),
    s.run (inner ++ outer) frame site = (s.run inner frame site).through outer
  | .mk steps, inner, outer, frame, site => by
    rw [Scope.run_mk, Scope.run_mk]
    exact runSteps_through steps inner outer frame site 0

theorem runSteps_through : ∀ (steps : List Step) (inner outer : Channel) (frame : Frame)
    (site : Site) (i : Nat), runSteps (inner ++ outer) frame site i steps =
      (runSteps inner frame site i steps).through outer
  | [], inner, outer, frame, site, i => by
    rw [runSteps, runSteps]
    rfl
  | s :: ss, inner, outer, frame, site, i => by
    rw [runSteps, runSteps, Action.through_bind, s.run_append]
    exact bind_congr fun _ => runSteps_through ss inner outer frame site (i + 1)

end

end Stencil
