import Stencil.Program.Run
import Stencil.Proofs.Program.Laws
import Stencil.Proofs.Scope.Layout

/-!
# Stencil.Proofs.Program.Order — laid out scopes run in the order of the template

A scope is run in the way in which it was laid out, with its writes gathered in runs and cut into
a front and a chain. Here the same is said without a layout: each step makes its calls and does its
work (`Step.run`), one after the other (`runSteps`), and of a choice the first branch that holds is
run (`runChoice`). Running a scope comes to that (`Scope.run_mk`), its front to the steps before the
first one that may have to wait (`Scope.runFront_layout`), its chain to all others
(`Scope.runChain_layout`).

Each of the builder's doings adds the program of one step to what has been laid out so far, and
nothing else (`Builder.Adds`). Most of the proofs about running scopes go by the order of the
template from here on.
-/

namespace Stencil

variable [Evaluator]

/-! ## Steps in order -/

/-- Makes the calls of a test and says whether it holds. -/
def Head.tested (frame : Frame) (site : Site) (head : Head) (test : Option Test) : Action Bool :=
  match test with
  | none => return true
  | some test => do
    let slots ← Call.runAll frame site test.calls []
    let v ← (Action.ofExcept
      (Evaluator.eval test.formula (frame.reroot site head.context) slots)).locate head.position
    return v.truthy

/-- Makes the calls of the modifiers of a branch that is taken, and runs its body. -/
def Head.take (channel : Channel) (frame : Frame) (site : Site) (head : Head) (body : Scope) :
    Action Unit := do
  let slots ← Call.runAll frame (.part site 0) head.calls []
  let modifiers ← (head.applied (frame.reroot site head.context) slots).locate head.position
  body.run (Channel.wrap modifiers channel) (frame.reroot site head.context) site

/-- Runs the first branch that holds, the first of these being the branch with number `k`. -/
def runChoice (channel : Channel) (frame : Frame) (site : Site) (k : Nat) :
    List Alternative → Action Unit
  | [] => return ()
  | .mk head test body :: others => do
    if ← head.tested frame (.part site k) test then
      head.take channel frame (.part site k) body
    else runChoice channel frame site (k + 1) others

/-- Runs one step. -/
def Step.run (channel : Channel) (frame : Frame) (site : Site) : Step → Action Unit
  | .text s => channel.write s
  | .output head value => do
    let slots ← Call.runAll frame site head.calls []
    Action.locate head.position do
      let target := frame.reroot site head.context
      let v ← Action.ofExcept (Evaluator.eval value target slots)
      let v ← modifyAll target slots head.modifiers v
      channel.write v.display
  | .choice alternatives => runChoice channel frame site 0 alternatives
  | .iterate head collection body => do
    let slots ← Call.runAll frame site head.calls []
    head.iterate channel frame site collection
      (fun channel frame site => body.run channel frame site) slots
  | .custom head path bodies => do
    let slots ← Call.runAll frame site head.calls []
    head.invokeCustom channel frame site path bodies slots
  | .declare head name body => do
    let slots ← Call.runAll frame site head.calls []
    head.declareNamed frame site name body slots
  | .render head name => do
    let slots ← Call.runAll frame site head.calls []
    head.renderNamed channel frame site name slots
  | .inclusion head name => do
    let slots ← Call.runAll frame site head.calls []
    head.renderPartial channel frame site name slots

/-- Runs steps one after the other, the first of them being the step with number `i`. -/
def runSteps (channel : Channel) (frame : Frame) (site : Site) (i : Nat) :
    List Step → Action Unit
  | [] => return ()
  | s :: ss => do
    s.run channel frame (.step site i)
    runSteps channel frame site (i + 1) ss

/-- Steps in a row run one after the other, and keep counting. -/
theorem runSteps_append (channel : Channel) (frame : Frame) (site : Site) (i : Nat)
    (ss ts : List Step) :
    runSteps channel frame site i (ss ++ ts) =
      (runSteps channel frame site i ss >>= fun _ =>
        runSteps channel frame site (i + ss.length) ts) := by
  induction ss generalizing i with
  | nil => rfl
  | cons s ss ih =>
    rw [List.cons_append, runSteps, runSteps, bind_assoc]
    refine bind_congr fun _ => ?_
    rw [ih (i + 1), List.length_cons, Nat.add_assoc, Nat.add_comm 1]

/-! ## Lists of pieces, of steps of the front, and of the chain -/

section Lists

variable (channel : Channel) (frame : Frame) (site : Site)

/-- Pieces in a row are written one after the other. -/
theorem runPieces_append (target : Nat → Frame) (slots : List Value) (ps qs : List Piece) :
    runPieces channel target slots (ps ++ qs) =
      (runPieces channel target slots ps >>= fun _ => runPieces channel target slots qs) := by
  induction ps with
  | nil => rfl
  | cons p ps ih =>
    cases p with
    | text s =>
      rw [List.cons_append, runPieces, runPieces, bind_assoc]
      exact bind_congr fun _ => ih
    | output place head value =>
      rw [List.cons_append, runPieces, runPieces, bind_assoc]
      exact bind_congr fun _ => ih

/-- Where there is no output among the pieces, nobody looks at the frames. -/
theorem runPieces_congr {ps : List Piece} (h : ps.any Piece.isOutput = false)
    (target target' : Nat → Frame) (slots : List Value) :
    runPieces channel target slots ps = runPieces channel target' slots ps := by
  induction ps with
  | nil => rfl
  | cons p ps ih =>
    cases p with
    | text s =>
      rw [runPieces, runPieces]
      exact bind_congr fun _ => ih h
    | output place head value => cases h

/-- Steps of the front run one after the other. -/
theorem runSyncSteps_append (ss ts : List SyncStep) :
    runSyncSteps channel frame site (ss ++ ts) =
      (runSyncSteps channel frame site ss >>= fun _ => runSyncSteps channel frame site ts) := by
  induction ss with
  | nil => rfl
  | cons s ss ih =>
    rw [List.cons_append, runSyncSteps, runSyncSteps, bind_assoc]
    exact bind_congr fun _ => ih

theorem runChain_append (ss ts : List Staged) :
    runChain channel frame site (ss ++ ts) =
      (runChain channel frame site ss >>= fun _ => runChain channel frame site ts) := by
  induction ss with
  | nil => rfl
  | cons s ss ih =>
    obtain ⟨place, calls, stage⟩ := s
    rw [List.cons_append, runChain, runChain, bind_assoc]
    refine bind_congr fun slots => ?_
    rw [bind_assoc]
    exact bind_congr fun _ => ih

end Lists

/-! ## Choices -/

/-- A test makes its calls first, if it has any. -/
theorem Head.tested_eq (head : Head) (frame : Frame) (site : Site) (test : Option Test) :
    head.tested frame site test =
      (Call.runAll frame site (test.elim [] Test.calls) [] >>= head.holds frame site test) := by
  cases test with
  | none => rfl
  | some test => rfl

/-- The modifiers of a branch are part of the way that texts take inside it. -/
theorem Head.inside_bind (head : Head) (channel : Channel) (frame : Frame) (site : Site)
    (slots : List Value) (body : Channel → Action Unit) :
    (head.inside channel frame site slots >>= body) =
      ((head.applied (frame.reroot site head.context) slots).locate head.position >>=
        fun modifiers => body (Channel.wrap modifiers channel)) := by
  rw [Head.inside, bind_assoc]
  exact bind_congr fun modifiers => pure_bind _ _

/-- The arms of a choice are tried as its alternatives are. -/
theorem runArms_layoutArms (channel : Channel) (frame : Frame) (site : Site) (k : Nat)
    (alternatives : List Alternative) :
    runArms channel frame site k (layoutArms alternatives) =
      runChoice channel frame site k alternatives := by
  induction alternatives generalizing k with
  | nil => rfl
  | cons a others ih =>
    obtain ⟨head, test, body⟩ := a
    rw [layoutArms, runArms, runChoice, Head.tested_eq, bind_assoc]
    refine bind_congr fun slots => bind_congr fun holds => ?_
    split
    · exact bind_congr fun slots => head.inside_bind channel frame _ slots _
    · exact ih (k + 1)

/-- A scope that never waits is its front. -/
theorem Scope.run_of_isImmediate {s : Scope} (h : s.isImmediate = true) (channel : Channel)
    (frame : Frame) (site : Site) :
    s.layout.runFront channel frame site = s.run channel frame site := by
  have hchain : s.layout.chain = [] := by
    have hsync : s.isAsync = false := by rw [s.isAsync_eq, h, Bool.not_true]
    rw [Scope.isAsync, Layout.isAsync, Bool.not_eq_false', List.isEmpty_iff] at hsync
    exact hsync
  unfold Scope.run
  generalize s.layout = layout at hchain ⊢
  obtain ⟨front, chain⟩ := layout
  obtain rfl : chain = [] := hchain
  rw [Layout.runFront, Layout.run, runChain]
  exact (bind_pure _).symm

/-- Of branches that neither make calls nor wait, the fronts of the bodies are all there is. -/
theorem runSyncArms_layoutArms {alternatives : List Alternative}
    (h : allImmediate alternatives = true) (channel : Channel) (frame : Frame) (site : Site)
    (k : Nat) :
    runSyncArms channel frame site k (layoutArms alternatives) =
      runChoice channel frame site k alternatives := by
  induction alternatives generalizing k with
  | nil => rfl
  | cons a others ih =>
    obtain ⟨head, test, body⟩ := a
    rw [allImmediate, Alternative.isImmediate.eq_def, Bool.and_eq_true, Bool.and_eq_true,
      Bool.and_eq_true] at h
    obtain ⟨⟨⟨hcalls, htest⟩, hbody⟩, hothers⟩ := h
    -- an immediate alternative makes no calls, neither in its test nor in its head
    have hnone : test.elim [] Test.calls = [] := by
      cases test with
      | none => rfl
      | some test => exact List.isEmpty_iff.1 htest
    rw [layoutArms, runSyncArms, runChoice, Head.tested_eq, hnone, Head.take,
      List.isEmpty_iff.1 hcalls]
    refine bind_congr fun holds => ?_
    split
    · refine (head.inside_bind channel frame _ [] _).trans (bind_congr fun modifiers => ?_)
      exact Scope.run_of_isImmediate hbody _ _ _
    · exact ih hothers (k + 1)

/-! ## The builder -/

namespace Builder

section Programs

variable (b : Builder) (channel : Channel) (frame : Frame) (site : Site)

/-- What the open run writes. -/
def runOpen : Action Unit :=
  match b.run with
  | some run => run.run channel frame site []
  | none => return ()

/-- What the front does, with the open run if that will be closed into it. -/
def runFront : Action Unit := do
  runSyncSteps channel frame site b.front
  if b.chain.isEmpty then b.runOpen channel frame site else return ()

/-- What the chain does, with the open run if that will be closed into it. -/
def runBack : Action Unit := do
  runChain channel frame site b.chain
  if b.chain.isEmpty then return () else b.runOpen channel frame site

end Programs

/-- Whether `b'` is `b` with a step behind all others that does this, in the front if that is where
the step belongs, and in the chain if not. -/
structure Adds (b b' : Builder) (immediate : Bool)
    (step : Channel → Frame → Site → Action Unit) : Prop where
  isEmpty_chain : b'.chain.isEmpty = (b.chain.isEmpty && immediate)
  runFront_eq : ∀ channel frame site, b'.runFront channel frame site =
    (b.runFront channel frame site >>= fun _ =>
      if b'.chain.isEmpty then step channel frame site else return ())
  runBack_eq : ∀ channel frame site, b'.runBack channel frame site =
    (b.runBack channel frame site >>= fun _ =>
      if b'.chain.isEmpty then return () else step channel frame site)

variable {b b' : Builder} {immediate : Bool} {step : Channel → Frame → Site → Action Unit}

/-- What a step does may be put differently. -/
theorem Adds.congr (h : b.Adds b' immediate step)
    {step' : Channel → Frame → Site → Action Unit}
    (hstep : ∀ channel frame site, step channel frame site = step' channel frame site) :
    b.Adds b' immediate step' := by
  obtain rfl : step = step' := by
    funext channel frame site
    exact hstep channel frame site
  exact h

/-- A step that joins the open run is behind all others, wherever the run will be closed into. -/
theorem Adds.of_runOpen (hfront : b'.front = b.front) (hchain : b'.chain = b.chain)
    (hopen : ∀ channel frame site, b'.runOpen channel frame site =
      (b.runOpen channel frame site >>= fun _ => step channel frame site)) :
    b.Adds b' true step where
  isEmpty_chain := by rw [hchain, Bool.and_true]
  runFront_eq channel frame site := by
    unfold runFront
    rw [hfront, hchain, hopen, bind_assoc]
    refine bind_congr fun _ => ?_
    split
    · rfl
    · rfl
  runBack_eq channel frame site := by
    unfold runBack
    rw [hchain, hopen, bind_assoc]
    refine bind_congr fun _ => ?_
    split
    · rfl
    · rfl

/-! ### Steps behind a closed run -/

/-- When no run is open, the front is what has been placed in it. -/
theorem runFront_of_closed (hrun : b.run = none) (channel : Channel) (frame : Frame)
    (site : Site) :
    b.runFront channel frame site = runSyncSteps channel frame site b.front := by
  unfold runFront runOpen
  rw [hrun, ite_self]
  exact bind_pure _

/-- When no run is open, so is the chain. -/
theorem runBack_of_closed (hrun : b.run = none) (channel : Channel) (frame : Frame)
    (site : Site) :
    b.runBack channel frame site = runChain channel frame site b.chain := by
  unfold runBack runOpen
  rw [hrun, ite_self]
  exact bind_pure _

/-- A step of the chain makes its calls first. -/
theorem adds_staged (hrun : b.run = none) (calls : List Call) (stage : Stage) :
    b.Adds { b with chain := b.chain ++ [.mk b.next calls stage] } false
      fun channel frame site =>
        Call.runAll frame (.step site b.next) calls [] >>= fun slots =>
          stage.execute channel frame site b.next slots where
  isEmpty_chain := by simp
  runFront_eq channel frame site := by
    rw [runFront_of_closed hrun, runFront_of_closed (by exact hrun)]
    simp
  runBack_eq channel frame site := by
    rw [runBack_of_closed hrun, runBack_of_closed (by exact hrun), runChain_append]
    simp [runChain]

/-- A step that is placed runs last. -/
theorem adds_place (hrun : b.run = none) (s : SyncStep) :
    b.Adds (b.place s) true fun channel frame site => s.run channel frame site [] := by
  unfold place
  -- before the first asynchronous step it joins the front, and after it the chain
  split
  · next hempty =>
    refine ⟨(Bool.and_true _).symm, fun channel frame site => ?_, fun channel frame site => ?_⟩
    · rw [runFront_of_closed hrun, runFront_of_closed (by exact hrun), runSyncSteps_append,
        if_pos hempty]
      simp [runSyncSteps]
    · rw [runBack_of_closed hrun, runBack_of_closed (by exact hrun), if_pos hempty]
      exact (bind_pure _).symm
  · next hchain =>
    have hstaged := adds_staged hrun [] (.sync s)
    rw [Bool.not_eq_true] at hchain
    refine ⟨by rw [hstaged.isEmpty_chain, hchain, Bool.false_and, Bool.false_and], ?_, ?_⟩
    · intro channel frame site
      rw [hstaged.runFront_eq, hstaged.isEmpty_chain, Bool.and_false]
      rfl
    · intro channel frame site
      rw [hstaged.runBack_eq, hstaged.isEmpty_chain, Bool.and_false]
      rfl

/-! ### Closing the run -/

/-- Closing the open run leaves what the builder does as it was: it is put where it would have been
put in the end. -/
theorem runFront_flush (b : Builder) (channel : Channel) (frame : Frame) (site : Site) :
    b.flush.runFront channel frame site = b.runFront channel frame site := by
  have hempty := b.isEmpty_chain_flush
  unfold flush at hempty ⊢
  split at hempty
  · next run hrun =>
    rw [(adds_place rfl _).runFront_eq, runFront_of_closed rfl, hempty, runFront, runOpen, hrun]
    rfl
  · rfl

/-- Closing the open run changes nothing in what is going to run. -/
theorem runBack_flush (b : Builder) (channel : Channel) (frame : Frame) (site : Site) :
    b.flush.runBack channel frame site = b.runBack channel frame site := by
  have hempty := b.isEmpty_chain_flush
  unfold flush at hempty ⊢
  split at hempty
  · next run hrun =>
    rw [(adds_place rfl _).runBack_eq, runBack_of_closed rfl, hempty, runBack, runOpen, hrun]
    rfl
  · rfl

/-- A step may as well be added when the open run has been closed. -/
theorem Adds.of_flush (h : b.flush.Adds b' immediate step) : b.Adds b' immediate step where
  isEmpty_chain := by rw [h.isEmpty_chain, isEmpty_chain_flush]
  runFront_eq channel frame site := by rw [h.runFront_eq, runFront_flush]
  runBack_eq channel frame site := by rw [h.runBack_eq, runBack_flush]

/-! ### One step of each kind -/

/-- A step that never waits is put behind all others, with its calls in front of it. -/
theorem adds_pushSync (b : Builder) (s : SyncStep) (calls : List Call) :
    b.Adds (b.pushSync s calls) calls.isEmpty fun channel frame site =>
      Call.runAll frame (.step site b.next) calls [] >>= fun slots =>
        s.run channel frame site slots := by
  refine Adds.of_flush ?_
  unfold pushSync
  cases calls with
  | nil => exact adds_place b.run_flush s
  | cons c cs =>
    have hstaged := adds_staged b.run_flush (c :: cs) (.sync s)
    simp only [next_flush] at hstaged ⊢
    exact hstaged

/-- An asynchronous step makes its calls and is then carried out. -/
theorem adds_pushAsync (b : Builder) (stage : Stage) (calls : List Call) :
    b.Adds (b.pushAsync stage calls) false fun channel frame site =>
      Call.runAll frame (.step site b.next) calls [] >>= fun slots =>
        stage.execute channel frame site b.next slots := by
  refine Adds.of_flush ?_
  unfold pushAsync
  simpa only [next_flush] using adds_staged b.run_flush calls stage

/-- What the open run writes if nothing has been written in it yet is nothing. -/
theorem runOpen_eq (b : Builder) (channel : Channel) (frame : Frame) (site : Site) :
    b.runOpen channel frame site = (b.run.getD {}).run channel frame site [] := by
  unfold runOpen
  cases b.run with
  | none => rfl
  | some run => rfl

/-- A text is added to the open run. -/
theorem adds_text (b : Builder) (s : String) :
    b.Adds (b.text s) true fun channel _ _ => channel.write s := by
  refine Adds.of_runOpen rfl rfl fun channel frame site => ?_
  rw [runOpen_eq, runOpen_eq, text, Option.getD_some, WriteRun.run, runPieces_append]
  refine bind_congr fun _ => ?_
  rw [runPieces, runPieces]
  exact bind_pure _

/-- An output without calls sees the context of the run that it joins: this is its own, and that of
the outputs which are in the run already, if there are any. -/
theorem adds_joined (b : Builder) {head : Head} (value : Formula) (place : Nat)
    (hcalls : head.calls = [])
    (hcontext : b.run.any (fun run => run.hasOutput && run.context != head.context) = false) :
    b.Adds { b with run := some ⟨head.context, (b.run.getD {}).pieces ++ [.output place head value]⟩ }
      true fun channel frame site =>
        (Step.output head value).run channel frame (.step site place) := by
  refine Adds.of_runOpen rfl rfl fun channel frame site => ?_
  have hpieces : runPieces channel (fun place => frame.reroot (.step site place) head.context) []
      (b.run.getD {}).pieces = b.runOpen channel frame site := by
    unfold runOpen
    -- an open run with outputs has their context, and one without has none to keep to
    cases hrun : b.run with
    | none => rfl
    | some run =>
      rw [hrun, Option.any_some, Bool.and_eq_false_iff] at hcontext
      obtain hnone | hsame := hcontext
      · exact runPieces_congr channel hnone _ _ []
      · rw [bne_eq_false_iff_eq] at hsame
        dsimp only [Option.getD_some]
        rw [WriteRun.run, hsame]
  rw [← hpieces]
  show runPieces channel _ [] (_ ++ [_]) = _
  rw [runPieces_append]
  refine bind_congr fun _ => ?_
  rw [Step.run, hcalls, runPieces, runPieces]
  exact bind_pure _

/-- An output without calls joins the open run, if that has its context; any other begins a new one,
or is a step of its own. -/
theorem adds_output (b : Builder) (head : Head) (value : Formula) :
    b.Adds (b.output head value) head.calls.isEmpty fun channel frame site =>
      (Step.output head value).run channel frame (.step site b.next) := by
  unfold output
  split
  · next hcalls =>
    rw [hcalls]
    rw [List.isEmpty_iff] at hcalls
    dsimp only
    split
    · -- the open run has another context, so that a new one begins
      have hclosed : b.flush.run.any
          (fun run => run.hasOutput && run.context != head.context) = false := by
        rw [b.run_flush]
        rfl
      rw [← b.next_flush]
      exact Adds.of_flush (b.flush.adds_joined value b.flush.next hcalls hclosed)
    · next hcontext =>
      rw [Bool.not_eq_true] at hcontext
      exact b.adds_joined value b.next hcalls hcontext
  · refine (b.adds_pushSync _ head.calls).congr fun channel frame site => ?_
    rw [Step.run]
    refine bind_congr fun slots => ?_
    rw [SyncStep.run, WriteRun.run, runPieces, runPieces]
    exact bind_pure _

/-- A choice is a step of the front if all its alternatives are immediate. -/
theorem adds_choice (b : Builder) (alternatives : List Alternative) :
    b.Adds (b.choice (layoutArms alternatives)) (allImmediate alternatives)
      fun channel frame site => runChoice channel frame (.step site b.next) 0 alternatives := by
  unfold choice
  rw [any_layoutArms]
  cases himmediate : allImmediate alternatives with
  | false =>
    refine (b.adds_pushAsync (.choice (layoutArms alternatives)) []).congr ?_
    intro channel frame site
    exact runArms_layoutArms channel frame _ 0 alternatives
  | true =>
    refine (b.adds_pushSync (.choice b.next (layoutArms alternatives)) []).congr ?_
    intro channel frame site
    exact runSyncArms_layoutArms himmediate channel frame _ 0

/-- Whatever the step, the program of the builder goes on with that of the step. -/
theorem adds_add (b : Builder) (s : Step) :
    b.Adds (b.add s) s.isImmediate fun channel frame site =>
      s.run channel frame (.step site b.next) := by
  cases s with
  | text s => exact b.adds_text s
  | output head value => exact b.adds_output head value
  | choice alternatives => exact b.adds_choice alternatives
  | iterate head collection body => exact b.adds_pushAsync _ head.calls
  | custom head path bodies => exact b.adds_pushAsync _ head.calls
  | declare head name body => exact b.adds_pushSync _ head.calls
  | render head name => exact b.adds_pushAsync _ head.calls
  | inclusion head name => exact b.adds_pushAsync _ head.calls

/-! ### All steps -/

/-- Whether the builder has laid out these steps: those before the first one that may have to wait
in the front, all others in the chain, each in the order of the template. -/
structure LaysOut (b : Builder) (steps : List Step) : Prop where
  next_eq : b.next = steps.length
  isEmpty_chain : b.chain.isEmpty = steps.all Step.isImmediate
  runFront_eq : ∀ channel frame site, b.runFront channel frame site =
    runSteps channel frame site 0 (steps.takeWhile Step.isImmediate)
  runBack_eq : ∀ channel frame site, b.runBack channel frame site =
    runSteps channel frame site (steps.takeWhile Step.isImmediate).length
      (steps.dropWhile Step.isImmediate)

theorem laysOut_nil : LaysOut {} [] where
  next_eq := rfl
  isEmpty_chain := rfl
  runFront_eq _ _ _ := rfl
  runBack_eq _ _ _ := rfl

/-- The last step runs last. -/
theorem runSteps_concat (channel : Channel) (frame : Frame) (site : Site) (i : Nat)
    (steps : List Step) (s : Step) :
    runSteps channel frame site i (steps ++ [s]) =
      (runSteps channel frame site i steps >>= fun _ =>
        s.run channel frame (.step site (i + steps.length))) := by
  rw [runSteps_append]
  refine bind_congr fun _ => ?_
  rw [runSteps, runSteps]
  exact bind_pure _

variable {steps : List Step}

/-- With each step that is added, the layout is one of a step more. -/
theorem LaysOut.add (h : b.LaysOut steps) (s : Step) :
    (b.add s).advance.LaysOut (steps ++ [s]) := by
  have hadds := b.adds_add s
  rw [h.next_eq] at hadds
  have hempty : (b.add s).chain.isEmpty = (steps.all Step.isImmediate && s.isImmediate) := by
    rw [hadds.isEmpty_chain, h.isEmpty_chain]
  refine ⟨?_, ?_, fun channel frame site => ?_, fun channel frame site => ?_⟩
  · rw [advance, List.length_append, b.next_add, h.next_eq]
    rfl
  · rw [List.all_append, List.all_cons, List.all_nil, Bool.and_true]
    exact hempty
  · refine (hadds.runFront_eq channel frame site).trans ?_
    rw [h.runFront_eq, hempty, takeWhile_isImmediate_concat]
    -- the step belongs to the front if it is immediate and all before it are
    cases hboth : steps.all Step.isImmediate && s.isImmediate with
    | true =>
      have hall : steps.takeWhile Step.isImmediate = steps :=
        List.takeWhile_eq_self_iff.2 (List.all_eq_true.1 (Bool.and_eq_true_iff.1 hboth).1)
      rw [if_pos rfl, if_pos rfl, runSteps_concat, hall, Nat.zero_add]
    | false =>
      rw [if_neg Bool.false_ne_true, if_neg Bool.false_ne_true, List.append_nil]
      exact bind_pure _
  · refine (hadds.runBack_eq channel frame site).trans ?_
    rw [h.runBack_eq, hempty, takeWhile_isImmediate_concat, dropWhile_isImmediate_concat]
    cases hboth : steps.all Step.isImmediate && s.isImmediate with
    | true =>
      have hnone : steps.dropWhile Step.isImmediate = [] :=
        List.dropWhile_eq_nil_iff.2 (List.all_eq_true.1 (Bool.and_eq_true_iff.1 hboth).1)
      rw [hnone]
      rfl
    | false =>
      -- the step stands behind those of the front and those that are in the chain already
      have hlength : (steps.takeWhile Step.isImmediate).length +
          (steps.dropWhile Step.isImmediate).length = steps.length := by
        rw [← List.length_append, List.takeWhile_append_dropWhile]
      rw [if_neg Bool.false_ne_true, if_neg Bool.false_ne_true, if_neg Bool.false_ne_true,
        List.append_nil, runSteps_concat, hlength]

/-- Steps that are added one after the other are laid out in this order. -/
theorem LaysOut.addAll (h : b.LaysOut steps) (more : List Step) :
    (b.addAll more).LaysOut (steps ++ more) := by
  induction more generalizing b steps with
  | nil =>
    rw [Builder.addAll, List.append_nil]
    exact h
  | cons s more ih =>
    rw [Builder.addAll, List.append_cons]
    exact ih (h.add s)

end Builder

/-! ## Scopes -/

namespace Scope

variable (s : Scope) (channel : Channel) (frame : Frame) (site : Site)

/-- The front of a scope runs the steps before the first one that may have to wait. -/
theorem runFront_layout :
    s.layout.runFront channel frame site = runSteps channel frame site 0 s.now := by
  obtain ⟨steps⟩ := s
  have hsteps := Builder.laysOut_nil.addAll steps
  rw [layout, Builder.finish, Layout.runFront, ← Builder.runFront_of_closed (Builder.run_flush _),
    Builder.runFront_flush, hsteps.runFront_eq]
  rfl

/-- The chain of a scope runs the steps from the first one on that may have to wait. -/
theorem runChain_layout :
    runChain channel frame site s.layout.chain =
      runSteps channel frame site s.now.length s.later := by
  obtain ⟨steps⟩ := s
  have hsteps := Builder.laysOut_nil.addAll steps
  rw [layout, Builder.finish, Layout.chain, ← Builder.runBack_of_closed (Builder.run_flush _),
    Builder.runBack_flush, hsteps.runBack_eq]
  rfl

/-- However a scope has been laid out, its steps run one after the other as they stand in the
template. -/
theorem run_mk (steps : List Step) :
    Scope.run channel frame site (.mk steps) = runSteps channel frame site 0 steps := by
  have hrun : Scope.run channel frame site (.mk steps) =
      ((Scope.mk steps).layout.runFront channel frame site >>= fun _ =>
        runChain channel frame site (Scope.mk steps).layout.chain) := by
    rw [Scope.run]
    generalize (Scope.mk steps).layout = layout
    obtain ⟨front, chain⟩ := layout
    rfl
  rw [hrun, runFront_layout, runChain_layout, ← Nat.zero_add (Scope.now (.mk steps)).length,
    ← runSteps_append, now_append_later]
  rfl

end Scope

end Stencil
