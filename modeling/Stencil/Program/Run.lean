import Stencil.Program.Channel
import Stencil.Program.Entries
import Stencil.Scope.Layout

/-!
# Stencil.Program.Run — running scopes

The program of a scope runs its front and then its chain. A step of the chain makes its calls,
then does its work. Errors are placed at the directive that raised them, and one that has a
place keeps it. Each step knows its own site, and gives one to each call, alternative, pass
and body, so that whatever is made anew has an identity of its own.
-/

namespace Stencil

variable [Evaluator]

/-! ## Calls -/

namespace Call

/-- What is wanted of the result of the call. -/
def result (c : Call) (v : Value) : Value :=
  match c.property with
  | some path => (Frame.ofData v).lookup path
  | none => v

/-- Makes the call, with the results of earlier calls in `slots`. The function and its
arguments are looked up where the directive's context leads. -/
def run (c : Call) (frame : Frame) (site : Site) (slots : List Value) : Action Value := do
  let target := frame.reroot site c.context
  match target.lookup c.path with
  | .function f =>
    let args ← Action.ofExcept (c.args.mapM fun formula => Evaluator.eval formula target slots)
    return c.result (← Action.call f target args)
  | _ => throw (.notCallable c.path)

/-- Makes calls in order, each with the results of those before it. -/
def runAll (frame : Frame) (site : Site) : List Call → List Value → Action (List Value)
  | [], slots => return slots
  | c :: cs, slots => do
    let v ← (c.run frame (.call site slots.length) slots).locate c.position
    runAll frame site cs (slots ++ [v])

end Call

/-! ## Parts of a step -/

/-- The modifier with its arguments evaluated. -/
def PendingModifier.apply (m : PendingModifier) (frame : Frame) (slots : List Value) :
    Except RenderError AppliedModifier := do
  return ⟨m.name, ← m.args.mapM fun formula => Evaluator.eval formula frame slots⟩

/-- The modifiers of a directive with their arguments evaluated. -/
def Head.applied (head : Head) (frame : Frame) (slots : List Value) :
    Action (List AppliedModifier) :=
  Action.ofExcept (head.modifiers.mapM fun m => m.apply frame slots)

/-- Sends a value through modifiers, evaluating the arguments of each when its turn comes. -/
def modifyAll (frame : Frame) (slots : List Value) : List PendingModifier → Value → Action Value
  | [], v => return v
  | m :: ms, v => do
    let m ← Action.ofExcept (m.apply frame slots)
    modifyAll frame slots ms (← Action.modify m v)

/-- The name of the template to include. -/
def TemplateName.eval (name : TemplateName) (frame : Frame) (slots : List Value) :
    Action String :=
  match name with
  | fixed name => return name
  | computed formula => return (← Action.ofExcept (Evaluator.eval formula frame slots)).display

/-- The data of a named render over those of the declaration: members given at the render win,
and where it gives nothing the declared data stand. -/
def mergeData (given declared : Value) : Value :=
  match given, declared with
  | .object _ members, .object _ kept => .object .fresh (kept.putAll members.toList)
  | .undefined, declared | .null, declared => declared
  | given, _ => given

/-! ## Work shared by steps -/

/-- Runs the body for each pass, one after the other. -/
def runEntries (body : Frame → Site → Action Unit) (base : Frame) (site : Site) (es : Entries) :
    Action Unit :=
  match _h : es.next? with
  | none => return ()
  | some (p, rest) => do
    body (p.frame base site) (p.site site)
    runEntries body base site rest
termination_by es.size
decreasing_by
  have := Entries.next?_size _h
  omega

/-- Iterates over a collection. -/
def runIteration (collection : Value) (base : Frame) (site : Site)
    (body : Frame → Site → Action Unit) : Action Unit := do
  let es ← Action.ofExcept (Entries.ofValue collection)
  runEntries body base site es

/-- Hands a block to the function at a path; nothing happens if there is none. -/
def runCustom (channel : Channel) (path : String) (frame : Frame) (site : Site)
    (bodies : List Scope) : Action Unit :=
  match frame.lookup path with
  | .function f => Action.custom f ⟨channel, frame, site, bodies⟩
  | _ => return ()

/-- Renders a named fragment over these data. -/
def runFragment (fragment : Fragment) (channel : Channel) (data : Value) (site : Site) :
    Action Unit :=
  let inside := Site.part site 0
  Action.enter fragment.body (Channel.wrap fragment.modifiers channel)
    ((fragment.frame.push (mergeData data fragment.frame.data)).hold inside) inside

/-- Renders another template. -/
def runTemplate (channel : Channel) (name : String) (frame : Frame) (site : Site) :
    Action Unit := do
  let scope ← Action.template name
  Action.enter scope channel (frame.named name) (.part site 0)

/-! ## Runs of writes -/

/-- Writes pieces one after the other. An output sees the frame that `target` has for its place. -/
def runPieces (channel : Channel) (target : Nat → Frame) (slots : List Value) :
    List Piece → Action Unit
  | [] => return ()
  | .text s :: pieces => do
    channel.write s
    runPieces channel target slots pieces
  | .output place head value :: pieces => do
    Action.locate head.position do
      let v ← Action.ofExcept (Evaluator.eval value (target place) slots)
      let v ← modifyAll (target place) slots head.modifiers v
      channel.write v.display
    runPieces channel target slots pieces

/-- Writes a run: all its outputs see the context of the run. -/
def WriteRun.run (channel : Channel) (frame : Frame) (site : Site) (slots : List Value)
    (run : WriteRun) : Action Unit :=
  runPieces channel (fun place => frame.reroot (.step site place) run.context) slots run.pieces

/-! ## Parts of directives

What a directive does when its calls have been made and have given `slots`. -/

namespace Head

/-- Whether the test of a branch holds. -/
def holds (head : Head) (frame : Frame) (site : Site) (test : Option Test) (slots : List Value) :
    Action Bool :=
  match test with
  | none => return true
  | some test => do
    let v ← (Action.ofExcept
      (Evaluator.eval test.formula (frame.reroot site head.context) slots)).locate head.position
    return v.truthy

/-- The way that texts take inside a branch. -/
def inside (head : Head) (channel : Channel) (frame : Frame) (site : Site) (slots : List Value) :
    Action Channel := do
  let modifiers ← (head.applied (frame.reroot site head.context) slots).locate head.position
  return Channel.wrap modifiers channel

/-- Keeps a fragment, with the frame and the modifiers that it has here. -/
def declareNamed (head : Head) (frame : Frame) (site : Site) (name : String) (body : Scope)
    (slots : List Value) : Action Unit := do
  let target := frame.reroot site head.context
  let modifiers ← (head.applied target slots).locate head.position
  Action.declare name ⟨target, body, modifiers⟩

/-- Runs the body for each item of a collection. -/
def iterate (head : Head) (channel : Channel) (frame : Frame) (site : Site)
    (collection : Formula) (body : Channel → Frame → Site → Action Unit) (slots : List Value) :
    Action Unit :=
  Action.locate head.position do
    let target := frame.reroot site head.context
    let collection ← Action.ofExcept (Evaluator.eval collection target slots)
    let channel := Channel.wrap (← head.applied target slots) channel
    runIteration collection target site (body channel)

/-- Hands the bodies to a function. -/
def invokeCustom (head : Head) (channel : Channel) (frame : Frame) (site : Site) (path : String)
    (bodies : List Scope) (slots : List Value) : Action Unit :=
  Action.locate head.position do
    let target := frame.reroot site head.context
    let channel := Channel.wrap (← head.applied target slots) channel
    runCustom channel path target site bodies

/-- Renders the fragment that was kept last under the name, if there is one. -/
def renderNamed (head : Head) (channel : Channel) (frame : Frame) (site : Site) (name : String)
    (slots : List Value) : Action Unit :=
  Action.locate head.position do
    let target := frame.reroot site head.context
    match ← Action.resolve name with
    | none => return ()
    | some fragment =>
      let channel := Channel.wrap (← head.applied target slots) channel
      runFragment fragment channel target.data site

/-- Renders another template. -/
def renderPartial (head : Head) (channel : Channel) (frame : Frame) (site : Site)
    (name : TemplateName) (slots : List Value) : Action Unit :=
  Action.locate head.position do
    let target := frame.reroot site head.context
    let name ← name.eval target slots
    let channel := Channel.wrap (← head.applied target slots) channel
    runTemplate channel name target site

end Head

/-! ## Steps that never wait -/

mutual

/-- Runs a step that never waits, in the scope at this site. -/
def SyncStep.run (channel : Channel) (frame : Frame) (site : Site) (slots : List Value) :
    SyncStep → Action Unit
  | .write run => run.run channel frame site slots
  | .choice place arms => runSyncArms channel frame (.step site place) 0 arms
  | .declare place head name body =>
    head.declareNamed frame (.step site place) name body slots

/-- Runs the first branch that holds, the first of these being the branch with number `k`. No calls
are made, and of the body nothing but the front is run. -/
def runSyncArms (channel : Channel) (frame : Frame) (site : Site) (k : Nat) :
    List Arm → Action Unit
  | [] => return ()
  | .mk head test body :: arms => do
    let inside := Site.part site k
    if ← head.holds frame inside test [] then
      let channel ← head.inside channel frame inside []
      body.runFront channel (frame.reroot inside head.context) inside
    else runSyncArms channel frame site (k + 1) arms

/-- Runs the front of a scope. -/
def Layout.runFront (channel : Channel) (frame : Frame) (site : Site) : Layout → Action Unit
  | .mk front _ => runSyncSteps channel frame site front

/-- Runs steps that never wait, one after the other. -/
def runSyncSteps (channel : Channel) (frame : Frame) (site : Site) :
    List SyncStep → Action Unit
  | [] => return ()
  | s :: ss => do
    s.run channel frame site []
    runSyncSteps channel frame site ss

end

/-! ## Scopes -/

mutual

/-- Runs a step of the chain at its place, its calls having been made. -/
def Stage.execute (channel : Channel) (frame : Frame) (site : Site) (place : Nat)
    (slots : List Value) : Stage → Action Unit
  | .sync step => step.run channel frame site slots
  | .choice arms => runArms channel frame (.step site place) 0 arms
  | .iterate head collection body =>
    head.iterate channel frame (.step site place) collection
      (fun channel frame site => body.run channel frame site) slots
  | .custom head path bodies =>
    head.invokeCustom channel frame (.step site place) path bodies slots
  | .render head name => head.renderNamed channel frame (.step site place) name slots
  | .inclusion head name => head.renderPartial channel frame (.step site place) name slots

/-- Runs the first branch that holds, the first of these being the branch with number `k`. The
calls of a test are made when the branch is reached, those of its modifiers when it is taken. -/
def runArms (channel : Channel) (frame : Frame) (site : Site) (k : Nat) :
    List Arm → Action Unit
  | [] => return ()
  | .mk head test body :: arms => do
    let inside := Site.part site k
    let slots ← Call.runAll frame inside (test.elim [] Test.calls) []
    if ← head.holds frame inside test slots then
      let slots ← Call.runAll frame (.part inside 0) head.calls []
      let channel ← head.inside channel frame inside slots
      body.run channel (frame.reroot inside head.context) inside
    else runArms channel frame site (k + 1) arms

/-- Runs a scope: its front, then its chain. -/
def Layout.run (channel : Channel) (frame : Frame) (site : Site) : Layout → Action Unit
  | .mk front chain => do
    runSyncSteps channel frame site front
    runChain channel frame site chain

/-- Runs the steps of a chain one after the other, each when its calls have been made. -/
def runChain (channel : Channel) (frame : Frame) (site : Site) : List Staged → Action Unit
  | [] => return ()
  | .mk place calls stage :: rest => do
    let slots ← Call.runAll frame (.step site place) calls []
    stage.execute channel frame site place slots
    runChain channel frame site rest

end

/-- Runs a scope from its first step to its last. -/
def Scope.run (channel : Channel) (frame : Frame) (site : Site) (scope : Scope) : Action Unit :=
  scope.layout.run channel frame site

end Stencil
