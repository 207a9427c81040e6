import Stencil.Scope.Basic

/-!
# Stencil.Scope.Layout — scopes laid out to be run

A scope is run in two parts. The front runs at once when the scope is started; the chain, from
the first step on that may have to wait or that makes calls, runs when the started scope is
awaited, each step after the calls that it needs.

`Scope.layout` lays a scope out in one pass over its steps. Texts, and outputs without calls in
one context, collect in a run of writes that stays open until something else comes
(`Builder.flush`). A step is put into the front as long as the chain is empty, and into the
chain from then on (`Builder.place`). Each keeps the number it has in the template, its place,
so what is made anew on the way is known by the same site wherever the step ends up.
-/

namespace Stencil

/-! ## Parts of a layout -/

/-- A part of a run of writes. -/
inductive Piece where
  | text (s : String)
  /-- The value of an output directive, sent through its modifiers. -/
  | output (place : Nat) (head : Head) (value : Formula)

/-- Whether the piece is that of an output directive. -/
def Piece.isOutput : Piece → Bool
  | text _ => false
  | output .. => true

/-- Texts and outputs side by side, all in one context. -/
structure WriteRun where
  context : Option String := none
  pieces : List Piece := []

/-- Whether an output directive is among the pieces, so that the context is taken. -/
def WriteRun.hasOutput (run : WriteRun) : Bool := run.pieces.any Piece.isOutput

mutual

/-- A step that never waits. -/
inductive SyncStep where
  | write (run : WriteRun)
  /-- A choice without calls whose branches have no chains. -/
  | choice (place : Nat) (arms : List Arm)
  | declare (place : Nat) (head : Head) (name : String) (body : Scope)

/-- A branch of a choice. -/
inductive Arm where
  | mk (head : Head) (test : Option Test) (body : Layout)

/-- What a step in the chain does when its calls have been made. -/
inductive Stage where
  | sync (step : SyncStep)
  | choice (arms : List Arm)
  | iterate (head : Head) (collection : Formula) (body : Layout)
  | custom (head : Head) (path : String) (bodies : List Scope)
  | render (head : Head) (name : String)
  | inclusion (head : Head) (name : TemplateName)

/-- A step in the chain, and the calls that are made right before it. -/
inductive Staged where
  | mk (place : Nat) (calls : List Call) (stage : Stage)

/-- A scope laid out: its front and its chain. -/
inductive Layout where
  | mk (front : List SyncStep) (chain : List Staged)

end

namespace Layout

/-- What runs when the scope is started. -/
def front : Layout → List SyncStep
  | mk front _ => front

/-- What runs when the started scope is awaited. -/
def chain : Layout → List Staged
  | mk _ chain => chain

/-- Whether the scope may have to wait. -/
def isAsync (layout : Layout) : Bool := !layout.chain.isEmpty

end Layout

/-- Whether the branch makes calls, or may have to wait when it is taken. -/
def Arm.isAsync : Arm → Bool
  | mk head test body =>
    !(test.elim [] Test.calls).isEmpty || !head.calls.isEmpty || body.isAsync

/-! ## Laying out -/

/-- A scope that is being laid out. -/
structure Builder where
  /-- The run of writes that is open. -/
  run : Option WriteRun := none
  front : List SyncStep := []
  chain : List Staged := []
  /-- The place of the next step. -/
  next : Nat := 0

namespace Builder

/-- Puts a step without calls behind all others: into the front, unless the chain has begun. -/
def place (b : Builder) (step : SyncStep) : Builder :=
  if b.chain.isEmpty then { b with front := b.front ++ [step] }
  else { b with chain := b.chain ++ [.mk b.next [] (.sync step)] }

/-- Closes the open run. -/
def flush (b : Builder) : Builder :=
  match b.run with
  | some run => { b with run := none }.place (.write run)
  | none => b

/-- Adds a step that never waits. One with calls to make first goes to the chain all the same. -/
def pushSync (b : Builder) (step : SyncStep) (calls : List Call) : Builder :=
  let b := b.flush
  if calls.isEmpty then b.place step
  else { b with chain := b.chain ++ [.mk b.next calls (.sync step)] }

/-- Adds a step that may have to wait. -/
def pushAsync (b : Builder) (stage : Stage) (calls : List Call) : Builder :=
  let b := b.flush
  { b with chain := b.chain ++ [.mk b.next calls stage] }

/-- Adds a text to the open run. Neighbouring texts are one text by now. -/
def text (b : Builder) (s : String) : Builder :=
  let run := b.run.getD {}
  { b with run := some { run with pieces := run.pieces ++ [.text s] } }

/-- Adds an output directive: to the open run if the context is the same, or else to a new one. One
with calls has a run of its own. -/
def output (b : Builder) (head : Head) (value : Formula) : Builder :=
  if head.calls.isEmpty then
    let b :=
      if b.run.any fun run => run.hasOutput && run.context != head.context then b.flush else b
    let run := b.run.getD {}
    { b with run := some ⟨head.context, run.pieces ++ [.output b.next head value]⟩ }
  else
    b.pushSync (.write ⟨head.context, [.output b.next head value]⟩) head.calls

/-- Adds a choice: one that neither makes calls nor has to wait never waits. -/
def choice (b : Builder) (arms : List Arm) : Builder :=
  if arms.any Arm.isAsync then b.pushAsync (.choice arms) []
  else b.pushSync (.choice b.next arms) []

/-- What comes next stands one place further on. -/
def advance (b : Builder) : Builder := { b with next := b.next + 1 }

/-- The layout of all that has been added. -/
def finish (b : Builder) : Layout :=
  let b := b.flush
  .mk b.front b.chain

end Builder

mutual

/-- Adds a step. -/
def Builder.add (b : Builder) : Step → Builder
  | .text s => b.text s
  | .output head value => b.output head value
  | .choice alternatives => b.choice (layoutArms alternatives)
  | .iterate head collection body =>
    b.pushAsync (.iterate head collection body.layout) head.calls
  | .custom head path bodies => b.pushAsync (.custom head path bodies) head.calls
  | .declare head name body => b.pushSync (.declare b.next head name body) head.calls
  | .render head name => b.pushAsync (.render head name) head.calls
  | .inclusion head name => b.pushAsync (.inclusion head name) head.calls

/-- Adds steps one after the other. -/
def Builder.addAll (b : Builder) : List Step → Builder
  | [] => b
  | s :: ss => (b.add s).advance.addAll ss

/-- The branches of a choice laid out. -/
def layoutArms : List Alternative → List Arm
  | [] => []
  | .mk head test body :: others => .mk head test body.layout :: layoutArms others

/-- The scope laid out to be run. -/
def Scope.layout : Scope → Layout
  | .mk steps => (Builder.addAll {} steps).finish

end

/-- Whether the scope may have to wait. -/
def Scope.isAsync (s : Scope) : Bool := s.layout.isAsync

end Stencil
