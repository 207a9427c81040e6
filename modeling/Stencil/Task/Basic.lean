import Stencil.Program.Run
import Stencil.Task.World

/-!
# Stencil.Task.Basic — suspended renders

A task is a render that may be waiting: for the result of a call, or for a helper, which
in turn has tasks of its own, the bodies it has started. `Task.poll` lets a task do all it
can do now. `Task.run` polls a task until it is through or its deadline has passed. How much
time a poll takes is not known here, so a `Deadline` may pass with any of them; when nothing
has arranged for a further poll, only the deadline can end the render.

Programs are finite, but templates may include one another without end, so polling is
given a bound on the number of its steps. None means that the bound was too small.
-/

namespace Stencil

/-- The outcome of a render or of a part of it. -/
abbrev Outcome := Except RenderError Unit

/-- What is to be done with the outcomes of the scopes that are being run, innermost first. -/
abbrev Returns := List (Outcome → Action Unit)

/-- A render in progress. -/
inductive Task (H : Host) where
  | finished (r : Outcome)
  /-- Goes on when it is polled. -/
  | running (action : Action Unit) (returns : Returns)
  /-- Waits for the result of a call. -/
  | calling (d : H.Pending) (k : Except RenderError Value → Action Unit) (returns : Returns)
  /-- Waits for a helper, which has started these bodies. -/
  | helping (h : H.Helper) (block : CustomBlock) (children : List (Task H)) (returns : Returns)

/-- When a render is given up. -/
structure Deadline where
  milliseconds : Nat
  /-- How many polls may leave the render unfinished before that time is over. Without a number
  it is not over before there is nothing else to wait for. -/
  polls : Option Nat

namespace Deadline

/-- Milliseconds stand for a deadline that is far enough away. -/
instance : Coe Nat Deadline := ⟨fun milliseconds => ⟨milliseconds, none⟩⟩

/-- The deadline as it is one poll later. -/
def next (d : Deadline) : Deadline := { d with polls := d.polls.map (· - 1) }

/-- Whether a render goes on when a poll has left it unfinished: something has to wake it before
its deadline has passed. -/
def permits (deadline : Option Deadline) (woken : Bool) : Bool :=
  woken && deadline.all (·.polls != some 0)

/-- A poll later, the deadline is still so many milliseconds. -/
@[simp]
theorem milliseconds_map_next (deadline : Option Deadline) :
    (deadline.map next).map milliseconds = deadline.map milliseconds := by
  cases deadline <;> rfl

end Deadline

/-- What polling has led to. -/
structure Polled (H : Host) where
  task : Task H
  /-- Whether something has arranged for a further poll. -/
  woken : Bool
  world : World H

/-- A turn of a helper that is over. -/
structure Turned (H : Host) where
  /-- The helper, or its outcome when it is through. -/
  helper : H.Helper ⊕ Outcome
  children : List (Task H)
  woken : Bool
  world : World H

namespace Task

variable {H : Host}

/-- What the task has come to, if it is through. -/
def outcome? : Task H → Option Outcome
  | finished r => some r
  | _ => none

/-- What a render comes to when it waits no longer: nothing, unless it has a deadline. It is stopped
then. -/
def expire (deadline : Option Deadline) (w : World H) : Option (Outcome × World H) :=
  deadline.map fun d => (.error (.timeout d.milliseconds), w.halt)

variable [Evaluator]

/-- Starts a scope at a place: its front runs now, its chain when the task is polled. -/
def start (scope : Scope) (channel : Channel) (frame : Frame) (site : Site) (w : World H) :
    Option (Task H × World H) :=
  let layout := scope.layout
  match w.runNow (layout.runFront channel frame site) with
  | none => none
  | some (.error e, w) => some (finished (.error e), w)
  | some (.ok (), w) =>
    if layout.isAsync then
      some (running (runChain channel frame site layout.chain) [], w)
    else
      some (finished (.ok ()), w)

/-- What a function does with a block when it has no use for blocks: it is called without
arguments, and the result is written. -/
def writeResult (f : Nat) (block : CustomBlock) : Action Unit := do
  let v ← Action.call f block.frame []
  block.channel.write v.display

/-- Carries out a turn of a helper; `pollChild` polls the bodies it has started. -/
def takeTurn (pollChild : Task H → World H → Option (Polled H)) (block : CustomBlock) :
    Turn H.Helper → List (Task H) → Bool → World H → Option (Turned H)
  | .finish r, children, woken, w => some ⟨.inr r, children, woken, w⟩
  | .wait woken' h, children, woken, w => some ⟨.inl h, children, woken || woken', w⟩
  | .write text k, children, woken, w =>
    match w.runNow (block.channel.write text) with
    | none => none
    | some (r, w) => takeTurn pollChild block (k r) children woken w
  | .halt k, children, woken, w => takeTurn pollChild block k children woken w.halt
  | .isHalted k, children, woken, w =>
    takeTurn pollChild block (k w.halted) children woken w
  | .start i frame k, children, woken, w =>
    let started := match block.bodies[i]? with
      | some body => start body block.channel frame (.part block.site children.length) w
      | none => some (finished (.ok ()), w)
    match started with
    | none => none
    | some (child, w) =>
      takeTurn pollChild block (k children.length) (children ++ [child]) woken w
  | .poll i k, children, woken, w =>
    match children[i]? with
    | none => takeTurn pollChild block (k (some (.ok ()))) children woken w
    | some child =>
      match pollChild child w with
      | none => none
      | some ⟨child, woken', w⟩ =>
        takeTurn pollChild block (k child.outcome?) (children.set i child) (woken || woken') w

/-- Lets a task do all it can do now, in at most `fuel` steps. -/
def poll : Nat → Task H → World H → Option (Polled H)
  | 0, _, _ => none
  | _ + 1, finished r, w => some ⟨finished r, false, w⟩
  | _ + 1, running (.done r) [], w => some ⟨finished r, false, w⟩
  | n + 1, running (.done r) (k :: returns), w => poll n (running (k r) returns) w
  | n + 1, running (.ask q k) returns, w =>
    match q, k with
    | .call f frame args, k =>
      match H.call f frame args w.host with
      | (.ready r, host) => poll n (running (k r) returns) { w with host }
      | (.pending _ d, host) => poll n (calling d k returns) { w with host }
    | .custom f block, k =>
      match H.help f block.frame block.bodies.length w.host with
      | (some h, host) => poll n (helping h block [] (k :: returns)) { w with host }
      | (none, host) => poll n (running (writeResult f block) (k :: returns)) { w with host }
    | .enter body channel frame site, k =>
      poll n (running (body.run channel frame site) (k :: returns)) w
    | q, k =>
      match w.answer? q with
      | some (a, w) => poll n (running (k a) returns) w
      | none => none
  | n + 1, calling d k returns, w =>
    match H.poll d w.host with
    | (.ready r, host) => poll n (running (k r) returns) { w with host }
    | (.pending woken d, host) => some ⟨calling d k returns, woken, { w with host }⟩
  | n + 1, helping h block children returns, w =>
    let (turn, host) := H.turn h w.host
    match takeTurn (poll n) block turn children false { w with host } with
    | none => none
    | some ⟨.inl h, children, woken, w⟩ => some ⟨helping h block children returns, woken, w⟩
    | some ⟨.inr r, _, _, w⟩ => poll n (running (Action.ofExcept r) returns) w

/-- Polls a task until it is through, in at most `fuel` steps. When it has a deadline and that has
passed, or there is nothing else to wait for, the render is stopped. -/
def run : Option Deadline → Nat → Task H → World H → Option (Outcome × World H)
  | _, 0, _, _ => none
  | deadline, n + 1, task, w =>
    match poll n task w with
    | none => none
    | some ⟨task, woken, w⟩ =>
      match task.outcome? with
      | some r => some (r, w)
      | none =>
        if Deadline.permits deadline woken then run (deadline.map .next) n task w
        else expire deadline w

end Task

end Stencil
